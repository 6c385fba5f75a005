/-
This file shows which accessor an identity is attributed to, whatever was recorded before. A record
of a value is the same as a record of each identity that the value mentions, in their order; a later
record of an identity takes the place of an earlier one. So of all calls that reach an identity the
latest one counts, and there is one entry for each identity that any call reaches.
-/

import Mathlib.Data.Set.Card
import FrozenGraph.Proofs.Answered
import FrozenGraph.Proofs.Renamed

namespace FrozenGraph

/-! ### The identities of a value -/

namespace Value

/-- The identities that a value mentions, in the order in which they are met. -/
def identities (value : Value) : List Identity :=
  value.parts.filterMap identity?

/-- The identities that some values mention. -/
def identitiesOfAll (values : List Value) : List Identity :=
  (partsOfAll values).filterMap identity?

theorem mem_identities {value : Value} {identity : Identity} :
    identity ∈ value.identities ↔ value.Mentions identity :=
  List.mem_filterMap

theorem identities_list (identity : Identity) (items : List Value) :
    (Value.list identity items).identities = identity :: identitiesOfAll items := rfl

theorem identitiesOfAll_cons (first : Value) (rest : List Value) :
    identitiesOfAll (first :: rest) = first.identities ++ identitiesOfAll rest :=
  List.filterMap_append

end Value

namespace Origins

/-! ### Several identities of one accessor -/

/-- Notes one accessor for several identities. -/
def recordEach (origins : Origins) (identities : List Identity) (method : Method) : Origins :=
  identities.foldl (fun origins identity => origins.record identity method) origins

theorem recordEach_append (origins : Origins) (first second : List Identity) (method : Method) :
    origins.recordEach (first ++ second) method =
      (origins.recordEach first method).recordEach second method :=
  List.foldl_append

mutual

/-- A value is noted by the identities that it mentions. -/
theorem recordValue_eq (method : Method) : (value : Value) → (origins : Origins) →
    recordValue method origins value = origins.recordEach value.identities method
  | .scalar _, _ => rfl
  | .object _, _ => rfl
  | .list identity items, origins => by
    rw [recordValue, recordAll_eq method items, Value.identities_list]
    rfl

theorem recordAll_eq (method : Method) : (values : List Value) → (origins : Origins) →
    recordAll method origins values = origins.recordEach (Value.identitiesOfAll values) method
  | [], _ => rfl
  | first :: rest, origins => by
    rw [recordAll, recordValue_eq method first, recordAll_eq method rest,
      Value.identitiesOfAll_cons, recordEach_append]

end

theorem find?_recordEach (origins : Origins) (identities : List Identity) (method : Method)
    (asked : Identity) :
    (origins.recordEach identities method).find? asked =
      if asked ∈ identities then some (.ofMethod method) else origins.find? asked := by
  induction identities generalizing origins with
  | nil => rfl
  | cons first rest inductionHypothesis =>
    show ((origins.record first method).recordEach rest method).find? asked = _
    rw [inductionHypothesis, find?_record]
    by_cases again : asked ∈ rest
    · rw [if_pos again, if_pos (List.mem_cons_of_mem _ again)]
    · rw [if_neg again]
      exact if_congr (by simp [again]) rfl rfl

/-! ### The entries -/

/-- The identities that have an entry. -/
def keys (origins : Origins) : List Identity :=
  origins.entries.map (·.1)

theorem keys_record (origins : Origins) (identity : Identity) (method : Method) :
    (origins.record identity method).keys =
      identity :: origins.keys.filter (· ≠ identity) := by
  rw [keys, record, List.map_cons, keys, List.filter_map]
  rfl

theorem mem_keys_recordEach (origins : Origins) (identities : List Identity) (method : Method)
    (asked : Identity) :
    asked ∈ (origins.recordEach identities method).keys ↔
      asked ∈ identities ∨ asked ∈ origins.keys := by
  induction identities generalizing origins with
  | nil => simp [recordEach]
  | cons first rest inductionHypothesis =>
    show asked ∈ ((origins.record first method).recordEach rest method).keys ↔ _
    rw [inductionHypothesis, keys_record, List.mem_cons, List.mem_cons, List.mem_filter]
    by_cases own : asked = first <;> simp [own]

/-- An identity never gets a second entry. -/
theorem nodup_keys_recordEach {origins : Origins} (distinct : origins.keys.Nodup)
    (identities : List Identity) (method : Method) :
    (origins.recordEach identities method).keys.Nodup := by
  induction identities generalizing origins with
  | nil => exact distinct
  | cons first rest inductionHypothesis =>
    refine inductionHypothesis ?_
    rw [keys_record]
    exact List.nodup_cons.mpr ⟨by simp, distinct.filter _⟩

/-! ### Calls -/

/-- A call that notes an accessor. -/
inductive Call where
  | record (identity : Identity) (method : Method)
  | recordValue (value : Value) (method : Method)

namespace Call

/-- The accessor that a call notes. -/
def method : Call → Method
  | .record _ method | .recordValue _ method => method

/-- Whether a call notes an identity: by itself, or as that of a value or of something that the
value holds in lists. -/
def Reaches : Call → Identity → Prop
  | .record own _, identity => identity = own
  | .recordValue value _, identity => value.Mentions identity

/-- The identities that a call notes, in their order. -/
def identities : Call → List Identity
  | .record identity _ => [identity]
  | .recordValue value _ => value.identities

theorem mem_identities {call : Call} {identity : Identity} :
    identity ∈ call.identities ↔ call.Reaches identity := by
  cases call with
  | record own method => exact List.mem_singleton
  | recordValue value method => exact Value.mem_identities

end Call

/-- The origins after a call. -/
def call (origins : Origins) : Call → Origins
  | .record identity method => origins.record identity method
  | .recordValue value method => recordValue method origins value

/-- The origins after one call after the other. -/
def after (origins : Origins) (calls : List Call) : Origins :=
  calls.foldl call origins

theorem call_eq (origins : Origins) (call : Call) :
    origins.call call = origins.recordEach call.identities call.method := by
  cases call with
  | record identity method => rfl
  | recordValue value method => exact recordValue_eq method value origins

theorem after_concat (origins : Origins) (calls : List Call) (call : Call) :
    origins.after (calls ++ [call]) = (origins.after calls).call call := by
  simp [after]

section Single

variable {origins : Origins} {call : Call} {identity : Identity}

theorem find?_call_of_reaches (reached : call.Reaches identity) :
    (origins.call call).find? identity = some (.ofMethod call.method) := by
  rw [call_eq, find?_recordEach, if_pos (Call.mem_identities.mpr reached)]

theorem find?_call_of_not_reaches (missed : ¬ call.Reaches identity) :
    (origins.call call).find? identity = origins.find? identity := by
  rw [call_eq, find?_recordEach, if_neg (missed ∘ Call.mem_identities.mp)]

end Single

/-! ### Histories -/

/-- Whether a call is the latest one of a history that reaches an identity. -/
def Call.IsLatest (call : Call) (calls : List Call) (identity : Identity) : Prop :=
  ∃ earlier later, calls = earlier ++ call :: later ∧ call.Reaches identity ∧
    ∀ other ∈ later, ¬ other.Reaches identity

namespace Call.IsLatest

variable {calls : List Call} {call latest : Call} {identity : Identity}

/-- A call that reaches an identity is the latest one to do so until another one does. -/
theorem concat_iff :
    latest.IsLatest (calls ++ [call]) identity ↔
      (latest = call ∧ call.Reaches identity) ∨
        (¬ call.Reaches identity ∧ latest.IsLatest calls identity) := by
  constructor
  · rintro ⟨earlier, later, split, reached, missed⟩
    rcases List.eq_nil_or_concat later with rfl | ⟨others, last, rfl⟩
    · obtain ⟨-, same⟩ := List.append_inj' split rfl
      obtain rfl : call = latest := List.singleton_inj.mp same
      exact .inl ⟨rfl, reached⟩
    · rw [List.concat_eq_append, ← List.cons_append, ← List.append_assoc] at split
      obtain ⟨before, same⟩ := List.append_inj' split rfl
      obtain rfl : call = last := List.singleton_inj.mp same
      rw [List.concat_eq_append, List.forall_mem_append] at missed
      exact .inr ⟨missed.2 _ List.mem_cons_self, earlier, others, before, reached, missed.1⟩
  · rintro (⟨rfl, reached⟩ | ⟨missed, earlier, later, rfl, reached, others⟩)
    · exact ⟨calls, [], rfl, reached, nofun⟩
    · refine ⟨earlier, later ++ [call], by simp, reached, ?_⟩
      rw [List.forall_mem_append]
      exact ⟨others, List.forall_mem_singleton.mpr missed⟩

end Call.IsLatest

/-- An identity is attributed to the accessor of the latest call that reaches it. -/
theorem find?_after_iff (calls : List Call) (identity : Identity) (origin : Origin) :
    (empty.after calls).find? identity = some origin ↔
      ∃ call : Call, call.IsLatest calls identity ∧ origin = .ofMethod call.method := by
  induction calls using List.reverseRecOn with
  | nil =>
    refine ⟨nofun, ?_⟩
    rintro ⟨call, ⟨earlier, later, split, -⟩, -⟩
    simp at split
  | append_singleton calls call inductionHypothesis =>
    rw [after_concat]
    simp only [Call.IsLatest.concat_iff]
    by_cases reached : call.Reaches identity
    · rw [find?_call_of_reaches reached, Option.some_inj]
      simp [reached, eq_comm]
    · rw [find?_call_of_not_reaches reached, inductionHypothesis]
      simp [reached]

/-- The identities with an entry are those that a call reaches. -/
theorem mem_keys_after (calls : List Call) (identity : Identity) :
    identity ∈ (empty.after calls).keys ↔ ∃ call ∈ calls, call.Reaches identity := by
  induction calls using List.reverseRecOn with
  | nil => simp [after, empty, keys]
  | append_singleton calls call inductionHypothesis =>
    rw [after_concat, call_eq, mem_keys_recordEach, inductionHypothesis, Call.mem_identities,
      or_comm]
    simp [or_and_right, exists_or]

theorem nodup_keys_after (calls : List Call) : (empty.after calls).keys.Nodup := by
  induction calls using List.reverseRecOn with
  | nil => exact List.nodup_nil
  | append_singleton calls call inductionHypothesis =>
    rw [after_concat, call_eq]
    exact nodup_keys_recordEach inductionHypothesis _ _

theorem find?_eq_none_iff (origins : Origins) (identity : Identity) :
    origins.find? identity = none ↔ identity ∉ origins.keys := by
  rw [find?, Option.map_eq_none_iff, List.lookup_eq_none_iff, keys]
  constructor
  · rintro missing member
    obtain ⟨entry, listed, own⟩ := List.mem_map.mp member
    exact bne_iff_ne.mp (missing entry listed) own.symm
  · intro missing entry listed
    exact bne_iff_ne.mpr fun own => missing (List.mem_map.mpr ⟨entry, listed, own.symm⟩)

/-- After any calls, in any order and about any values, an identity has the origin that the latest
call noted by which it was reached: by itself, or in a value through lists, and never through
objects. It has none if there is no such call, and there are as many entries as identities that were
reached. -/
theorem after_attributes (calls : List Call) :
    (∀ identity origin, (empty.after calls).find? identity = some origin ↔
      ∃ call : Call, call.IsLatest calls identity ∧ origin = .ofMethod call.method) ∧
    (∀ identity, (empty.after calls).find? identity = none ↔
      ∀ call ∈ calls, ¬ call.Reaches identity) ∧
    {identity | ∃ call ∈ calls, call.Reaches identity}.encard = (empty.after calls).size := by
  refine ⟨find?_after_iff calls, fun identity => ?_, ?_⟩
  · rw [find?_eq_none_iff, mem_keys_after]
    exact not_exists.trans (forall_congr' fun _ => not_and)
  · have reached : {identity | ∃ call ∈ calls, call.Reaches identity} =
        ((empty.after calls).keys.toFinset : Set Identity) := by
      ext identity
      simp [mem_keys_after]
    rw [reached, Set.encard_coe_eq_coe_finsetCard,
      List.toFinset_card_of_nodup (nodup_keys_after calls), keys, List.length_map, size]

/-- A list that two accessors answered is the second one's, and the list beside it the first one's
still. -/
example (first second : Method) :
    let shared := Value.list (.fresh 0) [.null]
    let origins := empty.after [
      .recordValue (.list (.fresh 1) [shared, .list (.fresh 2) []]) first,
      .recordValue shared second]
    origins.find? (.fresh 0) = some (.ofMethod second) ∧
      origins.find? (.fresh 2) = some (.ofMethod first) ∧ origins.size = 3 :=
  ⟨rfl, rfl, rfl⟩

end Origins

end FrozenGraph
