/-
This file follows one answer through a walk. After an accessor has answered, the answer is written
in a part of the walk of its own, and the session of that part knows no more than what was known
before and what the earlier answers mention. An object that no earlier answer mentions is therefore
written there for the first time, as the target that its declared type stands for.
-/

import FrozenGraph.Proofs.Shared
import FrozenGraph.Proofs.Targeted

namespace FrozenGraph

/-! ### What is known -/

/-- Whether an identity occurs in a value. -/
def Value.Mentions (value : Value) (identity : Identity) : Prop :=
  ∃ part ∈ value.parts, part.identity? = some identity

theorem Value.mentions_self {value : Value} {identity : Identity}
    (identified : value.identity? = some identity) : value.Mentions identity :=
  ⟨value, mem_parts_self value, identified⟩

theorem Value.mentions_of_item {listed identity : Identity} {items : List Value} {item : Value}
    (member : item ∈ items) (mentions : item.Mentions identity) :
    (Value.list listed items).Mentions identity := by
  obtain ⟨part, inner, same⟩ := mentions
  exact ⟨part, List.mem_cons_of_mem _ (mem_partsOfAll.mpr ⟨item, member, inner⟩), same⟩

/-- Whether an identity occurs in no value of a list. -/
def Value.Omit (values : List Value) (identity : Identity) : Prop :=
  ∀ value ∈ values, ¬ value.Mentions identity

theorem Value.omit_nil (identity : Identity) : Omit [] identity := nofun

theorem Value.omit_cons {value : Value} {rest : List Value} {identity : Identity} :
    Omit (value :: rest) identity ↔ ¬ value.Mentions identity ∧ Omit rest identity :=
  List.forall_mem_cons

theorem Value.omit_append {first second : List Value} {identity : Identity} :
    Omit (first ++ second) identity ↔ Omit first identity ∧ Omit second identity :=
  List.forall_mem_append

theorem Value.omit_singleton {value : Value} {identity : Identity} :
    Omit [value] identity ↔ ¬ value.Mentions identity :=
  List.forall_mem_singleton

theorem Value.omit_items {listed identity : Identity} {items : List Value}
    (omits : ¬ (Value.list listed items).Mentions identity) : Omit items identity :=
  fun _ member mentions => omits (mentions_of_item member mentions)

/-- Whether no answer of some events mentions an identity. -/
def Event.Silent (events : List Event) (identity : Identity) : Prop :=
  Value.Omit (Invocation.answers (Event.invocations events)) identity

theorem Event.silent_append {first second : List Event} {identity : Identity} :
    Silent (first ++ second) identity ↔ Silent first identity ∧ Silent second identity := by
  rw [Silent, invocations_append, Invocation.answers_append, Value.omit_append]
  rfl

theorem Event.silent_cons_call {object identity : Identity} {method : Method} {value : Value}
    {events : List Event} : Silent (.call object method (.ok value) :: events) identity ↔
      ¬ value.Mentions identity ∧ Silent events identity :=
  Value.omit_cons

theorem Memo.find?_record_of_none {memo : Memo} {identity other : Identity} {code : Code}
    (unknown : memo.find? other = none) (apart : identity ≠ other) :
    (memo.record identity code).find? other = none := by
  rw [find?_record, unknown, if_neg apart.symm, Option.or_none]

theorem Run.recordFor_find?_of_none {run : Run} {value : Value} {code : Code} {other : Identity}
    (unknown : run.session.memo.find? other = none) (omits : ¬ value.Mentions other) :
    (run.recordFor value code).session.memo.find? other = none := by
  unfold recordFor
  split
  · rename_i identity identified
    refine Memo.find?_record_of_none unknown ?_
    rintro rfl
    exact omits (Value.mentions_self identified)
  · exact unknown

/-- What is known after a part of a walk was known before, or occurs in what the part writes or in
what is answered in its course. -/
theorem Walked.find?_of_none {heap : Heap} {part : Part} {before after : Run}
    {events : List Event} (walked : Walked heap part before events after) {identity : Identity}
    (unknown : before.session.memo.find? identity = none)
    (aside : Value.Omit part.values identity) (silent : Event.Silent events identity) :
    after.session.memo.find? identity = none := by
  induction walked with
  | scalar | known | noItem | reused | null | noMethod => exact unknown
  | list _ _ inductionHypothesis =>
    have omits := Value.omit_singleton.mp aside
    refine Memo.find?_record_of_none
      (inductionHypothesis unknown (Value.omit_items omits) silent) ?_
    rintro rfl
    exact omits (Value.mentions_self rfl)
  | literalObject _ _ _ inductionHypothesis => exact inductionHypothesis unknown aside silent
  | item _ _ head tail =>
    obtain ⟨own, others⟩ := Value.omit_cons.mp aside
    obtain ⟨early, late⟩ := Event.silent_append.mp silent
    refine tail (head ?_ (Value.omit_singleton.mpr own) early) others late
    rwa [Run.retain_memo]
  | rendered _ _ _ _ inductionHypothesis =>
    refine Memo.find?_record_of_none (inductionHypothesis unknown (Value.omit_nil _) silent) ?_
    rintro rfl
    exact Value.omit_singleton.mp aside (Value.mentions_self rfl)
  | recalled => exact Run.recordFor_find?_of_none unknown (Value.omit_singleton.mp aside)
  | literal _ _ inductionHypothesis =>
    exact Run.recordFor_find?_of_none (inductionHypothesis unknown aside silent)
      (Value.omit_singleton.mp aside)
  | expanded _ _ inductionHypothesis =>
    refine Memo.find?_record_of_none (inductionHypothesis unknown aside silent) ?_
    rintro rfl
    exact Value.omit_singleton.mp aside (Value.mentions_self rfl)
  | skipped _ _ inductionHypothesis => exact inductionHypothesis unknown (Value.omit_nil _) silent
  | method _ _ recorded _ _ expressed later =>
    obtain ⟨own, inner⟩ := Event.silent_cons_call.mp silent
    obtain ⟨early, late⟩ := Event.silent_append.mp inner
    refine later (expressed ?_ (Value.omit_singleton.mpr own) early) (Value.omit_nil _) late
    rwa [Ledger.memo_of_record recorded]

/-! ### Where an answer is written -/

/-- The registry in which a part of a walk is written. -/
def Part.registry : Part → Registry
  | .value registry _ _ _ _ | .items registry _ _ _ | .object registry _ _ _ _
  | .answer _ registry _ _ _ | .methods _ registry _ _ _ => registry

/-- The types that are expanded in a part of a walk. -/
def Part.expansions : Part → Expansions
  | .value _ expansions _ _ _ | .items _ expansions _ _ | .object _ expansions _ _ _ => expansions
  | .answer node _ _ _ _ | .methods node _ _ _ _ => node.expansions

/-- After a method of an object has answered in the course of a part of a walk, some events after
the beginning of that part, the answer is written in a part of its own: it expands the same types,
knows at least the same types, and has seen nothing but what was seen before. -/
inductive Writes (heap : Heap) (part : Part) (before : Run) (object : Identity) (method : Method)
    (value : Value) : (earlier later : List Event) → Prop
  | intro {node registry code reached between earlier written rest}
    (own : node.object.identity = object) (expansions : node.expansions = part.expansions)
    (widens : registry.Widens part.registry)
    (unknown : ∀ identity, before.session.memo.find? identity = none →
      Value.Omit part.values identity → Event.Silent earlier identity →
      reached.session.memo.find? identity = none)
    (walked : Walked heap (.answer node registry method.returns value code) reached written
      between) :
    Writes heap part before object method value earlier (written ++ rest)

namespace Writes

variable {heap : Heap} {part inner : Part} {before between : Run} {object : Identity}
  {method : Method} {value : Value} {earlier later : List Event}

/-- What happens in a part of a part happens in the whole, before and after other events. -/
theorem of_append (writes : Writes heap inner between object method value earlier later)
    (first more : List Event) (expansions : inner.expansions = part.expansions)
    (widens : inner.registry.Widens part.registry)
    (unknown : ∀ identity, before.session.memo.find? identity = none →
      Value.Omit part.values identity → Event.Silent first identity →
      between.session.memo.find? identity = none ∧ Value.Omit inner.values identity) :
    Writes heap part before object method value (first ++ earlier) (later ++ more) := by
  obtain ⟨owner, same, wider, fresh, walked⟩ := writes
  rw [List.append_assoc]
  refine ⟨owner, same.trans expansions, fun name known => wider name (widens name known), ?_,
    walked⟩
  intro identity absent aside silent
  obtain ⟨early, late⟩ := Event.silent_append.mp silent
  obtain ⟨still, omits⟩ := unknown identity absent aside early
  exact fresh identity still omits late

/-- What happens in a part that is the whole but for its ends happens in the whole. -/
theorem of_inner (writes : Writes heap inner between object method value earlier later)
    (expansions : inner.expansions = part.expansions)
    (widens : inner.registry.Widens part.registry)
    (unknown : ∀ identity, before.session.memo.find? identity = none →
      Value.Omit part.values identity →
      between.session.memo.find? identity = none ∧ Value.Omit inner.values identity) :
    Writes heap part before object method value earlier later := by
  rw [← List.append_nil later]
  exact writes.of_append [] [] expansions widens fun identity absent aside _ =>
    unknown identity absent aside

end Writes

theorem Event.append_eq_append_cons {first second earlier later : List Event} {event : Event}
    (split : first ++ second = earlier ++ event :: later) :
    (∃ rest, first = earlier ++ event :: rest ∧ later = rest ++ second) ∨
      ∃ between, earlier = first ++ between ∧ second = between ++ event :: later := by
  rcases List.append_eq_append_iff.mp split with ⟨between, early, late⟩ | ⟨rest, early, late⟩
  · exact .inr ⟨between, early, late⟩
  · rcases List.cons_eq_append_iff.mp late with ⟨rfl, same⟩ | ⟨others, rfl, same⟩
    · exact .inr ⟨[], by simp [early], same⟩
    · exact .inl ⟨others, early, same⟩

/-- Every answer is written in a part of the walk that follows the call at once. -/
theorem Walked.writes {heap : Heap} {part : Part} {before after : Run}
    {events : List Event} (walked : Walked heap part before events after)
    {earlier later : List Event} {object : Identity} {method : Method} {value : Value}
    (split : events = earlier ++ .call object method (.ok value) :: later) :
    Writes heap part before object method value earlier later := by
  induction walked generalizing earlier later with
  | scalar | known | noItem | reused | null | recalled | noMethod =>
    cases (List.nil_eq_append_iff.mp split).2
  | list _ _ inductionHypothesis =>
    exact (inductionHypothesis split).of_inner rfl (.refl _) fun identity unknown aside =>
      ⟨unknown, Value.omit_items (Value.omit_singleton.mp aside)⟩
  | literalObject _ _ _ inductionHypothesis =>
    exact (inductionHypothesis split).of_inner rfl (.refl _) fun _ unknown aside =>
      ⟨unknown, aside⟩
  | item headWalked _ head tail =>
    rcases Event.append_eq_append_cons split with ⟨rest, early, rfl⟩ | ⟨between, rfl, late⟩
    · refine (head early).of_append [] _ rfl (.refl _) fun identity unknown aside _ => ⟨?_, ?_⟩
      · rwa [Run.retain_memo]
      · exact Value.omit_singleton.mpr (Value.omit_cons.mp aside).1
    · rw [← List.append_nil later]
      refine (tail late).of_append _ [] rfl (.refl _) fun identity unknown aside silent => ?_
      obtain ⟨own, others⟩ := Value.omit_cons.mp aside
      refine ⟨headWalked.find?_of_none ?_ (Value.omit_singleton.mpr own) silent, others⟩
      rwa [Run.retain_memo]
  | @rendered _ _ _ _ _ _ _ _ _ _ built _ _ inductionHypothesis =>
    rcases List.cons_eq_append_iff.mp split with ⟨_, impossible⟩ | ⟨others, rfl, rest⟩
    · cases impossible
    · rw [← List.append_nil later]
      refine (inductionHypothesis rest).of_append [.rendering _] []
        (Node.built_of_build built).expansions_eq (.refl _) fun _ unknown _ _ => ⟨unknown, ?_⟩
      exact Value.omit_nil _
  | literal _ _ inductionHypothesis =>
    exact (inductionHypothesis split).of_inner rfl (Node.inner_widens (.refl _))
      fun _ unknown aside => ⟨unknown, aside⟩
  | expanded _ _ inductionHypothesis =>
    exact (inductionHypothesis split).of_inner rfl (Node.inner_widens (.refl _))
      fun _ unknown aside => ⟨unknown, aside⟩
  | skipped _ _ inductionHypothesis =>
    exact (inductionHypothesis split).of_inner rfl (.refl _) fun _ unknown aside =>
      ⟨unknown, aside⟩
  | method _ _ recorded expressedWalked _ expressed after =>
    have memo := Ledger.memo_of_record recorded
    rcases List.cons_eq_append_iff.mp split with ⟨rfl, same⟩ | ⟨others, rfl, rest⟩
    · obtain ⟨called, rfl⟩ := List.cons.inj same
      cases called
      exact .intro rfl rfl (.refl _) (fun _ unknown _ _ => by rwa [memo]) expressedWalked
    · rcases Event.append_eq_append_cons rest with ⟨more, early, rfl⟩ | ⟨inner, rfl, late⟩
      · refine (expressed early).of_append [.call _ _ _] _ rfl (.refl _)
          fun identity unknown _ silent => ⟨by rwa [memo], ?_⟩
        exact Value.omit_singleton.mpr (Event.silent_cons_call.mp silent).1
      · rw [← List.append_nil later]
        refine (after late).of_append (.call _ _ _ :: _) [] rfl (.refl _)
          fun identity unknown _ silent => ⟨?_, Value.omit_nil _⟩
        obtain ⟨own, quiet⟩ := Event.silent_cons_call.mp silent
        exact expressedWalked.find?_of_none (by rwa [memo]) (Value.omit_singleton.mpr own) quiet

/-- An object that is not known when it is answered is rendered as the target of its declared type,
where that type is registered and takes the object. -/
theorem Walked.rendering_of_unknown {heap : Heap} {node : Node} {registry : Registry}
    {declared : DeclaredType} {live : LiveObject} {code : Code} {before after : Run}
    {events : List Event}
    (walked : Walked heap (.answer node registry declared (.object live) code) before events after)
    (unknown : before.session.memo.find? live.identity = none)
    (registered : Encode.IsRegistered registry node.expansions declared)
    (taken : declared.takes live.runtime) :
    ∃ target, ⟨live.identity, target⟩ ∈ Event.renderings events ∧ target.Stands declared := by
  have rendered : ∀ {inner target events after},
      Walked heap (.object inner node.expansions live target code) before events after →
      ⟨live.identity, target⟩ ∈ Event.renderings events := by
    intro inner target events after walked
    cases walked with
    | reused found =>
      rw [unknown] at found
      cases found
    | rendered => exact List.mem_cons_self
  generalize shape : Value.object live = value at walked
  cases walked with
  | null => cases shape
  | recalled routed =>
    subst shape
    obtain ⟨identity, identified, found⟩ := Route.known_of_choose routed
    rw [← Option.some.inj identified, unknown] at found
    cases found
  | literal _ written =>
    subst shape
    cases written with
    | known identified found =>
      rw [← Option.some.inj identified, unknown] at found
      cases found
    | literalObject _ fits expanded =>
      exact ⟨_, rendered expanded,
        Encode.targetFor?_stands (registered.mono (Node.inner_widens (.refl _))) taken fits⟩
  | expanded routed written =>
    obtain rfl := Value.object.inj shape
    refine ⟨_, rendered written, ?_⟩
    cases Route.chosen_of_eq routed with
    | expand _ chosen _ => exact Expansions.stands_of_byDeclared? chosen

/-! ### Positions -/

/-- Where an invocation is noted, a method of its object was called. -/
theorem Event.exists_call {events : List Event} {earlier later : List Invocation}
    {invocation : Invocation} (split : invocations events = earlier ++ invocation :: later) :
    ∃ first method second,
      events = first ++ .call invocation.object method invocation.outcome :: second ∧
        invocations first = earlier ∧ method.name = invocation.accessor := by
  obtain ⟨first, rest, rfl, early, late⟩ := List.filterMap_eq_append_iff.mp split
  obtain ⟨between, event, second, rfl, silent, noted, _⟩ := List.filterMap_eq_cons_iff.mp late
  cases event with
  | rendering begun => cases noted
  | call object method outcome =>
    cases noted
    refine ⟨first ++ between, method, second, by rw [List.append_assoc], ?_, rfl⟩
    have nothing : invocations between = [] := List.filterMap_eq_nil_iff.mpr silent
    rw [invocations_append, nothing, List.append_nil]
    exact early

/-- In a walk that ends with an answer, every invocation has one. -/
theorem Walked.exists_outcome {heap : Heap} {part : Part} {before after : Run}
    {events : List Event} (walked : Walked heap part before events after) :
    ∀ invocation ∈ Event.invocations events, ∃ value, invocation.outcome = .ok value := by
  induction walked with
  | scalar | known | noItem | reused | null | recalled | noMethod =>
    exact fun _ member => nomatch member
  | list _ _ inductionHypothesis => exact inductionHypothesis
  | literalObject _ _ _ inductionHypothesis => exact inductionHypothesis
  | item _ _ head tail =>
    rw [Event.invocations_append]
    exact List.forall_mem_append.mpr ⟨head, tail⟩
  | rendered _ _ _ _ inductionHypothesis => exact inductionHypothesis
  | literal _ _ inductionHypothesis => exact inductionHypothesis
  | expanded _ _ inductionHypothesis => exact inductionHypothesis
  | skipped _ _ inductionHypothesis => exact inductionHypothesis
  | @method _ _ _ _ _ _ value _ _ _ _ _ _ _ _ _ _ _ _ _ _ expressed later =>
    rw [Event.invocations_cons_call, Event.invocations_append]
    exact List.forall_mem_cons.mpr ⟨⟨value, rfl⟩, List.forall_mem_append.mpr ⟨expressed, later⟩⟩

theorem Invocation.length_answers {invocations : List Invocation}
    (answered : ∀ invocation ∈ invocations, ∃ value, invocation.outcome = .ok value) :
    (answers invocations).length = invocations.length := by
  induction invocations with
  | nil => rfl
  | cons invocation rest inductionHypothesis =>
    obtain ⟨⟨value, own⟩, others⟩ := List.forall_mem_cons.mp answered
    obtain ⟨object, accessor, outcome⟩ := invocation
    rw [show outcome = .ok value from own, answers_cons_ok, List.length_cons, List.length_cons,
      inductionHypothesis others]

end FrozenGraph
