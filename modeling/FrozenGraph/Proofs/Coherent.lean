/-
This file says what an identity has to mean. A reference to a list is one list: whatever has its
identity is that list, with the same items. A session relies on that, and keeps every value it has
seen so that no identity passes on to another value.
-/

import FrozenGraph.Freeze.Snapshot

namespace FrozenGraph

namespace Value

mutual

/-- A value together with everything that it holds in lists. -/
def parts : Value → List Value
  | .scalar value => [.scalar value]
  | .list identity items => .list identity items :: partsOfAll items
  | .object live => [.object live]

/-- Some values together with everything that they hold in lists. -/
def partsOfAll : List Value → List Value
  | [] => []
  | first :: rest => first.parts ++ partsOfAll rest

end

theorem mem_parts_self : (value : Value) → value ∈ value.parts
  | .scalar _ | .object _ => List.mem_singleton.mpr rfl
  | .list _ _ => List.mem_cons_self

theorem mem_partsOfAll {items : List Value} {part : Value} :
    part ∈ partsOfAll items ↔ ∃ item ∈ items, part ∈ item.parts := by
  induction items with
  | nil => simp [partsOfAll]
  | cons first rest inductionHypothesis =>
    simp [partsOfAll, inductionHypothesis]

mutual

/-- What a part holds in lists is a part. -/
theorem item_mem_parts {identity : Identity} {items : List Value} {item : Value}
    (held : item ∈ items) : (value : Value) → .list identity items ∈ value.parts →
    item ∈ value.parts
  | .scalar _, member => by simp [parts] at member
  | .object _, member => by simp [parts] at member
  | .list other others, member => by
    rcases List.mem_cons.mp member with same | inner
    · obtain ⟨rfl, rfl⟩ := Value.list.inj same
      exact List.mem_cons_of_mem _ (mem_partsOfAll.mpr ⟨item, held, mem_parts_self item⟩)
    · exact List.mem_cons_of_mem _ (item_mem_partsOfAll held others inner)

theorem item_mem_partsOfAll {identity : Identity} {items : List Value} {item : Value}
    (held : item ∈ items) : (values : List Value) → .list identity items ∈ partsOfAll values →
    item ∈ partsOfAll values
  | [], member => nomatch member
  | first :: rest, member => by
    rcases List.mem_append.mp member with early | late
    · exact List.mem_append_left _ (item_mem_parts held first early)
    · exact List.mem_append_right _ (item_mem_partsOfAll held rest late)

end

/-- Whether a value is a list. -/
def isList : Value → Bool
  | .list .. => true
  | .scalar _ | .object _ => false

/-- Whether the identity of each list in some values belongs to that list alone. -/
def Coherent (values : List Value) : Prop :=
  ∀ listed ∈ partsOfAll values, listed.isList →
    ∀ other ∈ partsOfAll values, other.identity? = listed.identity? → other = listed

/-- Fewer values are coherent where more are. -/
theorem Coherent.of_subset {values others : List Value} (coherent : Coherent values)
    (fewer : ∀ value ∈ others, value ∈ values) : Coherent others := by
  have inner : ∀ part ∈ partsOfAll others, part ∈ partsOfAll values := by
    intro part member
    obtain ⟨value, listed, own⟩ := mem_partsOfAll.mp member
    exact mem_partsOfAll.mpr ⟨value, fewer value listed, own⟩
  exact fun listed member isList other otherMember same =>
    coherent listed (inner listed member) isList other (inner other otherMember) same

mutual

/-- Values are compared with everything that they hold. -/
def decideEq : (first second : Value) → Decidable (first = second)
  | .scalar first, .scalar second =>
    if same : first = second then isTrue (same ▸ rfl)
    else isFalse fun equal => same (Value.scalar.inj equal)
  | .list first items, .list second others =>
    if same : first = second then
      match decideEqAll items others with
      | isTrue sameItems => isTrue (same ▸ sameItems ▸ rfl)
      | isFalse differ => isFalse fun equal => differ (Value.list.inj equal).2
    else isFalse fun equal => same (Value.list.inj equal).1
  | .object first, .object second =>
    if same : first = second then isTrue (same ▸ rfl)
    else isFalse fun equal => same (Value.object.inj equal)
  | .scalar _, .list .. | .scalar _, .object _ | .list .., .scalar _ | .list .., .object _
  | .object _, .scalar _ | .object _, .list .. => isFalse nofun

/-- Lists of values are compared item by item. -/
def decideEqAll : (first second : List Value) → Decidable (first = second)
  | [], [] => isTrue rfl
  | [], _ :: _ | _ :: _, [] => isFalse nofun
  | first :: rest, second :: others =>
    match decideEq first second, decideEqAll rest others with
    | isTrue same, isTrue sameRest => isTrue (same ▸ sameRest ▸ rfl)
    | isFalse differ, _ => isFalse fun equal => differ (List.cons.inj equal).1
    | _, isFalse differ => isFalse fun equal => differ (List.cons.inj equal).2

end

instance : DecidableEq Value := decideEq

instance (values : List Value) : Decidable (Coherent values) :=
  inferInstanceAs (Decidable (∀ listed ∈ partsOfAll values, listed.isList →
    ∀ other ∈ partsOfAll values, other.identity? = listed.identity? → other = listed))

end Value

/-- The values that some invocations answered. -/
def Invocation.answers (invocations : List Invocation) : List Value :=
  invocations.filterMap (·.outcome.toOption)

theorem Invocation.answers_cons_ok (object : Identity) (accessor : String) (value : Value)
    (rest : List Invocation) :
    answers (⟨object, accessor, .ok value⟩ :: rest) = value :: answers rest := rfl

theorem Invocation.answers_append (first second : List Invocation) :
    answers (first ++ second) = answers first ++ answers second :=
  List.filterMap_append

theorem Invocation.mem_answers {invocations : List Invocation} {value : Value} :
    value ∈ answers invocations ↔ ∃ invocation ∈ invocations, invocation.outcome = .ok value := by
  have toOption {outcome : Except AccessorFault Value} :
      outcome.toOption = some value ↔ outcome = .ok value := by
    cases outcome <;> simp [Except.toOption]
  simp [answers, List.mem_filterMap, toOption]

/-- Values that hold everything in their lists, and in which identities are coherent. -/
structure Universe (holds : Value → Prop) : Prop where
  items : ∀ {identity items}, holds (.list identity items) → ∀ item ∈ items, holds item
  coherent : ∀ {identity items other}, holds (.list identity items) → holds other →
    other.identity? = some identity → other = .list identity items

/-- Coherent values are a universe, with all their parts. -/
theorem Universe.of_coherent {values : List Value} (coherent : Value.Coherent values) :
    Universe (· ∈ Value.partsOfAll values) where
  items member _ held := Value.item_mem_partsOfAll held values member
  coherent member other same := coherent _ member rfl _ other same

end FrozenGraph
