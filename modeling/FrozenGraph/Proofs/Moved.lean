/-
This file moves a heap to other identities. Wherever the identities go, as long as no two of them
fall together, the heap that is moved answers what the first one does: it takes its history back to
where it came from, asks the first heap, and moves the answer. So every heap is the same up to a
renaming as each of its moved copies, and so are values and canned representations.
-/

import FrozenGraph.Proofs.Exchanged
import FrozenGraph.Proofs.Renamed
import Mathlib.Logic.Function.Basic

namespace FrozenGraph

/-! ### Moving -/

section Moving

variable (move : Identity → Identity)

/-- The same object in another place. -/
def LiveObject.moved (live : LiveObject) : LiveObject :=
  { live with identity := move live.identity }

mutual

/-- The same value with its lists and objects in other places. -/
def Value.moved : Value → Value
  | .scalar content => .scalar content
  | .list identity items => .list (move identity) (allMoved items)
  | .object live => .object (live.moved move)

/-- The same values with their lists and objects in other places. -/
def Value.allMoved : List Value → List Value
  | [] => []
  | first :: rest => first.moved :: allMoved rest

end

mutual

/-- The same template with its values in other places. -/
def Template.moved : Template → Template
  | .existing value => .existing (value.moved move)
  | .fresh items => .fresh (allMoved items)

/-- The same templates with their values in other places. -/
def Template.allMoved : List Template → List Template
  | [] => []
  | first :: rest => first.moved :: allMoved rest

end

/-- The same statement with the object of its node in another place. -/
def Deferred.moved : Deferred → Deferred
  | .text content => .text content
  | .failing details => .failing details
  | .node planned => .node { planned with object := planned.object.moved move }
  | .snapshot number => .snapshot number

/-- The same expression with the objects of its nodes in other places. -/
def Code.moved : Code → Code :=
  Expr.map (Deferred.moved move)

/-- The same representations for what is in other places. -/
def Canned.moved (canned : Canned) : Canned :=
  ⟨canned.entries.map fun (identity, key, code) =>
    (move identity, key.moved move, Code.moved move code)⟩

/-- The same invocation of an object in another place. -/
def Invocation.moved (invocation : Invocation) : Invocation :=
  ⟨move invocation.object, invocation.accessor, invocation.outcome.map (Value.moved move)⟩

/-- The same heap in other places, where `back` undoes the move. -/
def Heap.moved (back : Identity → Identity) (heap : Heap) : Heap where
  objects := heap.objects.map (LiveObject.moved move)
  answer history object accessor :=
    (heap.answer (history.map (Invocation.moved back)) (back object) accessor).map
      (Template.moved move)
  supply := move ∘ heap.supply

end Moving

/-- Every identity stands for the one that it is moved to; nothing else changes. -/
def Renaming.along {move : Identity → Identity} (injective : Function.Injective move) :
    Renaming where
  relates identity identity' := move identity = identity'
  oneToOne := ⟨fun _ _ _ here there => injective (here.trans there.symm),
    fun _ _ _ here there => here.symm.trans there⟩
  texts := Eq
  faults := Eq

section There

variable {move : Identity → Identity} (injective : Function.Injective move)

theorem LiveObject.renamed_moved (live : LiveObject) :
    live.Renamed (.along injective) (live.moved move) :=
  ⟨rfl, rfl, rfl⟩

mutual

theorem Value.renamed_moved : (value : Value) →
    value.Renamed (.along injective) (value.moved move)
  | .scalar content => .scalar content
  | .list _ items => .list rfl (Value.allRenamed_allMoved items)
  | .object live => .object (live.renamed_moved injective)

theorem Value.allRenamed_allMoved : (items : List Value) →
    Value.AllRenamed (.along injective) items (Value.allMoved move items)
  | [] => .nil
  | first :: rest => .cons (Value.renamed_moved first) (Value.allRenamed_allMoved rest)

end

mutual

theorem Template.renamed_moved : (template : Template) →
    template.Renamed (.along injective) (template.moved move)
  | .existing value => .existing (value.renamed_moved injective)
  | .fresh items => .fresh (Template.allRenamed_allMoved items)

theorem Template.allRenamed_allMoved : (items : List Template) →
    Template.AllRenamed (.along injective) items (Template.allMoved move items)
  | [] => .nil
  | first :: rest => .cons (Template.renamed_moved first) (Template.allRenamed_allMoved rest)

end

theorem Deferred.renamed_moved (statement : Deferred) :
    statement.Renamed (.along injective) (statement.moved move) := by
  cases statement with
  | text content => exact .text content
  | failing details => exact .failing details
  | node planned =>
    exact .node ⟨planned.object.renamed_moved injective, rfl, rfl, rfl, rfl, rfl⟩
  | snapshot number => exact .snapshot number

end There

/-! ### Expressions -/

namespace Expr

variable {δ δ' : Type} {statements : δ → δ' → Prop} {change : δ → δ'}

mutual

/-- Where statements are related to what they are changed to, expressions are so too. -/
theorem lifted_map (changes : ∀ statement, statements statement (change statement)) :
    (expression : Expr δ) → Lifted statements expression (expression.map change)
  | .literal value => .literal value
  | .reference name => .reference name
  | .raw text => .raw text
  | .anonymous extended overrides => .anonymous extended (lifted_mapOverrides changes overrides)
  | .list items => .list (lifted_mapItems changes items)
  | .ret inner => .ret (lifted_map changes inner)
  | .deferred statement => .deferred (changes statement)

theorem lifted_mapOverrides (changes : ∀ statement, statements statement (change statement)) :
    (overrides : List (Override δ)) →
    OverridesLifted statements overrides (mapOverrides change overrides)
  | [] => .nil
  | .empty name returns :: rest => .empty name returns (lifted_mapOverrides changes rest)
  | .returning name returns value :: rest =>
    .returning name returns (lifted_map changes value) (lifted_mapOverrides changes rest)

theorem lifted_mapItems (changes : ∀ statement, statements statement (change statement)) :
    (items : List (Expr δ)) →
    ItemsLifted statements items (mapItems change items)
  | [] => .nil
  | item :: rest => .cons (lifted_map changes item) (lifted_mapItems changes rest)

end

end Expr

/-- The same is found for a key and for where it is moved to. -/
theorem Canned.renamed_moved {move : Identity → Identity} (injective : Function.Injective move)
    (canned : Canned) : canned.Renamed (.along injective) (canned.moved move) := by
  refine ⟨fun {identity identity'} moved => ?_⟩
  obtain rfl : move identity = identity' := moved
  obtain ⟨entries⟩ := canned
  induction entries with
  | nil => exact .none
  | cons entry rest inductionHypothesis =>
    obtain ⟨other, key, code⟩ := entry
    by_cases own : identity = other
    · subst own
      simp only [find?, Canned.moved, List.map_cons, List.lookup_cons_self]
      exact .some (Expr.lifted_map (Deferred.renamed_moved injective) code)
    · have apart : move identity ≠ move other := own ∘ (injective ·)
      simp only [find?, Canned.moved, List.map_cons, List.lookup_cons, beq_eq_false_iff_ne.mpr own,
        beq_eq_false_iff_ne.mpr apart]
      exact inductionHypothesis

/-! ### Heaps -/

section Back

variable {move back : Identity → Identity} (inverse : Function.LeftInverse back move)

theorem LiveObject.Renamed.moved_back {live live' : LiveObject}
    (same : live.Renamed (.along inverse.injective) live') : live'.moved back = live := by
  have named : move live.identity = live'.identity := same.identity
  have text : live.text = live'.text := same.text
  rw [LiveObject.moved, ← named, inverse live.identity, same.runtime, ← text]

mutual

/-- A value that is moved back is the one that it stands for. -/
theorem Value.Renamed.moved_back : (value : Value) → {value' : Value} →
    value.Renamed (.along inverse.injective) value' → value'.moved back = value
  | .scalar _, _, .scalar _ => rfl
  | .list identity items, _, .list rfl all => by
    rw [Value.moved, inverse identity, Value.AllRenamed.allMoved_back items all]
  | .object _, _, .object same => congrArg Value.object (same.moved_back inverse)

theorem Value.AllRenamed.allMoved_back : (items : List Value) → {items' : List Value} →
    Value.AllRenamed (.along inverse.injective) items items' → Value.allMoved back items' = items
  | [], _, .nil => rfl
  | first :: rest, _, .cons head tail => by
    rw [Value.allMoved, Value.Renamed.moved_back first head,
      Value.AllRenamed.allMoved_back rest tail]

end

theorem Invocation.Renamed.moved_back {invocation invocation' : Invocation}
    (same : invocation.Renamed (.along inverse.injective) invocation') :
    invocation'.moved back = invocation := by
  obtain ⟨object, accessor, outcome⟩ := invocation
  obtain ⟨object', accessor', outcome'⟩ := invocation'
  obtain ⟨named, called, outcomes⟩ := same
  obtain rfl : move object = object' := named
  obtain rfl : accessor' = accessor := called
  have undone : outcome'.map (Value.moved back) = outcome := by
    cases outcomes with
    | error same => exact congrArg Except.error (Eq.symm same)
    | @ok value _ same => exact congrArg Except.ok (same.moved_back inverse value)
  rw [Invocation.moved, undone, inverse object]

theorem Invocation.map_moved_back {history history' : List Invocation}
    (same : List.Forall₂ (Invocation.Renamed (.along inverse.injective)) history history') :
    history'.map (Invocation.moved back) = history := by
  induction same with
  | nil => rfl
  | cons head _ inductionHypothesis =>
    rw [List.map_cons, head.moved_back inverse, inductionHypothesis]

/-- A heap is the same as each of its moved copies. -/
theorem Heap.renamed_moved (heap : Heap) :
    heap.Renamed (.along inverse.injective) (heap.moved move back) where
  objects := List.forall₂_map_right_iff.mpr
    (List.forall₂_same.mpr fun live _ => live.renamed_moved inverse.injective)
  answer {history history' object object'} accessor histories objects := by
    obtain rfl : move object = object' := objects
    have answered : (heap.moved move back).answer history' (move object) accessor =
        (heap.answer history object accessor).map (Template.moved move) := by
      simp only [Heap.moved, Invocation.map_moved_back inverse histories, inverse object]
    rw [answered]
    cases heap.answer history object accessor with
    | error fault => exact .error rfl
    | ok template => exact .ok (template.renamed_moved inverse.injective)
  supply _ := rfl

end Back

end FrozenGraph
