/-
This file compares the two ways in which an object comes to be written: as the root of a snapshot,
and where another object answers it. The root looks its answers up in the registry of the caller,
while a nested object looks them up in one in which the expansions have literals too; below their
answers the two are alike. Where the declared type of an answer is expanded and has no literals, the
root insists on an object of that type, and a nested object takes whatever can be written. So every
answer that the root can write can be written where it is nested, word for word, and the converse
holds of the answers that keep to their declared types.
-/

import FrozenGraph.Proofs.Mirrored

namespace FrozenGraph

/-! ### Objects that can be reached -/

namespace Heap

/-- One object hands out another one if an accessor of it can answer a value with the other one in
it. -/
def HandsOut (heap : Heap) (giver taken : LiveObject) : Prop :=
  ∃ history accessor template, heap.answer history giver.identity accessor = .ok template ∧
    ∃ value ∈ template.given, .object taken ∈ value.parts

/-- An object can be reached from itself and from whatever leads to something that hands it out. -/
def Reaches (heap : Heap) : LiveObject → LiveObject → Prop :=
  Relation.ReflTransGen heap.HandsOut

open Classical in
/-- The objects of a heap that can be reached from one of them. -/
noncomputable def reached (heap : Heap) (root : LiveObject) : List LiveObject :=
  heap.objects.filter fun live => decide (heap.Reaches root live)

variable {heap : Heap} {root live : LiveObject}

theorem mem_reached : live ∈ heap.reached root ↔ live ∈ heap.objects ∧ heap.Reaches root live := by
  simp only [reached, List.mem_filter, decide_eq_true_eq]

theorem mem_reached_self (known : root ∈ heap.objects) : root ∈ heap.reached root :=
  mem_reached.mpr ⟨known, .refl⟩

/-- What can be reached in a closed heap is closed. -/
theorem IsClosed.reached (closed : heap.IsClosed) (root : LiveObject) :
    (heap.narrowed (heap.reached root)).IsClosed := by
  intro giver member history accessor template answered value given taken part
  obtain ⟨known, path⟩ := mem_reached.mp member
  have handed : heap.HandsOut giver taken :=
    ⟨history, accessor, template, answered, value, given, part⟩
  exact mem_reached.mpr
    ⟨closed giver known history accessor template answered value given taken part,
      path.tail handed⟩

end Heap

/-! ### The registry around a nested object -/

namespace Node

variable {node : Node} {declared : DeclaredType} {target : Target}

/-- Only the expansions of a node decide what its answers are written in. -/
theorem inner_eq {other : Node} (same : node.expansions = other.expansions)
    (registry : Registry) : node.inner registry = other.inner registry := by
  rw [inner, inner, same]

/-- What the answers of a node can be written as literals: what could be before, and what is
expanded. -/
theorem hasLiteral_inner (node : Node) (registry : Registry) (declared : DeclaredType) :
    (node.inner registry).hasLiteral declared =
      (registry.hasLiteral declared || (node.expansions.byDeclared? declared).isSome) := by
  cases declared with
  | void | primitive _ => rfl
  | named name arguments =>
    have expanded : node.expansions.byDeclared? (.named name arguments) =
        node.expansions.byName? name.erased := rfl
    rw [Registry.hasLiteral, Registry.hasLiteral, expanded, node.isValueType_inner,
      node.byName?_inner, Option.isSome_or, Bool.or_assoc, Bool.or_comm (Option.isSome _)]

/-- There, a value of an expanded type is written as the target that it is expanded as. -/
theorem targetFor?_inner (registry : Registry)
    (registered : node.expansions.byDeclared? declared = some target) {runtime : RuntimeType}
    (accepts : target.accepts runtime) :
    Encode.targetFor? (node.inner registry) node.expansions (some declared) runtime =
      some target := by
  obtain ⟨name, erased, named⟩ := Option.bind_eq_some_iff.mp registered
  have found : Encode.declaredTarget? (node.inner registry) node.expansions declared =
      some target := by
    rw [Encode.declaredTarget?, erased, Option.bind_some, node.byName?_inner, named,
      Option.some_or, Option.some_or]
  rw [Encode.targetFor?, Option.bind_some, found, Option.filter_some, if_pos accepts,
    Option.some_or, Option.some_or]

end Node

/-- An object that is written and was not known before is built and was not in progress. -/
theorem Walked.fresh_of_unknown {heap : Heap} {registry : Registry} {expansions : Expansions}
    {object : LiveObject} {target : Target} {code : Code} {before after : Run}
    {events : List Event}
    (walked : Walked heap (.object registry expansions object target code) before events after)
    (unknown : before.session.memo.find? object.identity = none) :
    target.accepts object.runtime = true ∧
      before.session.chain.contains object.identity = false := by
  cases walked with
  | reused found =>
    rw [unknown] at found
    cases found
  | rendered _ built free _ => exact ⟨(Node.built_of_build built).accepts, free⟩

/-! ### The answers of a root and of a nested object -/

namespace Walked

variable {heap : Heap} {inside : List LiveObject} {targets : List Target} {node : Node}
  {registry : Registry}

/-- An answer that the root of a snapshot can write is written alike where the object is nested. -/
theorem answer_descends (closed : (heap.narrowed inside).IsClosed)
    (stable : ∀ live ∈ inside, heap.IsStable live) {declared : DeclaredType} {value : Value}
    {code : Code} {before before' after : Run} {events : List Event}
    (walked : Walked heap (.answer node registry declared value code) before events after)
    (mirrored : before.Mirrored heap inside before')
    (confined : Task.IsConfined (heap.narrowed inside) targets
      (.answer node registry declared value)) :
    ∃ after', Walked heap (.answer node (node.inner registry) declared value code) before' events
      after' ∧ after.Mirrored heap inside after' := by
  have alike := Registry.Alike.inner_inner node registry
  cases walked with
  | null => exact ⟨before', .null, mirrored⟩
  | recalled routed =>
    exact ⟨_, .recalled (mirrored.recalled routed), mirrored.recordFor _ _⟩
  | literal routed written =>
    obtain ⟨_, _, literal⟩ := Route.choose_eq_literal_iff.mp routed
    obtain ⟨after', written', done⟩ :=
      written.mirrored closed stable .empty alike mirrored confined.literal
    have literal' : (node.inner registry).hasLiteral declared = true := by
      rw [node.hasLiteral_inner, literal, Bool.true_or]
    exact ⟨_, .literal (mirrored.literal routed literal') written', done.recordFor _ _⟩
  | @expanded _ _ _ live target _ _ _ _ routed written =>
    obtain ⟨present, unknown, _, registered, _⟩ := Route.choose_eq_expand_iff.mp routed
    obtain ⟨accepts, _⟩ := written.fresh_of_unknown (Route.find?_eq_none unknown rfl)
    obtain ⟨after', written', done⟩ :=
      written.mirrored closed stable .empty alike mirrored (confined.expanded routed)
    -- The type of the answer is expanded, so that it has literals here.
    have literal : (node.inner registry).hasLiteral declared = true := by
      rw [node.hasLiteral_inner, registered, Option.isSome_some, Bool.or_true]
    have unknown' := (mirrored.known?_eq (.object live)).trans unknown
    have routed' : Route.choose (node.inner registry) node.expansions before'.session declared
        (.object live) = .ok .literal :=
      Route.choose_eq_literal_iff.mpr ⟨present, unknown', literal⟩
    have fits := node.targetFor?_inner (node.inner registry) registered accepts
    exact ⟨_, .literal routed' (.literalObject (Route.find?_eq_none unknown' rfl) fits written'),
      done.record _ _⟩

/-- An answer that a nested object can write is written alike where the object is the root of a
snapshot, unless its type is expanded and has no literals there, and it is no object of that
type. -/
theorem answer_ascends (closed : (heap.narrowed inside).IsClosed)
    (stable : ∀ live ∈ inside, heap.IsStable live) {declared : DeclaredType} {value : Value}
    {code : Code} {before before' after : Run} {events : List Event}
    (walked : Walked heap (.answer node (node.inner registry) declared value code) before events
      after)
    (mirrored : before.Mirrored heap inside before')
    (confined : Task.IsConfined (heap.narrowed inside) targets
      (.answer node (node.inner registry) declared value))
    (keeps : registry.hasLiteral declared = false → ∀ wanted,
      node.expansions.byDeclared? declared = some wanted →
      value = .null ∨ ∃ live, value = .object live ∧ wanted.accepts live.runtime) :
    ∃ after', Walked heap (.answer node registry declared value code) before' events after' ∧
      after.Mirrored heap inside after' := by
  have alike := (Registry.Alike.inner_inner node registry).symm
  cases walked with
  | null => exact ⟨before', .null, mirrored⟩
  | recalled routed =>
    exact ⟨_, .recalled (mirrored.recalled routed), mirrored.recordFor _ _⟩
  | literal routed written =>
    obtain ⟨present, unknown, literal⟩ := Route.choose_eq_literal_iff.mp routed
    cases own : registry.hasLiteral declared with
    | true =>
      obtain ⟨after', written', done⟩ :=
        written.mirrored closed stable .empty alike mirrored confined.literal
      exact ⟨_, .literal (mirrored.literal routed own) written', done.recordFor _ _⟩
    | false =>
      rw [node.hasLiteral_inner, own, Bool.false_or] at literal
      obtain ⟨wanted, registered⟩ := Option.isSome_iff_exists.mp literal
      obtain rfl | ⟨live, rfl, accepts⟩ := keeps own wanted registered
      · cases present
      · have fits := node.targetFor?_inner (node.inner registry) registered accepts
        have fresh := Route.find?_eq_none unknown rfl
        cases written with
        | known identified found =>
          cases identified
          rw [fresh] at found
          cases found
        | literalObject _ chosen expanded =>
          obtain rfl := Option.some.inj (fits.symm.trans chosen)
          obtain ⟨_, free⟩ := expanded.fresh_of_unknown fresh
          have inner := confined.literal.object fits
          obtain ⟨after', expanded', done⟩ :=
            expanded.mirrored closed stable .empty alike mirrored inner
          have free' : Route.isInProgress before'.session.chain (.object live) = false :=
            (mirrored.busy live inner.2.1).trans free
          have routed' := Route.choose_eq_expand_iff.mpr
            ⟨present, (mirrored.known?_eq _).trans unknown, own, registered, free'⟩
          exact ⟨_, .expanded routed' expanded', done.record _ _⟩
  | expanded routed _ =>
    obtain ⟨_, _, unliteral, registered, _⟩ := Route.choose_eq_expand_iff.mp routed
    rw [node.hasLiteral_inner, registered, Option.isSome_some, Bool.or_true] at unliteral
    cases unliteral

end Walked

/-- Whether the answers that a node can get to some methods are written in a second registry as in
a first one, in all states that mirror each other. -/
def Node.WritesAlike (heap : Heap) (inside : List LiveObject) (node : Node)
    (first second : Registry) (methods : List Method) : Prop :=
  ∀ method ∈ methods, ∀ world value allocated,
    heap.reply world node.object.identity method.name = (.ok value, allocated) →
    ∀ code before before' events after,
      Walked heap (.answer node first method.returns value code) before events after →
      before.Mirrored heap inside before' →
      ∃ after', Walked heap (.answer node second method.returns value code) before' events after' ∧
        after.Mirrored heap inside after'

/-- Where the answers are written alike, the methods are overridden alike. -/
theorem Node.WritesAlike.mirrored {heap : Heap} {inside : List LiveObject} {node : Node}
    {first second : Registry} {methods : List Method}
    (alike : node.WritesAlike heap inside first second methods) (member : node.object ∈ inside)
    (stable : heap.IsStable node.object) {ledger : Ledger} {overrides : List (Override Deferred)}
    {before before' after : Run} {events : List Event}
    (walked : Walked heap (.methods node first ledger methods overrides) before events after)
    (mirrored : before.Mirrored heap inside before') (ledger' : Ledger) :
    ∃ after', Walked heap (.methods node second ledger' methods overrides) before' events after' ∧
      after.Mirrored heap inside after' := by
  induction methods generalizing ledger ledger' overrides before before' events with
  | nil =>
    cases walked
    exact ⟨before', .noMethod, mirrored⟩
  | cons method rest inductionHypothesis =>
    have others : node.WritesAlike heap inside first second rest :=
      fun other listed => alike other (List.mem_cons_of_mem method listed)
    cases walked with
    | skipped void later =>
      obtain ⟨after', later', done⟩ := inductionHypothesis others later mirrored ledger'
      exact ⟨after', .skipped void later', done⟩
    | method answers replied recorded expressed later =>
      exact Walked.method_mirrored member stable mirrored answers replied recorded
        (fun same => alike method List.mem_cons_self _ _ _ replied _ _ _ _ _ expressed same)
        (fun other same => inductionHypothesis others later same other) ledger'

/-- A node over a heap is confined to it, and to the targets that are named around the node. -/
theorem Node.isConfined (heap : Heap) (node : Node) (known : node.object ∈ heap.objects)
    (registry : Registry) (ledger : Ledger) (methods : List Method) :
    Task.IsConfined heap (registry.targets ++ node.expansions.targets)
      (.methods node registry ledger methods) :=
  ⟨⟨fun _ => List.mem_append_left _, fun _ => List.mem_append_right _⟩, known⟩

section Alike

variable {heap : Heap} {inside : List LiveObject} {node : Node}

/-- Whatever a root can write, it can write where it is nested. -/
theorem Node.writesAlike_inner (closed : (heap.narrowed inside).IsClosed)
    (stable : ∀ live ∈ inside, heap.IsStable live) (member : node.object ∈ inside)
    (registry : Registry) (methods : List Method) :
    node.WritesAlike heap inside registry (node.inner registry) methods := by
  intro method _ world value allocated replied code before before' events after walked mirrored
  have own := node.isConfined (heap.narrowed inside) member registry .empty methods
  exact walked.answer_descends closed stable mirrored (own.answer closed replied method.returns)

/-- Whether an object answers to some methods what they are declared to answer, as far as it
matters: where a type is expanded and has no literals, nothing or an object that can be expanded as
that type. -/
def Heap.KeepsTypes (heap : Heap) (registry : Registry) (expansions : Expansions)
    (object : LiveObject) (methods : List Method) : Prop :=
  ∀ method ∈ methods, registry.hasLiteral method.returns = false →
    ∀ wanted, expansions.byDeclared? method.returns = some wanted →
    ∀ history template, heap.answer history object.identity method.name = .ok template →
      template = .existing .null ∨
        ∃ live, template = .existing (.object live) ∧ wanted.accepts live.runtime

/-- Whatever a nested object can write, it can write as a root if its answers keep to their declared
types. -/
theorem Node.writesAlike_outer (closed : (heap.narrowed inside).IsClosed)
    (stable : ∀ live ∈ inside, heap.IsStable live) (member : node.object ∈ inside)
    {registry : Registry} {methods : List Method}
    (keeps : heap.KeepsTypes registry node.expansions node.object methods) :
    node.WritesAlike heap inside (node.inner registry) registry methods := by
  intro method listed world value allocated replied code before before' events after walked
    mirrored
  have own :=
    node.isConfined (heap.narrowed inside) member (node.inner registry) .empty methods
  refine walked.answer_ascends closed stable mirrored (own.answer closed replied method.returns) ?_
  intro unliteral wanted registered
  obtain ⟨template, answered, materialized⟩ := Heap.exists_template_of_reply replied
  obtain rfl | ⟨live, rfl, accepts⟩ := keeps method listed unliteral wanted registered _ _ answered
  · exact .inl (congrArg Prod.fst materialized).symm
  · exact .inr ⟨live, (congrArg Prod.fst materialized).symm, accepts⟩

end Alike

end FrozenGraph
