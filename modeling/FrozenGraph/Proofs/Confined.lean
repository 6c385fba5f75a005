/-
This file shows that a walk stays where it began: the objects that it meets are objects of the heap,
and they are written as targets that the registry or the expansions name. Since each of them is
walked through once, the invocations of a walk can be counted: there are at most as many as the
objects have accessors, each object with the largest of the targets that it can be written as.
-/

import FrozenGraph.Proofs.Once
import FrozenGraph.Proofs.Supplied
import Mathlib.Algebra.BigOperators.Group.List.Basic
import Mathlib.Algebra.GroupWithZero.Nat
import Mathlib.Algebra.Order.BigOperators.Group.List
import Mathlib.Algebra.Order.Group.Nat
import Mathlib.Data.List.MinMax

namespace FrozenGraph

/-! ### Values over a heap -/

/-- Whether every object in a value is one of the heap. -/
def Value.Within (heap : Heap) (value : Value) : Prop :=
  ∀ live, .object live ∈ value.parts → live ∈ heap.objects

/-- Whether the accessors of the objects of a heap answer values over that heap, whatever was
invoked before. The lists in the answers may be there already or come into being. -/
def Heap.IsClosed (heap : Heap) : Prop :=
  ∀ live ∈ heap.objects, ∀ history accessor template,
    heap.answer history live.identity accessor = .ok template →
    ∀ value ∈ template.given, value.Within heap

section Within

variable {heap : Heap}

theorem Value.within_object {live : LiveObject} :
    (Value.object live).Within heap ↔ live ∈ heap.objects := by
  constructor
  · exact fun within => within live (mem_parts_self _)
  · intro known other member
    rw [parts, List.mem_singleton] at member
    cases member
    exact known

theorem Value.within_list {identity : Identity} {items : List Value} :
    (Value.list identity items).Within heap ↔ ∀ item ∈ items, item.Within heap := by
  constructor
  · intro within item held live member
    refine within live ?_
    rw [parts]
    exact List.mem_cons_of_mem _ (mem_partsOfAll.mpr ⟨item, held, member⟩)
  · intro within live member
    rw [parts, List.mem_cons] at member
    rcases member with same | inner
    · cases same
    · obtain ⟨item, held, own⟩ := mem_partsOfAll.mp inner
      exact within item held live own

namespace Template

mutual

/-- What comes of a template is over the heap if the values are that are there already. -/
theorem within_materialize (supply : Nat → Identity) :
    (template : Template) → (allocated : Nat) → (∀ value ∈ template.given, value.Within heap) →
    (template.materialize supply allocated).1.Within heap
  | .existing value, _, given => given value (List.mem_singleton_self value)
  | .fresh items, allocated, given => by
    rw [materialize]
    exact Value.within_list.mpr (within_materializeAll supply items allocated given)

theorem within_materializeAll (supply : Nat → Identity) :
    (items : List Template) → (allocated : Nat) →
    (∀ value ∈ givenAll items, value.Within heap) →
    ∀ value ∈ (materializeAll supply items allocated).1, value.Within heap
  | [], _, _, _, member => nomatch member
  | first :: rest, allocated, given, value, member => by
    rw [materializeAll, List.mem_cons] at member
    rcases member with rfl | later
    · exact within_materialize supply first allocated fun value member =>
        given value (List.mem_append_left _ member)
    · exact within_materializeAll supply rest _
        (fun value member => given value (List.mem_append_right _ member)) value later

end

end Template

/-- An object of a closed heap answers values over that heap. -/
theorem Heap.IsClosed.within_of_reply (closed : heap.IsClosed) {live : LiveObject}
    (known : live ∈ heap.objects) {world : World} {accessor : String} {value : Value}
    {allocated : Nat}
    (replied : heap.reply world live.identity accessor = (.ok value, allocated)) :
    value.Within heap := by
  obtain ⟨template, answered, materialized⟩ := exists_template_of_reply replied
  have within := Template.within_materialize heap.supply template world.allocated
    (closed live known _ _ template answered)
  rwa [materialized] at within

end Within

/-! ### Targets that can be found -/

/-- The targets of all scopes of a registry. -/
def Registry.targets (registry : Registry) : List Target :=
  registry.scopes.flatMap (·.targets)

theorem Registry.mem_targets_of_findSome? {registry : Registry} {asked : Target → Bool}
    {target : Target}
    (found : (registry.scopes.findSome? fun scope => scope.targets.find? asked) = some target) :
    target ∈ registry.targets := by
  obtain ⟨scope, listed, inner⟩ := List.exists_of_findSome?_eq_some found
  exact List.mem_flatMap.mpr ⟨scope, listed, List.mem_of_find?_eq_some inner⟩

theorem Expansions.mem_targets_ofList {expanded : List Target} :
    ∀ target ∈ (ofList expanded).targets, target ∈ expanded := by
  have added : ∀ (rest : List Target) (start : Expansions),
      ∀ target ∈ (rest.foldl add start).targets, target ∈ start.targets ∨ target ∈ rest := by
    intro rest
    induction rest with
    | nil => exact fun start target member => .inl member
    | cons first rest inductionHypothesis =>
      intro start target member
      rcases inductionHypothesis (start.add first) target member with early | late
      · rw [add] at early
        split at early
        · exact .inl early
        · rcases List.mem_append.mp early with old | new
          · exact .inl old
          · exact .inr (List.mem_cons.mpr (.inl (List.mem_singleton.mp new)))
      · exact .inr (List.mem_cons_of_mem _ late)
  intro target member
  exact (added expanded none target member).resolve_left (nomatch ·)

/-- Every target that a registry or some expansions name is one of a list. -/
structure Scoped (targets : List Target) (registry : Registry) (expansions : Expansions) :
    Prop where
  ofRegistry : ∀ target ∈ registry.targets, target ∈ targets
  ofExpansions : ∀ target ∈ expansions.targets, target ∈ targets

namespace Scoped

variable {targets : List Target} {registry : Registry} {expansions : Expansions}

/-- The registry of the answers of a node names no other targets. -/
theorem inner {node : Node} (names : Scoped targets registry node.expansions) :
    Scoped targets (node.inner registry) node.expansions where
  ofRegistry target member := by
    rcases List.mem_append.mp member with expanded | outer
    · exact names.ofExpansions target expanded
    · exact names.ofRegistry target outer
  ofExpansions := names.ofExpansions

theorem mem_of_byName? (names : Scoped targets registry expansions) {name : TypeName}
    {target : Target} (found : expansions.byName? name = some target) : target ∈ targets :=
  names.ofExpansions target (List.mem_of_find?_eq_some found)

theorem mem_of_byDeclared? (names : Scoped targets registry expansions)
    {declared : DeclaredType} {target : Target}
    (found : expansions.byDeclared? declared = some target) : target ∈ targets := by
  obtain ⟨name, _, named⟩ := Option.bind_eq_some_iff.mp found
  exact names.mem_of_byName? named

theorem mem_of_targetFor? (names : Scoped targets registry expansions)
    {declared : Option DeclaredType} {runtime : RuntimeType} {target : Target}
    (found : Encode.targetFor? registry expansions declared runtime = some target) :
    target ∈ targets := by
  rw [Encode.targetFor?, Option.or_eq_some_iff, Option.or_eq_some_iff] at found
  rcases found with (byDeclared | ⟨_, byExpansions⟩) | ⟨_, byRegistry⟩
  · obtain ⟨named, _⟩ := Option.filter_eq_some_iff.mp byDeclared
    obtain ⟨answered, _, lookup⟩ := Option.bind_eq_some_iff.mp named
    obtain ⟨name, _, either⟩ := Option.bind_eq_some_iff.mp lookup
    rcases Option.or_eq_some_iff.mp either with outer | ⟨_, expanded⟩
    · exact names.ofRegistry target (Registry.mem_targets_of_findSome? outer)
    · exact names.mem_of_byName? expanded
  · exact names.ofExpansions target (List.mem_of_find?_eq_some byExpansions)
  · exact names.ofRegistry target (Registry.mem_targets_of_findSome? byRegistry)

end Scoped

/-! ### Walks that stay within a heap -/

/-- A task is confined to a heap and some targets: what it has to write is over that heap, and it
can find no other targets. -/
def Task.IsConfined (heap : Heap) (targets : List Target) : Task → Prop
  | .value registry expansions _ content =>
    Scoped targets registry expansions ∧ content.Within heap
  | .items registry expansions contents =>
    Scoped targets registry expansions ∧ ∀ content ∈ contents, content.Within heap
  | .object registry expansions live target =>
    Scoped targets registry expansions ∧ live ∈ heap.objects ∧ target ∈ targets
  | .answer node registry _ content =>
    Scoped targets registry node.expansions ∧ content.Within heap
  | .methods node registry _ _ =>
    Scoped targets registry node.expansions ∧ node.object ∈ heap.objects

namespace Task.IsConfined

variable {heap : Heap} {targets : List Target} {registry : Registry} {expansions : Expansions}
  {node : Node} {live : LiveObject} {target : Target} {value : Value}

theorem items {declared : Option DeclaredType} {identity : Identity} {items : List Value}
    (confined : IsConfined heap targets
      (.value registry expansions declared (.list identity items))) :
    IsConfined heap targets (.items registry expansions items) :=
  ⟨confined.1, Value.within_list.mp confined.2⟩

theorem object {declared : Option DeclaredType}
    (confined : IsConfined heap targets (.value registry expansions declared (.object live)))
    (fits : Encode.targetFor? registry expansions declared live.runtime = some target) :
    IsConfined heap targets (.object registry expansions live target) :=
  ⟨confined.1, Value.within_object.mp confined.2, confined.1.mem_of_targetFor? fits⟩

theorem head {rest : List Value}
    (confined : IsConfined heap targets (.items registry expansions (value :: rest))) :
    IsConfined heap targets (.value registry expansions none value) :=
  ⟨confined.1, confined.2 value List.mem_cons_self⟩

theorem tail {rest : List Value}
    (confined : IsConfined heap targets (.items registry expansions (value :: rest))) :
    IsConfined heap targets (.items registry expansions rest) :=
  ⟨confined.1, fun content member => confined.2 content (List.mem_cons_of_mem _ member)⟩

theorem built (confined : IsConfined heap targets (.object registry expansions live target))
    (built : Node.build live target expansions = .ok node) {ledger : Ledger}
    {methods : List Method} :
    IsConfined heap targets (.methods node registry ledger methods) := by
  obtain ⟨rfl, _, rfl, _, _, _, _⟩ := Node.built_of_build built
  exact ⟨confined.1, confined.2.1⟩

theorem literal {declared : DeclaredType}
    (confined : IsConfined heap targets (.answer node registry declared value)) :
    IsConfined heap targets
      (.value (node.inner registry) node.expansions (some declared) value) :=
  ⟨confined.1.inner, confined.2⟩

theorem expanded {declared : DeclaredType} {session : Session}
    (confined : IsConfined heap targets (.answer node registry declared (.object live)))
    (routed : Route.choose registry node.expansions session declared (.object live) =
      .ok (.expand target)) :
    IsConfined heap targets (.object (node.inner registry) node.expansions live target) := by
  cases Route.chosen_of_eq routed with
  | expand _ registered _ =>
    exact ⟨confined.1.inner, Value.within_object.mp confined.2,
      confined.1.mem_of_byDeclared? registered⟩

/-- An answer that an object of a closed heap gives is confined like the object. -/
theorem answer (closed : heap.IsClosed) {ledger : Ledger} {methods : List Method}
    (confined : IsConfined heap targets (.methods node registry ledger methods)) {world : World}
    {accessor : String} {allocated : Nat}
    (replied : heap.reply world node.object.identity accessor = (.ok value, allocated))
    (declared : DeclaredType) :
    IsConfined heap targets (.answer node registry declared value) :=
  ⟨confined.1, closed.within_of_reply confined.2 replied⟩

/-- Which methods are left does not matter. -/
theorem methods {ledger ledger' : Ledger} {methods rest : List Method}
    (confined : IsConfined heap targets (.methods node registry ledger methods)) :
    IsConfined heap targets (.methods node registry ledger' rest) :=
  confined

end Task.IsConfined

/-- The task that a part of a walk has done. -/
def Part.task : Part → Task
  | .value registry expansions declared content _ =>
    .value registry expansions declared content
  | .items registry expansions contents _ => .items registry expansions contents
  | .object registry expansions live target _ => .object registry expansions live target
  | .answer node registry declared content _ => .answer node registry declared content
  | .methods node registry ledger accessors _ => .methods node registry ledger accessors

/-- A rendering is one of an object of a heap, as one of some targets that accepts it. -/
def Rendering.IsConfined (heap : Heap) (targets : List Target) (rendering : Rendering) : Prop :=
  ∃ live ∈ heap.objects, live.identity = rendering.object ∧ rendering.target ∈ targets ∧
    rendering.target.accepts live.runtime

theorem Rendering.isConfined_of_build {heap : Heap} {targets : List Target} {registry : Registry}
    {expansions : Expansions} {live : LiveObject} {target : Target} {node : Node}
    (confined : Task.IsConfined heap targets (.object registry expansions live target))
    (built : Node.build live target expansions = .ok node) :
    IsConfined heap targets ⟨live.identity, target⟩ :=
  ⟨live, confined.2.1, rfl, confined.2.2, (Node.built_of_build built).accepts⟩

/-- Whether all renderings that begin with some events are confined. -/
def Event.AreConfined (heap : Heap) (targets : List Target) (events : List Event) : Prop :=
  ∀ rendering ∈ Event.renderings events, rendering.IsConfined heap targets

namespace Event.AreConfined

variable {heap : Heap} {targets : List Target} {first second events : List Event}

theorem append (early : AreConfined heap targets first) (late : AreConfined heap targets second) :
    AreConfined heap targets (first ++ second) := by
  intro rendering member
  rw [renderings_append, List.mem_append] at member
  exact member.elim (early rendering) (late rendering)

theorem rendering {begun : Rendering} (own : begun.IsConfined heap targets)
    (later : AreConfined heap targets events) :
    AreConfined heap targets (.rendering begun :: events) := by
  intro rendering member
  rcases List.mem_cons.mp member with rfl | inner
  · exact own
  · exact later rendering inner

end Event.AreConfined

/-- What is rendered in a confined walk is confined. -/
theorem Walked.confined {heap : Heap} {part : Part} {before after : Run} {events : List Event}
    (walked : Walked heap part before events after) (closed : heap.IsClosed)
    {targets : List Target} (confined : part.task.IsConfined heap targets) :
    Event.AreConfined heap targets events := by
  induction walked with
  | scalar | known | noItem | reused | null | recalled | noMethod => exact nofun
  | list _ _ inductionHypothesis => exact inductionHypothesis confined.items
  | literalObject _ fits _ inductionHypothesis => exact inductionHypothesis (confined.object fits)
  | item _ _ head tail => exact (head confined.head).append (tail confined.tail)
  | rendered _ built _ _ inductionHypothesis =>
    exact .rendering (Rendering.isConfined_of_build confined built)
      (inductionHypothesis (confined.built built))
  | literal _ _ inductionHypothesis => exact inductionHypothesis confined.literal
  | expanded routed _ inductionHypothesis => exact inductionHypothesis (confined.expanded routed)
  | skipped _ _ inductionHypothesis => exact inductionHypothesis confined.methods
  | method _ replied _ _ _ expressed later =>
    exact (expressed (confined.answer closed replied _)).append (later confined.methods)

theorem Stopped.confined {heap : Heap} {task : Task} {before after : Run} {events : List Event}
    {stop : Stop} (stopped : Stopped heap task before events stop after) (closed : heap.IsClosed)
    {targets : List Target} (confined : task.IsConfined heap targets) :
    Event.AreConfined heap targets events := by
  induction stopped with
  | untargeted | unbuilt | reentered | unrouted | shapeless | unanswered => exact nofun
  | list _ _ inductionHypothesis => exact inductionHypothesis confined.items
  | literalObject _ fits _ inductionHypothesis => exact inductionHypothesis (confined.object fits)
  | item _ inductionHypothesis => exact inductionHypothesis confined.head
  | laterItem headWalked _ inductionHypothesis =>
    exact (headWalked.confined closed confined.head).append (inductionHypothesis confined.tail)
  | exhausted _ built => exact .rendering (Rendering.isConfined_of_build confined built) nofun
  | unrendered _ built _ _ inductionHypothesis =>
    exact .rendering (Rendering.isConfined_of_build confined built)
      (inductionHypothesis (confined.built built))
  | literal _ _ inductionHypothesis => exact inductionHypothesis confined.literal
  | expanded routed _ inductionHypothesis => exact inductionHypothesis (confined.expanded routed)
  | skipped _ _ inductionHypothesis => exact inductionHypothesis confined.methods
  | unexpressed _ replied _ _ inductionHypothesis =>
    exact inductionHypothesis (confined.answer closed replied _)
  | laterMethod _ replied _ expressedWalked _ inductionHypothesis =>
    exact (expressedWalked.confined closed (confined.answer closed replied _)).append
      (inductionHypothesis confined.methods)

/-! ### Counting invocations -/

/-- The number of methods that a class for a target overrides. -/
def Target.schemaSize (target : Target) : Nat :=
  match target.accessors with
  | .ok accessors => accessors.length
  | .error _ => 0

/-- The largest number of methods that an object can get: as one of some targets that accepts it. -/
def LiveObject.largestSchema (targets : List Target) (live : LiveObject) : Nat :=
  ((targets.filter (·.accepts live.runtime)).map (·.schemaSize)).foldr max 0

/-- The largest numbers of methods that the objects of a heap can get, all together. -/
def Heap.schemas (heap : Heap) (targets : List Target) : Nat :=
  (heap.objects.map (·.largestSchema targets)).sum

theorem LiveObject.schemaSize_le {targets : List Target} {live : LiveObject} {target : Target}
    (listed : target ∈ targets) (accepts : target.accepts live.runtime) :
    target.schemaSize ≤ live.largestSchema targets := by
  have kept : target ∈ targets.filter (·.accepts live.runtime) :=
    List.mem_filter.mpr ⟨listed, accepts⟩
  exact List.le_max_of_le' 0 (List.mem_map_of_mem kept) (Nat.le_refl _)

/-- The invocations of the accessors of all objects but one, in their order. -/
def Invocation.notOn (object : Identity) (invocations : List Invocation) : List Invocation :=
  invocations.filter (·.object ≠ object)

theorem Invocation.length_eq_on_add (object : Identity) (invocations : List Invocation) :
    invocations.length = (on object invocations).length + (notOn object invocations).length := by
  have split := invocations.length_eq_length_filter_add fun invocation =>
    decide (invocation.object = object)
  simpa only [on, notOn, ne_eq, decide_not] using split

/-- There are no more invocations than the objects that they belong to have, one by one. -/
theorem Invocation.length_le_sum_on {objects : List Identity} {invocations : List Invocation}
    (owned : ∀ invocation ∈ invocations, invocation.object ∈ objects) :
    invocations.length ≤ (objects.map fun object => (on object invocations).length).sum := by
  induction objects generalizing invocations with
  | nil =>
    have none : invocations = [] :=
      List.eq_nil_iff_forall_not_mem.mpr fun invocation member => nomatch owned invocation member
    simp [none]
  | cons first rest inductionHypothesis =>
    have others : ∀ invocation ∈ notOn first invocations, invocation.object ∈ rest := by
      intro invocation member
      obtain ⟨listed, apart⟩ := List.mem_filter.mp member
      exact (List.mem_cons.mp (owned invocation listed)).resolve_left (of_decide_eq_true apart)
    have fewer : ∀ object ∈ rest,
        (on object (notOn first invocations)).length ≤ (on object invocations).length :=
      fun object _ => (List.filter_sublist.filter _).length_le
    calc invocations.length
        = (on first invocations).length + (notOn first invocations).length :=
          length_eq_on_add first invocations
      _ ≤ (on first invocations).length +
            (rest.map fun object => (on object (notOn first invocations)).length).sum :=
          Nat.add_le_add_left (inductionHypothesis others) _
      _ ≤ (on first invocations).length +
            (rest.map fun object => (on object invocations).length).sum :=
          Nat.add_le_add_left (List.sum_le_sum fewer) _

/-- Renderings of different objects of a heap are bounded by its largest schemas: each one takes its
own object. -/
theorem Rendering.sum_schemaSize_le {objects : List LiveObject} {targets : List Target}
    {renderings : List Rendering} (nodup : (renderings.map (·.object)).Nodup)
    (confined : ∀ rendering ∈ renderings, ∃ live ∈ objects, live.identity = rendering.object ∧
      rendering.target ∈ targets ∧ rendering.target.accepts live.runtime) :
    (renderings.map (·.target.schemaSize)).sum ≤
      (objects.map (·.largestSchema targets)).sum := by
  induction renderings generalizing objects with
  | nil => exact Nat.zero_le _
  | cons first rest inductionHypothesis =>
    obtain ⟨live, known, same, listed, accepts⟩ := confined first List.mem_cons_self
    obtain ⟨fresh, others⟩ := List.nodup_cons.mp nodup
    have left : ∀ rendering ∈ rest, ∃ live' ∈ objects.erase live,
        live'.identity = rendering.object ∧ rendering.target ∈ targets ∧
          rendering.target.accepts live'.runtime := by
      intro rendering later
      obtain ⟨live', known', same', rest'⟩ := confined rendering (List.mem_cons_of_mem _ later)
      have apart : live' ≠ live := by
        rintro rfl
        exact fresh (List.mem_map.mpr ⟨rendering, later, same'.symm.trans same⟩)
      exact ⟨live', (List.mem_erase_of_ne apart).mpr known', same', rest'⟩
    calc (List.map (·.target.schemaSize) (first :: rest)).sum
        = first.target.schemaSize + (rest.map (·.target.schemaSize)).sum := by
          rw [List.map_cons, List.sum_cons]
      _ ≤ live.largestSchema targets + ((objects.erase live).map (·.largestSchema targets)).sum :=
          Nat.add_le_add (LiveObject.schemaSize_le listed accepts)
            (inductionHypothesis others left)
      _ = (objects.map (·.largestSchema targets)).sum := List.sum_map_erase _ known

/-- Where each object is walked through once and all of them are confined, there are no more
invocations than the objects have accessors. -/
theorem Once.length_le_schemas {heap : Heap} {targets : List Target} {whole : Prop}
    {methods : List Method} {before : Session} {events : List Event}
    (once : Once whole none methods before events)
    (confined : Event.AreConfined heap targets events) :
    (Event.invocations events).length ≤ heap.schemas targets := by
  have own : ∀ rendering ∈ Event.renderings events,
      (Event.on rendering.object events).length ≤ rendering.target.schemaSize := by
    intro rendering member
    obtain ⟨accessors, listed, covers⟩ := once.answered rendering member
    have names := congrArg List.length (Event.called_map_name rendering.object events)
    rw [List.length_map, List.length_map] at names
    calc (Event.on rendering.object events).length
        = (Event.called rendering.object events).length := names.symm
      _ ≤ (Method.asked accessors).length := covers.isPrefix.length_le
      _ ≤ accessors.length := List.length_filter_le _ _
      _ = rendering.target.schemaSize := by rw [Target.schemaSize, listed]
  calc (Event.invocations events).length
      ≤ ((Event.objects events).map fun object => (Event.on object events).length).sum :=
        Invocation.length_le_sum_on fun invocation member =>
          (once.owned invocation member).resolve_right nofun
    _ = ((Event.renderings events).map fun rendering =>
          (Event.on rendering.object events).length).sum := by
        rw [Event.objects, List.map_map]
        rfl
    _ ≤ ((Event.renderings events).map (·.target.schemaSize)).sum := List.sum_le_sum own
    _ ≤ heap.schemas targets := Rendering.sum_schemaSize_le once.nodup confined

end FrozenGraph
