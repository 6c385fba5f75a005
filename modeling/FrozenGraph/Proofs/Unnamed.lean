/-
This file shows that identities leave no trace in what comes of a snapshot. Two heaps that are the
same up to a renaming have as many objects, so both walks get the same fuel, and they are followed
side by side to their ends. The texts are equal, and a failure is of the same kind, with a cycle of
objects that stand for each other; the same accessors were invoked, in the same order. Neither the
places of the objects matter, nor those of the lists that come into being, nor the order in which a
table keeps what it is searched for.
-/

import FrozenGraph.Proofs.Cyclic
import FrozenGraph.Proofs.Followed
import FrozenGraph.Proofs.Frozen
import FrozenGraph.Proofs.Moved
import Mathlib.Logic.Equiv.Basic

namespace FrozenGraph

section Sides

variable {names : Renaming} {heap heap' : Heap} {world world' : World}

/-! ### Worlds -/

theorem World.Renamed.initial : World.initial.Renamed names .initial :=
  ⟨.nil, .nil, rfl, .nil⟩

/-- A snapshot that is added to both worlds gets the same number. -/
theorem World.Renamed.add (worlds : world.Renamed names world') {snapshot snapshot' : Snapshot}
    (same : snapshot.Renamed names snapshot') :
    (world.add snapshot).1.Renamed names (world'.add snapshot').1 ∧
      (world'.add snapshot').2 = (world.add snapshot).2 :=
  ⟨⟨worlds.history, worlds.renderings, worlds.allocated,
    List.rel_append worlds.snapshots (.cons same .nil)⟩, worlds.snapshots.length_eq.symm⟩

/-- The same was invoked meanwhile. -/
theorem World.Renamed.since (worlds : world.Renamed names world') {later later' : World}
    (after : later.Renamed names later') :
    List.Forall₂ (Invocation.Renamed names) (later.since world) (later'.since world') := by
  rw [World.since, World.since, ← after.history.length_eq, ← worlds.history.length_eq]
  exact List.forall₂_reverse_iff.mpr (List.forall₂_take _ after.history)

/-! ### Outcomes -/

namespace Heap

/-- Two walks ended in the same way, and left the same behind. -/
structure Ended.Renamed (names : Renaming) (ended ended' : Ended String) : Prop where
  result : Except.Lifted (Stop.Renamed names) Eq ended.result ended'.result
  world : ended.world.Renamed names ended'.world

/-- Two outcomes are the same: texts are equal, reasons are so up to the renaming, and the
invocations as well. -/
structure Outcome.Renamed (names : Renaming) (outcome outcome' : Outcome) : Prop where
  result : Except.Lifted (Stop.Renamed names) Eq outcome.result outcome'.result
  invocations :
    List.Forall₂ (Invocation.Renamed names) outcome.invocations outcome'.invocations

theorem perform_renamed (worlds : world.Renamed names world') {session session' : Session}
    (sessions : session.Renamed names session') {walk walk' : Walk String}
    (walks : Walk.Renamed names Eq walk walk') :
    (perform world session walk).Renamed names (perform world' session' walk') := by
  have before : Run.Renamed names ⟨world, session⟩ ⟨world', session'⟩ := ⟨worlds, sessions⟩
  have ended := walks.ends before
  rw [perform, perform]
  generalize walk _ = result at ended ⊢
  generalize walk' _ = result' at ended ⊢
  cases ended with
  | ok equal after => exact ⟨.ok equal, after.world⟩
  | error reason after => exact ⟨.error reason, after.world⟩

theorem Ended.Renamed.outcome {ended ended' : Ended String} (same : ended.Renamed names ended')
    (worlds : world.Renamed names world') :
    (ended.outcome world).Renamed names (ended'.outcome world') :=
  ⟨same.result, worlds.since same.world⟩

section Renamed

variable (heaps : heap.Renamed names heap') (worlds : world.Renamed names world')

include heaps worlds

/-- The same fuel is found. -/
theorem fuel_eq_of_renamed : heap'.fuel world' = heap.fuel world := by
  rw [fuel, fuel, heaps.objects.length_eq, worlds.snapshots.length_eq]

/-- Any snapshot is rendered alike, whatever state it is in. -/
theorem render_renamed (number : Nat) (registry : Registry) :
    (heap.render world number registry).Renamed names (heap'.render world' number registry) := by
  have attempts : Attempt.Renamed names (Node.attempt heap (heap.fuel world))
      (Node.attempt heap' (heap.fuel world)) :=
    Node.attempt_renamed heaps (heap.fuel world)
  rw [render, render, attempt, attempt, fuel_eq_of_renamed heaps worlds]
  exact perform_renamed worlds .empty (snapshotText_renamed attempts registry number)

end Renamed

/-! ### Snapshots -/

/-- Values that stand for each other are planned alike, or refused alike. -/
theorem plan_renamed {value value' : Value} (values : value.Renamed names value')
    {canned canned' : Canned} (tables : canned.Renamed names canned') (target : Target)
    (expanded : List Target) :
    Except.Lifted (Report.Renamed names) (Snapshot.Renamed names)
      (Snapshot.plan value target canned expanded)
      (Snapshot.plan value' target canned' expanded) := by
  cases values with
  | scalar _ | list _ _ => exact .error (.ofFault (.invalid _))
  | object live =>
    refine (Node.build_renamed live target (.ofList expanded)).bind fun root root' same => ?_
    exact .ok ⟨same, tables, .empty⟩

/-- What comes of a snapshot never depends on identities, neither on those in the heap nor on those
that lists are given on the way. -/
theorem frozen_renamed (heaps : heap.Renamed names heap') (worlds : world.Renamed names world')
    {value value' : Value} (values : value.Renamed names value') {canned canned' : Canned}
    (tables : canned.Renamed names canned') (target : Target) (expanded : List Target)
    (registry : Registry) :
    (heap.frozen world value target canned expanded registry).Renamed names
      (heap'.frozen world' value' target canned' expanded registry) := by
  have planned := plan_renamed values tables target expanded
  rw [frozen, frozen]
  generalize Snapshot.plan value target canned expanded = plan at planned ⊢
  generalize Snapshot.plan value' target canned' expanded = plan' at planned ⊢
  cases planned with
  | error report => exact ⟨.error (.failed report), .nil⟩
  | ok snapshot =>
    obtain ⟨added, number⟩ := worlds.add snapshot
    dsimp only
    rw [number]
    exact (render_renamed heaps added _ registry).outcome added

end Heap

end Sides

/-! ### Objects in memory -/

/-- The two identities of a pair change places, one pair after the other. -/
def Identity.exchanged (pairs : List (Identity × Identity)) : Equiv.Perm Identity :=
  pairs.foldr (fun pair others => (Equiv.swap pair.1 pair.2).trans others) (.refl Identity)

namespace Twins

/-- The holder, the leaf and their list are in memory. -/
def places : Equiv.Perm Identity :=
  Identity.exchanged [(holderObject.identity, .address 4096), (leafObject.identity, .address 4160),
    (.fresh 0, .address 8192)]

/-- The leaf is written as a name. -/
def canned : Canned :=
  Canned.empty.insert leafObject (.reference "LEAF")

end Twins

namespace Ring

/-- The nodes and the lists of others are in memory. -/
def places : Equiv.Perm Identity :=
  Identity.exchanged [(first.identity, .address 4160), (second.identity, .address 4096),
    (.fresh 0, .address 8224), (.fresh 1, .address 8192), (.fresh 2, .address 8208)]

/-- The objects of a snapshot that succeeds, and those of a cycle, in memory. -/
theorem frozen_renamed_ring :
    ((Twins.heap.frozen .initial (.object Twins.holderObject) Twins.holder Twins.canned
          [Twins.leaf] .root).Renamed (.along Twins.places.injective)
        ((Twins.heap.moved Twins.places Twins.places.symm).frozen .initial
          (Value.moved Twins.places (.object Twins.holderObject)) Twins.holder
          (Twins.canned.moved Twins.places) [Twins.leaf] .root) ∧
      (Twins.heap.frozen .initial (.object Twins.holderObject) Twins.holder Twins.canned
          [Twins.leaf] .root).result.isOk) ∧
    ((heap.frozen .initial (.object first) node .empty [node] .root).Renamed
        (.along places.injective)
        ((heap.moved places places.symm).frozen .initial (Value.moved places (.object first)) node
          (Canned.empty.moved places) [node] .root) ∧
      (match ((heap.moved places places.symm).frozen .initial (Value.moved places (.object first))
            node (Canned.empty.moved places) [node] .root).result with
        | .ok _ => none
        | .error stop => stop.cycle?) = some [.address 4160, .address 4096]) := by
  refine ⟨⟨?_, by decide +kernel⟩, ?_, by decide +kernel⟩
  · exact Heap.frozen_renamed (Heap.renamed_moved Twins.places.left_inv Twins.heap) .initial
      (Value.renamed_moved _ _) (Canned.renamed_moved _ _) _ _ _
  · exact Heap.frozen_renamed (Heap.renamed_moved places.left_inv heap) .initial
      (Value.renamed_moved _ _) (Canned.renamed_moved _ _) _ _ _

end Ring

end FrozenGraph
