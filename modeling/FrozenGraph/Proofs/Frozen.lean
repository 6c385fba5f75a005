/-
This file says what comes to be known of a value that is planned and rendered at once: the text or
the reason why there is none, and the accessors that were invoked, in their order. Over a closed
heap, the walk through the accessors of the root decides all of it.
-/

import FrozenGraph.Proofs.Failed
import FrozenGraph.Proofs.Held

namespace FrozenGraph

/-! ### Outcomes -/

/-- What comes to be known of a rendering: how it ended, and which accessors it invoked. -/
structure Heap.Outcome where
  result : Except Stop String
  invocations : List Invocation

/-- The outcome of a rendering that began in a world. -/
def Heap.Ended.outcome (ended : Heap.Ended String) (world : World) : Heap.Outcome :=
  ⟨ended.result, ended.world.since world⟩

namespace Heap

/-- The outcome for a value that is planned in a world and rendered at once. Nothing is invoked for
a value that cannot be planned. -/
def frozen (heap : Heap) (world : World) (value : Value) (target : Target) (canned : Canned)
    (expanded : List Target) (registry : Registry) : Outcome :=
  match Snapshot.plan value target canned expanded with
  | .error report => ⟨.error (.failed report), []⟩
  | .ok snapshot =>
    let (world, number) := world.add snapshot
    (heap.render world number registry).outcome world

variable {heap : Heap} {world : World} {value : Value} {live : LiveObject} {target : Target}
  {canned : Canned} {expanded : List Target} {registry : Registry} {root : Node}

/-- An outcome that succeeds has a text. -/
theorem Outcome.exists_text {outcome : Outcome} (succeeds : outcome.result.isOk) :
    ∃ text, outcome = ⟨.ok text, outcome.invocations⟩ := by
  obtain ⟨text, same⟩ := Except.isOk_iff.mp succeeds
  exact ⟨text, same ▸ rfl⟩

theorem result_frozen :
    (heap.frozen world value target canned expanded registry).result =
      heap.freeze world value target canned expanded registry := by
  unfold frozen freeze
  cases Snapshot.plan value target canned expanded <;> rfl

/-! ### Outcomes from walks -/

theorem frozen_of_unbuilt {report : Report}
    (refused : Node.build live target (.ofList expanded) = .error report) :
    heap.frozen world (.object live) target canned expanded registry =
      ⟨.error (.failed report), []⟩ := by
  rw [frozen, Snapshot.plan, refused]
  rfl

theorem frozen_of_built (built : Node.build live target (.ofList expanded) = .ok root) :
    heap.frozen world (.object live) target canned expanded registry =
      (heap.render (world.add ⟨root, canned, .empty⟩).1 world.snapshots.length registry).outcome
        world := by
  rw [frozen, Snapshot.plan_of_built built]
  rfl

section Built

variable (closed : heap.IsClosed) (known : live ∈ heap.objects) (plain : canned.IsPlain)
  (built : Node.build live target (.ofList expanded) = .ok root)

include closed known plain built

/-- Where the accessors of the root can be walked through, that is the outcome. -/
theorem frozen_of_walked {overrides : List (Override Deferred)} {events : List Event} {after : Run}
    (walked : Walked heap (.methods root registry (.ofSnapshot world.snapshots.length)
      root.accessors overrides) (world.opened root canned) events after) :
    heap.frozen world (.object live) target canned expanded registry =
      ⟨.ok (root.classText registry overrides), Event.invocations events⟩ := by
  have rendered := render_of_walked closed (Snapshot.plan_of_built built canned) plain
    (world.placed_add _) known walked
  rw [frozen_of_built built, rendered, Ended.outcome]
  exact congrArg _ (World.since_of_history walked.growsBy.history)

/-- Where they fail, that is the outcome. -/
theorem frozen_of_stopped {events : List Event} {stop : Stop} {after : Run}
    (stopped : Stopped heap (.methods root registry (.ofSnapshot world.snapshots.length)
      root.accessors) (world.opened root canned) events stop after)
    (fueled : stop ≠ .outOfFuel) :
    heap.frozen world (.object live) target canned expanded registry =
      ⟨.error (stop.annotate root.noteOn), Event.invocations events⟩ := by
  have rendered := render_of_stopped closed (Snapshot.plan_of_built built canned) plain
    (world.placed_add _) known stopped fueled
  rw [frozen_of_built built, rendered, Ended.outcome]
  exact congrArg _ (World.since_of_history stopped.growsBy.history)

end Built

end Heap

end FrozenGraph
