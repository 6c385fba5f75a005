/-
This file is the converse of `Proofs/Traced` for the parts of a walk that fail: where a part fails
as `Stopped` says, the walk of the library fails in the same state and for the same reason, with
enough fuel. What was walked through before the failure has its fuel from `Proofs/Attained`. So over
a closed heap both relations together say all that a rendering does.
-/

import FrozenGraph.Proofs.Attained

namespace FrozenGraph

/-! ### Parts that fail in the library -/

/-- Where nodes are rendered in some way, the walk for a task fails in a state, and leaves another
one behind. -/
def Task.FailsIn (heap : Heap) (attempt : Attempt) (before : Run) (stop : Stop) (after : Run) :
    Task → Prop
  | .value registry expansions declared content =>
    Encode.value (expandObject attempt registry expansions) registry expansions declared content
      before = .error stop after
  | .items registry expansions contents =>
    Encode.allItems (expandObject attempt registry expansions) registry expansions contents before =
      .error stop after
  | .object registry expansions live target =>
    expandObject attempt registry expansions live target before = .error stop after
  | .answer node registry declared content =>
    node.express attempt registry (node.inner registry) declared content before = .error stop after
  | .methods node registry ledger accessors =>
    node.overrides heap attempt registry (node.inner registry) ledger accessors before =
      .error stop after

/-- A node fails as its methods do, with one unit of fuel more; its object is off the chain then. -/
theorem Node.attempt_error {heap : Heap} {fuel : Nat} {ledger : Ledger} {node : Node}
    {registry : Registry} {before after : Run} {stop : Stop}
    (failed : Task.FailsIn heap (attempt heap fuel) before stop after
      (.methods node registry ledger node.accessors)) :
    attempt heap (fuel + 1) ledger node registry before =
      .error (stop.annotate node.noteOn) (after.leave node.object.identity) := by
  have stopped : node.classSource heap (attempt heap fuel) ledger registry before =
      .error stop after := Walk.bind_error failed
  rw [attempt, Walk.annotated_error (Walk.bind_error (Walk.ensuring_error stopped))]
  rfl

namespace Task.FailsIn

variable {heap : Heap} {attempt : Attempt} {registry : Registry} {expansions : Expansions}
  {node : Node} {before between after : Run} {stop : Stop}

section Values

variable {declared : Option DeclaredType} {live : LiveObject} {target : Target}

theorem list {identity : Identity} {items : List Value}
    (unknown : before.session.memo.find? identity = none)
    (failed : FailsIn heap attempt before stop after (.items registry expansions items)) :
    FailsIn heap attempt before stop after
      (.value registry expansions declared (.list identity items)) := by
  show Encode.value _ _ _ _ _ before = _
  rw [Encode.value, Walk.bind_get, unknown]
  exact Walk.bind_error failed

theorem untargeted (unknown : before.session.memo.find? live.identity = none)
    (unfit : Encode.targetFor? registry expansions declared live.runtime = none) :
    FailsIn heap attempt before (.failed (Encode.noTargetReport live)) before
      (.value registry expansions declared (.object live)) := by
  show Encode.value _ _ _ _ _ before = _
  rw [Encode.value, Walk.bind_get, unknown, unfit]
  rfl

theorem literalObject (unknown : before.session.memo.find? live.identity = none)
    (fits : Encode.targetFor? registry expansions declared live.runtime = some target)
    (failed : FailsIn heap attempt before stop after (.object registry expansions live target)) :
    FailsIn heap attempt before stop after
      (.value registry expansions declared (.object live)) := by
  show Encode.value _ _ _ _ _ before = _
  rw [Encode.value, Walk.bind_get, unknown, fits]
  exact failed

theorem item {value : Value} {rest : List Value}
    (failed : FailsIn heap attempt (before.retain value) stop after
      (.value registry expansions none value)) :
    FailsIn heap attempt before stop after (.items registry expansions (value :: rest)) := by
  have retained : Walk.retain value before = .ok () (before.retain value) := rfl
  show Encode.allItems _ _ _ _ before = _
  rw [Encode.allItems, Walk.bind_ok retained, Walk.bind_error failed]

theorem laterItem {value : Value} {rest : List Value} {code : Code}
    (head : Part.EndsIn heap attempt (before.retain value) between
      (.value registry expansions none value code))
    (failed : FailsIn heap attempt between stop after (.items registry expansions rest)) :
    FailsIn heap attempt before stop after (.items registry expansions (value :: rest)) := by
  have retained : Walk.retain value before = .ok () (before.retain value) := rfl
  show Encode.allItems _ _ _ _ before = _
  rw [Encode.allItems, Walk.bind_ok retained, Walk.bind_ok head, Walk.bind_error failed]

end Values

section Objects

variable {object : LiveObject} {target : Target}

theorem unbuilt {report : Report} (unknown : before.session.memo.find? object.identity = none)
    (refused : Node.build object target expansions = .error report) :
    FailsIn heap attempt before (.failed report) before
      (.object registry expansions object target) := by
  show expandObject _ _ _ _ _ before = _
  rw [expandObject, Walk.bind_get, unknown, refused]
  rfl

theorem reentered (unknown : before.session.memo.find? object.identity = none)
    (built : Node.build object target expansions = .ok node)
    (busy : before.session.chain.contains object.identity = true) :
    FailsIn heap attempt before (.failed (node.noteOn before.session.chain.cycleReport)) before
      (.object registry expansions object target) := by
  obtain ⟨rfl, rfl, rfl, _, _, _, _⟩ := Node.built_of_build built
  have refused := node.enter_run before
  rw [if_pos busy] at refused
  have stopped : node.renderFresh attempt registry before = _ := Walk.bind_error refused
  show expandObject _ _ _ _ _ before = _
  rw [expandObject, Walk.bind_get, unknown, built]
  exact (Walk.bind_lift_ok node _ before).trans (Walk.bind_error stopped)

/-- A node that is built and not in progress fails as its methods do, with one unit of fuel more. -/
theorem unrendered {fuel : Nat} (unknown : before.session.memo.find? object.identity = none)
    (built : Node.build object target expansions = .ok node)
    (free : before.session.chain.contains object.identity = false)
    (failed : FailsIn heap (Node.attempt heap fuel) (before.enter object target) stop after
      (.methods node registry .empty node.accessors)) :
    FailsIn heap (Node.attempt heap (fuel + 1)) before (stop.annotate node.noteOn)
      (after.leave object.identity) (.object registry expansions object target) := by
  obtain ⟨rfl, rfl, rfl, _, _, _, _⟩ := Node.built_of_build built
  have entered := node.enter_run before
  rw [if_neg (by simp [free])] at entered
  have stopped : node.renderFresh (Node.attempt heap (fuel + 1)) registry before = _ :=
    (Walk.bind_ok entered).trans (Node.attempt_error failed)
  show expandObject _ _ _ _ _ before = _
  rw [expandObject, Walk.bind_get, unknown, built]
  exact (Walk.bind_lift_ok node _ before).trans (Walk.bind_error stopped)

end Objects

section Answers

variable {declared : DeclaredType} {value : Value}

theorem unrouted {report : Report}
    (refused : Route.choose registry node.expansions before.session declared value =
      .error report) :
    FailsIn heap attempt before (.failed report) before
      (.answer node registry declared value) := by
  show node.express _ _ _ _ _ before = _
  rw [Node.express, Walk.bind_get, refused]
  rfl

theorem literal
    (routed : Route.choose registry node.expansions before.session declared value = .ok .literal)
    (failed : FailsIn heap attempt before stop after
      (.value (node.inner registry) node.expansions (some declared) value)) :
    FailsIn heap attempt before stop after (.answer node registry declared value) := by
  show node.express _ _ _ _ _ before = _
  rw [Node.express, Walk.bind_get, routed, Walk.bind_lift_ok]
  exact Walk.bind_error failed

theorem expanded {live : LiveObject} {target : Target}
    (routed : Route.choose registry node.expansions before.session declared (.object live) =
      .ok (.expand target))
    (failed : FailsIn heap attempt before stop after
      (.object (node.inner registry) node.expansions live target)) :
    FailsIn heap attempt before stop after (.answer node registry declared (.object live)) := by
  show node.express _ _ _ _ _ before = _
  rw [Node.express, Walk.bind_get, routed, Walk.bind_lift_ok]
  exact Walk.bind_error failed

theorem shapeless {target : Target}
    (routed : Route.choose registry node.expansions before.session declared value =
      .ok (.expand target))
    (shape : ∀ live, value ≠ .object live) :
    FailsIn heap attempt before (.failed (Route.notLiteralReport value)) before
      (.answer node registry declared value) := by
  show node.express _ _ _ _ _ before = _
  rw [Node.express, Walk.bind_get, routed, Walk.bind_lift_ok]
  cases value with
  | object live => exact absurd rfl (shape live)
  | scalar _ | list _ _ => rfl

end Answers

section Methods

variable {ledger ledger' : Ledger} {method : Method} {rest : List Method} {value : Value}
  {allocated : Nat} {noted : Run}

theorem skipped (void : method.returns = .void)
    (failed : FailsIn heap attempt before stop after (.methods node registry ledger rest)) :
    FailsIn heap attempt before stop after (.methods node registry ledger (method :: rest)) := by
  show node.overrides _ _ _ _ _ _ before = _
  rw [Node.overrides, if_pos void, Walk.bind_error failed]

theorem unanswered {fault : AccessorFault} (answers : method.returns ≠ .void)
    (replied : heap.reply before.world node.object.identity method.name =
      (.error fault, allocated)) :
    FailsIn heap attempt before
      (.failed (Node.noteAccessor ledger method
        (before.note ⟨node.object.identity, method.name, .error fault⟩ allocated)
        (Node.extractionReport method fault)))
      (before.note ⟨node.object.identity, method.name, .error fault⟩ allocated)
      (.methods node registry ledger (method :: rest)) := by
  show node.overrides _ _ _ _ _ _ before = _
  rw [Node.overrides, if_neg answers,
    Walk.bind_error (Walk.annotatedAfter_error (Node.answer_error replied))]
  rfl

variable (answers : method.returns ≠ .void)
  (replied : heap.reply before.world node.object.identity method.name = (.ok value, allocated))
  (recorded : ledger.record method value
    ((before.note ⟨node.object.identity, method.name, .ok value⟩ allocated).retain value) =
    .ok ledger' noted)

include answers replied recorded

theorem unexpressed
    (failed : FailsIn heap attempt noted stop after
      (.answer node registry method.returns value)) :
    FailsIn heap attempt before (stop.annotate (Node.noteAccessor ledger' method after)) after
      (.methods node registry ledger (method :: rest)) := by
  show node.overrides _ _ _ _ _ _ before = _
  rw [Node.overrides, if_neg answers,
    Walk.bind_ok (Walk.annotatedAfter_ok (Node.answer_ok replied)), Walk.bind_ok recorded,
    Walk.bind_error (Walk.annotatedAfter_error failed)]

theorem laterMethod {code : Code}
    (expressed : Part.EndsIn heap attempt noted between
      (.answer node registry method.returns value code))
    (failed : FailsIn heap attempt between stop after (.methods node registry ledger' rest)) :
    FailsIn heap attempt before stop after (.methods node registry ledger (method :: rest)) := by
  show node.overrides _ _ _ _ _ _ before = _
  rw [Node.overrides, if_neg answers,
    Walk.bind_ok (Walk.annotatedAfter_ok (Node.answer_ok replied)), Walk.bind_ok recorded,
    Walk.bind_ok (Walk.annotatedAfter_ok expressed), Walk.bind_error failed]

end Methods

end Task.FailsIn

/-! ### Failures with enough fuel -/

theorem Stop.annotate_ne_outOfFuel {stop : Stop} {note : Report → Report} :
    stop.annotate note ≠ .outOfFuel ↔ stop ≠ .outOfFuel := by
  cases stop <;> simp [annotate]

/-- With enough fuel, the library fails as the relation says. -/
theorem Stopped.attained {heap : Heap} {task : Task} {before after : Run} {events : List Event}
    {stop : Stop} (stopped : Stopped heap task before events stop after)
    (ready : before.session.IsReady) (fueled : stop ≠ .outOfFuel) :
    ∃ enough, ∀ fuel ≥ enough, task.FailsIn heap (Node.attempt heap fuel) before stop after := by
  induction stopped with
  | list unknown _ inductionHypothesis =>
    obtain ⟨enough, fails⟩ := inductionHypothesis ready fueled
    exact ⟨enough, fun fuel le => .list unknown (fails fuel le)⟩
  | untargeted unknown unfit => exact ⟨0, fun _ _ => .untargeted unknown unfit⟩
  | literalObject unknown fits _ inductionHypothesis =>
    obtain ⟨enough, fails⟩ := inductionHypothesis ready fueled
    exact ⟨enough, fun fuel le => .literalObject unknown fits (fails fuel le)⟩
  | item _ inductionHypothesis =>
    obtain ⟨enough, fails⟩ :=
      inductionHypothesis (ready.of_memo_eq (Run.retain_memo _ _)) fueled
    exact ⟨enough, fun fuel le => .item (fails fuel le)⟩
  | @laterItem _ _ value _ _ before _ _ _ _ _ head _ inductionHypothesis =>
    have kept : (before.retain value).session.IsReady := ready.of_memo_eq (Run.retain_memo _ _)
    obtain ⟨first, ends⟩ := head.attained kept
    obtain ⟨second, fails⟩ := inductionHypothesis (head.ready kept).2 fueled
    exact ⟨max first second, fun fuel le =>
      .laterItem (ends fuel (le_of_max_le_left le)) (fails fuel (le_of_max_le_right le))⟩
  | unbuilt unknown refused => exact ⟨0, fun _ _ => .unbuilt unknown refused⟩
  | reentered unknown built busy => exact ⟨0, fun _ _ => .reentered unknown built busy⟩
  | exhausted => exact absurd rfl fueled
  | unrendered unknown built free _ inductionHypothesis =>
    obtain ⟨enough, fails⟩ := inductionHypothesis (ready.of_memo_eq (Run.enter_memo _ _ _))
      (Stop.annotate_ne_outOfFuel.mp fueled)
    refine ⟨enough + 1, fun fuel le => ?_⟩
    obtain ⟨fuel, rfl⟩ := Nat.exists_eq_add_of_le' (Nat.le_of_add_left_le le)
    exact .unrendered unknown built free (fails fuel (Nat.le_of_add_le_add_right le))
  | unrouted refused => exact ⟨0, fun _ _ => .unrouted refused⟩
  | literal routed _ inductionHypothesis =>
    obtain ⟨enough, fails⟩ := inductionHypothesis ready fueled
    exact ⟨enough, fun fuel le => .literal routed (fails fuel le)⟩
  | expanded routed _ inductionHypothesis =>
    obtain ⟨enough, fails⟩ := inductionHypothesis ready fueled
    exact ⟨enough, fun fuel le => .expanded routed (fails fuel le)⟩
  | shapeless routed shape => exact ⟨0, fun _ _ => .shapeless routed shape⟩
  | skipped void _ inductionHypothesis =>
    obtain ⟨enough, fails⟩ := inductionHypothesis ready fueled
    exact ⟨enough, fun fuel le => .skipped void (fails fuel le)⟩
  | unanswered answers replied => exact ⟨0, fun _ _ => .unanswered answers replied⟩
  | unexpressed answers replied recorded _ inductionHypothesis =>
    obtain ⟨enough, fails⟩ := inductionHypothesis
      (ready.of_memo_eq (Ledger.memo_of_record recorded)) (Stop.annotate_ne_outOfFuel.mp fueled)
    exact ⟨enough, fun fuel le => .unexpressed answers replied recorded (fails fuel le)⟩
  | laterMethod answers replied recorded expressed _ inductionHypothesis =>
    have kept := ready.of_memo_eq (Ledger.memo_of_record recorded)
    obtain ⟨first, ends⟩ := expressed.attained kept
    obtain ⟨second, fails⟩ := inductionHypothesis (expressed.ready kept).2 fueled
    exact ⟨max first second, fun fuel le => .laterMethod answers replied recorded
      (ends fuel (le_of_max_le_left le)) (fails fuel (le_of_max_le_right le))⟩

/-! ### Roots that fail -/

namespace Heap

variable {heap : Heap} {live : LiveObject} {target : Target} {canned : Canned}
  {expanded : List Target} {snapshot : Snapshot} {world : World} {number : Nat}
  {registry : Registry}

/-- Where the accessors of a planned root fail, its rendering fails for the same reason, and the
walk is all that it does to the world beside the root itself. -/
theorem render_of_stopped (closed : heap.IsClosed)
    (planned : Snapshot.plan (.object live) target canned expanded = .ok snapshot)
    (plain : canned.IsPlain) (placed : world.snapshots[number]? = some snapshot)
    (known : live ∈ heap.objects) {events : List Event} {stop : Stop} {after : Run}
    (stopped : Stopped heap (.methods snapshot.root registry (.ofSnapshot number)
      snapshot.root.accessors) (world.begun number snapshot) events stop after)
    (fueled : stop ≠ .outOfFuel) :
    heap.render world number registry =
      ⟨.error (stop.annotate snapshot.root.noteOn), after.world.onRoot number Node.fail,
        .empty⟩ := by
  obtain ⟨_, same, built, rfl⟩ := Snapshot.built_of_plan planned
  cases same
  obtain ⟨_, _, _, pending, uncached, _, _⟩ := Node.built_of_build built
  have ready : (world.begun number snapshot).session.IsReady :=
    (Session.opening_isReady plain).of_memo_eq rfl
  obtain ⟨needed, fails⟩ := stopped.attained ready fueled
  have attempted := Node.attempt_error
    (fails (max needed heap.objects.length) (Nat.le_max_left _ _))
  have rooted := renderRoot_error placed pending uncached attempted
  rw [render_eq_of_fuel closed planned plain placed known
      (Nat.le_succ_of_le (Nat.le_max_right needed _)),
    perform, snapshotText_run placed uncached, Walk.inSession, rooted]
  rfl

end Heap

end FrozenGraph
