/-
This file shows whom a report blames. It names an accessor exactly if it is about a value that
cannot be written, and then it names one: the accessor that is worked on, on the innermost of the
objects in progress. The latest answer of that object is the value or holds it in lists, and came
from that accessor. It does not matter which accessors, of this or of other objects, have given the
same value before, nor how often the snapshot was rendered already.
-/

import FrozenGraph.Proofs.Reported

namespace FrozenGraph

/-! ### The answer that holds a value -/

/-- A task that writes a value makes no visit of its own. -/
theorem Task.visits_of_mem_values {task : Task} {value : Value} (written : value ∈ task.values) :
    task.visits = [] := by
  cases task with
  | value | items | object | answer => rfl
  | methods => cases written

section Answers

variable {heap : Heap} {task place : Task} {before run : Run} {visits : List Visit}

/-- What a visit was made for holds everything that is written before the next visit: it is the
latest answer of the object that is visited. -/
theorem Comes.exists_answer (comes : Comes heap task before visits place run)
    (busy : ∀ host, task.host? = some host → before.session.chain.contains host)
    {offender : Value} (written : offender ∈ place.values) {last : Visit}
    (innermost : visits.getLast? = some last) :
    ∃ answer, offender ∈ answer.parts ∧
      (Invocation.on last.node.object.identity run.world.history).head? =
        some ⟨last.node.object.identity, last.method.name, .ok answer⟩ := by
  induction comes with
  | here => cases innermost
  | list _ _ inductionHypothesis => exact inductionHypothesis nofun written innermost
  | literalObject _ _ _ inductionHypothesis => exact inductionHypothesis nofun written innermost
  | item _ inductionHypothesis => exact inductionHypothesis nofun written innermost
  | laterItem _ _ inductionHypothesis => exact inductionHypothesis nofun written innermost
  | rendered _ built _ _ inductionHypothesis =>
    obtain ⟨rfl, _, _, _, _, _, _⟩ := Node.built_of_build built
    refine inductionHypothesis (fun host same => ?_) written innermost
    rw [← Option.some.inj same]
    exact Run.enter_contains _ _ _
  | literal _ _ inductionHypothesis => exact inductionHypothesis nofun written innermost
  | expanded _ _ inductionHypothesis => exact inductionHypothesis nofun written innermost
  | skipped _ _ inductionHypothesis => exact inductionHypothesis busy written innermost
  | @answered node _ _ _ method _ value _ _ _ visits _ _ _ _ recorded inner inductionHypothesis =>
    cases visits with
    | cons visit rest =>
      rw [List.getLast?_cons_cons] at innermost
      exact inductionHypothesis nofun written innermost
    | nil =>
      -- This visit is the innermost one, and from here on its object stays in progress.
      obtain rfl := Option.some.inj innermost
      obtain ⟨whole, answer, held⟩ := inner.mem_parts rfl written
      rw [List.mem_singleton.mp answer] at held
      refine ⟨value, held, ?_⟩
      have progress := busy node.object.identity rfl
      rw [inner.on_eq rfl written (by rwa [Ledger.chain_of_record recorded]),
        (Ledger.record_frame recorded).2.1]
      exact congrArg List.head? (Invocation.on_cons_self ⟨_, method.name, .ok value⟩ _)
  | laterMethod _ _ recorded expressed _ inductionHypothesis =>
    refine inductionHypothesis (fun host same => ?_) written innermost
    rw [expressed.chain_eq, Ledger.chain_of_record recorded]
    exact busy host same

end Answers

/-! ### Every rendering -/

namespace Heap

variable {heap : Heap} {world : World} {number : Nat} {snapshot : Snapshot} {registry : Registry}

/-- What a value that cannot be written was answered for: the latest answer of the innermost object
in progress holds it. -/
theorem FailsAt.exists_answer {visits : List Visit} {run : Run} {raised : Report}
    (fails : heap.FailsAt world number snapshot registry visits run raised)
    (unwritable : raised.fault.isNotLiteral) :
    ∃ front last offender answer, visits = front ++ [last] ∧
      raised.fault = .notLiteral offender.describe offender.typeName offender.identity? ∧
      offender ∈ answer.parts ∧
      (Invocation.on last.node.object.identity run.world.history).head? =
        some ⟨last.node.object.identity, last.method.name, .ok answer⟩ := by
  cases fails with
  | @intro visits place run raised comes raises =>
    obtain ⟨offender, written, fault⟩ := raises.exists_offender unwritable
    rw [Task.visits_of_mem_values written, List.append_nil]
    rcases List.eq_nil_or_concat' visits with alone | ⟨front, last, rfl⟩
    · -- Without a visit nothing is written, so nothing can be unwritable.
      rw [comes.values_of_methods alone List.mem_cons_self] at written
      cases written
    · obtain ⟨answer, held, latest⟩ := comes.exists_answer (fun _ same => World.begun_contains same)
        written List.getLast?_concat
      exact ⟨front, last, offender, answer, rfl, fault, held, latest⟩

/-- The step that fails names no origin itself. -/
theorem FailsAt.origins_eq_nil {visits : List Visit} {run : Run} {raised : Report}
    (fails : heap.FailsAt world number snapshot registry visits run raised) :
    raised.origins = [] := by
  cases fails with
  | intro _ raises => exact raises.origins_eq_nil

/-- A root that failed before is not rendered again, and its report blames nobody. -/
theorem report_of_failed (placed : world.snapshots[number]? = some snapshot)
    (before : snapshot.root.state = .failed) {report : Report}
    (failed : (heap.render world number registry).result = .error (.failed report)) :
    report = snapshot.root.retryReport := by
  cases uncached : snapshot.root.cached with
  | some text =>
    have reused : heap.render world number registry = _ :=
      call_reused placed uncached (.snapshot registry)
    rw [reused] at failed
    cases failed
  | none =>
    have unretried : heap.render world number registry = _ :=
      call_unretried placed uncached before (.snapshot registry)
    rw [unretried] at failed
    cases failed
    rfl

/-- A report names an accessor exactly if it is about a value that cannot be written, and then one:
the accessor that is worked on, on the innermost object in progress. The latest answer of that
object came from this accessor, and is the value or holds it in lists. This is so for every
rendering that fails, the first one or not. -/
theorem render_blames (heap : Heap) (registry : Registry) (plain : snapshot.canned.IsPlain)
    (placed : world.snapshots[number]? = some snapshot) {report : Report}
    (failed : (heap.render world number registry).result = .error (.failed report)) :
    report.origins.length = (if report.fault.isNotLiteral then 1 else 0) ∧
    (report.fault.isNotLiteral → ∃ front visit run raised offender answer,
      heap.FailsAt world number snapshot registry (front ++ [visit]) run raised ∧
      run.session.chain.members = front.map Visit.member ++ [visit.member] ∧
      report.origins = [⟨visit.method.declaring, visit.method.name, visit.method.returns⟩] ∧
      report.fault = .notLiteral offender.describe offender.typeName offender.identity? ∧
      offender ∈ answer.parts ∧
      (Invocation.on visit.node.object.identity run.world.history).head? =
        some ⟨visit.node.object.identity, visit.method.name, .ok answer⟩) := by
  by_cases before : snapshot.root.state = .failed
  · rw [report_of_failed placed before failed]
    exact ⟨rfl, nofun⟩
  · obtain ⟨visits, run, raised, fails, rfl⟩ := exists_failsAt plain placed before failed
    have blamed : (raised.within visits).fault = raised.fault := rfl
    rw [blamed]
    cases unwritable : raised.fault.isNotLiteral with
    | false =>
      refine ⟨?_, nofun⟩
      rw [Report.origins_within_of_writable _ unwritable, fails.origins_eq_nil]
      rfl
    | true =>
      obtain ⟨front, last, offender, answer, rfl, fault, held, latest⟩ :=
        fails.exists_answer unwritable
      have innermost : (front ++ [last]).getLast? = some last := List.getLast?_concat
      rw [Report.origins_within_of_unwritable unwritable innermost, fails.origins_eq_nil]
      refine ⟨rfl, fun _ => ⟨front, last, run, raised, offender, answer, fails, ?_, rfl, fault,
        held, latest⟩⟩
      rw [fails.chain_eq, List.map_append]
      rfl

end Heap

/-! ### A label that a crate and a bottle in it have given -/

namespace Cellar

/-- A bottle has a label. -/
def bottle : Target :=
  (Target.interface "Bottle").accessor "getLabel" (.named ⟨"Label"⟩ [])

/-- A crate has bottles. -/
def crate : Target :=
  (Target.interface "Crate").accessor "getBottles" (.listOf bottle.declaredType)

/-- The label, of a type that is not registered. -/
def labelObject : LiveObject :=
  ⟨.entry "label", ⟨⟨"Label"⟩, []⟩, none⟩

/-- The only bottle. -/
def bottleObject : LiveObject :=
  ⟨.entry "bottle", ⟨bottle.name, []⟩, none⟩

/-- The crate of the bottle. -/
def crateObject : LiveObject :=
  ⟨.entry "crate", ⟨crate.name, []⟩, none⟩

/-- The crate answers the bottle, and behind it the label that the bottle will answer. -/
def script : Script :=
  [⟨crateObject, [("getBottles",
      .value (.fresh [.existing (.object bottleObject), .existing (.object labelObject)]))]⟩,
    ⟨bottleObject, [("getLabel", .value (.existing (.object labelObject)))]⟩]

/-- The heap of the crate and the bottle. -/
def heap : Heap :=
  script.heap

/-- The crate is planned, and bottles are expanded. -/
def snapshot : Snapshot where
  root := ⟨crateObject, crate, crate.methods, .ofList [bottle], .pending, none⟩
  canned := .empty
  origins := .empty

/-- Nothing has happened but the planning. -/
def world : World :=
  { World.initial with snapshots := [snapshot] }

example : (match (heap.render world 0 .root).result with
    | .error (.failed report) => report.origins
    | .error .outOfFuel | .ok _ => []) = [⟨⟨"Bottle"⟩, "getLabel", .named ⟨"Label"⟩ []⟩] := by
  decide +kernel

theorem unwritable : ∃ report, (heap.render world 0 .root).result = .error (.failed report) ∧
    report.fault.isNotLiteral := by
  have fault : (match (heap.render world 0 .root).result with
      | .error (.failed report) => report.fault.isNotLiteral
      | .error .outOfFuel | .ok _ => false) = true := by
    decide +kernel
  cases ended : (heap.render world 0 .root).result with
  | ok text =>
    rw [ended] at fault
    cases fault
  | error stop =>
    rw [ended] at fault
    cases stop with
    | failed report => exact ⟨report, rfl, fault⟩
    | outOfFuel => cases fault

theorem render_blames_bottle :
    ∃ report front visit run raised offender answer,
      (heap.render world 0 .root).result = .error (.failed report) ∧
      report.origins.length = 1 ∧
      heap.FailsAt world 0 snapshot .root (front ++ [visit]) run raised ∧
      run.session.chain.members = front.map Visit.member ++ [visit.member] ∧
      report.origins = [⟨visit.method.declaring, visit.method.name, visit.method.returns⟩] ∧
      report.fault = .notLiteral offender.describe offender.typeName offender.identity? ∧
      offender ∈ answer.parts ∧
      (Invocation.on visit.node.object.identity run.world.history).head? =
        some ⟨visit.node.object.identity, visit.method.name, .ok answer⟩ := by
  have placed : world.snapshots[0]? = some snapshot := rfl
  obtain ⟨report, failed, notLiteral⟩ := unwritable
  obtain ⟨single, blames⟩ := Heap.render_blames heap .root Canned.empty_isPlain placed failed
  obtain ⟨front, visit, run, raised, offender, answer, fails⟩ := blames notLiteral
  rw [if_pos notLiteral] at single
  exact ⟨report, front, visit, run, raised, offender, answer, failed, single, fails⟩

end Cellar

end FrozenGraph
