/-
This file shows that a failure keeps its cause and its path. Wherever in the object graph a step
fails, the report of the rendering is the report of that step, and what was noted on the way out is
exactly this: for each object in progress, from the innermost one on, which accessor was worked on
and which object is being written. For a value that cannot be written at all the accessor that it
came from is named once, by the innermost visit.

What the innermost visit blames is looked up by identity among all answers of its object so far. The
latest answer has overwritten what it holds, and a value that fails without a further visit is held
by the latest answer; so the one that is blamed is the accessor that is being worked on.
-/

import FrozenGraph.Proofs.Lived
import FrozenGraph.Proofs.Reloaded
import FrozenGraph.Proofs.Renamed
import FrozenGraph.Proofs.Visited

namespace FrozenGraph

/-! ### What is noted on the way out -/

/-- The note that tells that a node is in progress. -/
def Node.progressNote (node : Node) : Note :=
  .text ("While generating a snapshot of " ++ node.object.describe ++ " (actual type: " ++
    node.object.runtime.name.text ++ "; type to extend: " ++ node.target.name.text ++ ")")

/-- What is noted about a visit, the newest note first. -/
def Visit.notes (visit : Visit) : List Note :=
  [visit.node.progressNote,
    .text ("In attempt to snapshot return value of " ++ visit.method.qualifiedName)]

namespace Fault

/-- The accessor that is blamed for a value that cannot be written: that of the innermost visit. -/
def blamed (fault : Fault) (visits : List Visit) : List Note :=
  if fault.isNotLiteral then
    (visits.getLast?.map fun visit => .origin (.ofMethod visit.method)).toList
  else []

/-- What is noted about a fault on its way out of some visits, the newest note first. -/
def passing (fault : Fault) (visits : List Visit) : List Note :=
  visits.flatMap Visit.notes ++ fault.blamed visits

end Fault

namespace Note

/-- The origin that a note names, if it names one. -/
def origin? : Note → Option Origin
  | .origin source => some source
  | .text _ => none

end Note

namespace Report

/-- A report on its way out of some visits. -/
def within (report : Report) (visits : List Visit) : Report :=
  { report with notes := report.fault.passing visits ++ report.notes }

/-- All origins that a report names, the newest first. -/
def origins (report : Report) : List Origin :=
  report.notes.filterMap Note.origin?

theorem within_nil (report : Report) : report.within [] = report := by
  simp [within, Fault.passing, Fault.blamed]

/-- The lines of a report on its way out are those that it had, and in front of them the notes. -/
theorem frames_within (report : Report) (visits : List Visit) :
    (report.within visits).frames =
      (report.fault.passing visits).map (.note ·.message) ++ report.frames := by
  simp [within, frames]

theorem origin?_eq_head? (report : Report) : report.origin? = report.origins.head? := by
  rw [origins, List.head?_filterMap, origin?]
  refine congrArg (report.notes.findSome? ·) (funext fun note => ?_)
  cases note <;> rfl

end Report

/-! ### Steps that fail -/

/-- The next step of a task fails in a state, with a report that only says what happened there. -/
inductive Raises (heap : Heap) : Task → Run → Report → Prop
  | untargeted {registry expansions declared live run}
    (unknown : run.session.memo.find? live.identity = none)
    (unfit : Encode.targetFor? registry expansions declared live.runtime = none) :
    Raises heap (.value registry expansions declared (.object live)) run
      ⟨.notLiteral live.describe live.runtime.name (some live.identity),
        [.text ("No registered type can be extended by runtime type " ++ live.runtime.name.text)],
        none⟩
  | unbuilt {registry expansions object target report run}
    (unknown : run.session.memo.find? object.identity = none)
    (refused : Node.build object target expansions = .error report) :
    Raises heap (.object registry expansions object target) run report
  | reentered {registry expansions object target node run}
    (unknown : run.session.memo.find? object.identity = none)
    (built : Node.build object target expansions = .ok node)
    (busy : run.session.chain.contains object.identity = true) :
    Raises heap (.object registry expansions object target) run
      ⟨.cycle run.session.chain.members,
        [node.progressNote,
          .text "Supplying a canned representation for one of these objects breaks the cycle"],
        none⟩
  | unrouted {node registry declared value report run}
    (refused : Route.choose registry node.expansions run.session declared value =
      .error report) :
    Raises heap (.answer node registry declared value) run report
  | shapeless {node registry declared value target run}
    (routed : Route.choose registry node.expansions run.session declared value =
      .ok (.expand target))
    (shape : ∀ live, value ≠ .object live) :
    Raises heap (.answer node registry declared value) run
      ⟨.notLiteral value.describe value.typeName value.identity?, [], none⟩
  | unanswered {node registry ledger method rest fault allocated run}
    (answers : method.returns ≠ .void)
    (replied : heap.reply run.world node.object.identity method.name = (.error fault, allocated)) :
    Raises heap (.methods node registry ledger (method :: rest)) run
      ⟨.failed "extract value for snapshot" method.qualifiedName, [], some fault⟩

namespace Raises

variable {heap : Heap} {place : Task} {run : Run} {raised : Report}

/-- A step that fails names no origin itself. -/
theorem origins_eq_nil (raises : Raises heap place run raised) : raised.origins = [] := by
  cases raises with
  | untargeted | reentered | shapeless | unanswered => rfl
  | unbuilt unknown refused =>
    obtain ⟨_, _, words, rfl⟩ := Node.invalid_of_build refused
    show (words.map Note.text).filterMap Note.origin? = []
    rw [List.filterMap_map]
    exact List.filterMap_eq_nil_iff.mpr fun _ _ => rfl
  | unrouted refused => cases Route.chosen_of_eq refused <;> rfl

/-- A value that cannot be written is one that the task of the failing step writes. -/
theorem exists_offender (raises : Raises heap place run raised)
    (unwritable : raised.fault.isNotLiteral) :
    ∃ offender ∈ place.values,
      raised.fault = .notLiteral offender.describe offender.typeName offender.identity? := by
  cases raises with
  | @untargeted _ _ _ live => exact ⟨.object live, List.mem_cons_self, rfl⟩
  | unbuilt _ refused =>
    obtain ⟨_, _, _, rfl⟩ := Node.invalid_of_build refused
    cases unwritable
  | reentered | unanswered => cases unwritable
  | @unrouted _ _ _ value _ _ refused =>
    cases Route.chosen_of_eq refused with
    | busy => cases unwritable
    | unregistered => exact ⟨value, List.mem_cons_self, rfl⟩
  | @shapeless _ _ _ value => exact ⟨value, List.mem_cons_self, rfl⟩

/-- The object in progress whose accessor fails is the one that is visited. -/
theorem members_eq (raises : Raises heap place run raised) :
    place.members = place.visits.map Visit.member := by
  cases raises <;> rfl

end Raises

/-! ### What is remembered of an answer -/

namespace Origins

mutual

/-- An accessor that is blamed already is blamed still after another answer of it. -/
theorem find?_recordValue_of_own {method : Method} {origins : Origins} {identity : Identity}
    (own : origins.find? identity = some (.ofMethod method)) : (value : Value) →
    (recordValue method origins value).find? identity = some (.ofMethod method)
  | .scalar _ => own
  | .object live => by
    rw [recordValue, find?_record]
    split
    · rfl
    · exact own
  | .list listed items => by
    rw [recordValue]
    refine find?_recordAll_of_own ?_ items
    rw [find?_record]
    split
    · rfl
    · exact own

theorem find?_recordAll_of_own {method : Method} {origins : Origins} {identity : Identity}
    (own : origins.find? identity = some (.ofMethod method)) : (items : List Value) →
    (recordAll method origins items).find? identity = some (.ofMethod method)
  | [] => own
  | first :: rest => find?_recordAll_of_own (find?_recordValue_of_own own first) rest

end

mutual

/-- An answer and everything that it holds in lists came from the accessor that gave it, whatever
gave it before. -/
theorem find?_recordValue {method : Method} {part : Value} {identity : Identity}
    (identified : part.identity? = some identity) : (value : Value) → (origins : Origins) →
    part ∈ value.parts → (recordValue method origins value).find? identity = some (.ofMethod method)
  | .scalar _, _, held => by
    rw [List.mem_singleton.mp held] at identified
    cases identified
  | .object live, origins, held => by
    rw [List.mem_singleton.mp held] at identified
    cases identified
    rw [recordValue, find?_record, if_pos rfl]
  | .list listed items, origins, held => by
    rw [recordValue]
    rcases List.mem_cons.mp held with rfl | inner
    · cases identified
      exact find?_recordAll_of_own (by rw [find?_record, if_pos rfl]) items
    · exact find?_recordAll identified items _ inner

theorem find?_recordAll {method : Method} {part : Value} {identity : Identity}
    (identified : part.identity? = some identity) : (items : List Value) → (origins : Origins) →
    part ∈ Value.partsOfAll items →
      (recordAll method origins items).find? identity = some (.ofMethod method)
  | [], _, held => nomatch held
  | first :: rest, origins, held => by
    rcases List.mem_append.mp held with early | late
    · exact find?_recordAll_of_own (find?_recordValue identified first origins early) rest
    · exact find?_recordAll identified rest _ late

end

end Origins

/-! ### Reports on their way out -/

namespace Node

variable {origins : Origins} {method : Method} {report : Report}

/-- Only a value that cannot be written is blamed on an accessor. -/
theorem blame_of_writable (writable : report.fault.isNotLiteral = false) :
    blame origins method report = report := by
  unfold blame
  split
  · rename_i _ value typeName identity fault _
    rw [fault] at writable
    cases writable
  · rfl

/-- It is blamed on one accessor only. -/
theorem blame_of_origins {source : Origin} {others : List Origin}
    (named : report.origins = source :: others) : blame origins method report = report := by
  unfold blame
  split
  · rename_i unnamed
    rw [report.origin?_eq_head?, named] at unnamed
    cases unnamed
  · rfl

/-- The accessor that is worked on is blamed for what it answered. -/
theorem blame_of_own {offender : Value}
    (fault : report.fault =
      .notLiteral offender.describe offender.typeName offender.identity?)
    (unnamed : report.origins = [])
    (own : ∀ identity, offender.identity? = some identity →
      origins.find? identity = some (.ofMethod method)) :
    blame origins method report = report.add (.origin (.ofMethod method)) := by
  have free : report.origin? = none := by rw [report.origin?_eq_head?, unnamed, List.head?_nil]
  unfold blame
  rw [fault, free]
  cases identified : offender.identity? with
  | none => rfl
  | some identity => simp [own identity identified]

/-- A report on its way out of an accessor and its node. -/
theorem noteOn_noteAccessor (node : Node) (ledger : Ledger) (run : Run) :
    node.noteOn (noteAccessor ledger method run report) =
      { blame (ledger.origins run) method report with
        notes := Visit.notes ⟨node, method⟩ ++ (blame (ledger.origins run) method report).notes } :=
  rfl

end Node

namespace Report

/-- On its way out, a report names the origin that is blamed and those that it named before. -/
theorem origins_within (report : Report) (visits : List Visit) :
    (report.within visits).origins =
      (report.fault.blamed visits).filterMap Note.origin? ++ report.origins := by
  have texts : (visits.flatMap Visit.notes).filterMap Note.origin? = [] := by
    induction visits with
    | nil => rfl
    | cons visit rest inductionHypothesis => exact inductionHypothesis
  rw [origins, within, Fault.passing, List.filterMap_append, List.filterMap_append, texts]
  rfl

/-- For a value that cannot be written that is the accessor of the innermost visit. -/
theorem origins_within_of_unwritable {report : Report} {visits : List Visit} {last : Visit}
    (unwritable : report.fault.isNotLiteral) (innermost : visits.getLast? = some last) :
    (report.within visits).origins = .ofMethod last.method :: report.origins := by
  rw [origins_within, Fault.blamed, if_pos unwritable, innermost]
  rfl

/-- For every other fault there is none. -/
theorem origins_within_of_writable {report : Report} (visits : List Visit)
    (writable : report.fault.isNotLiteral = false) :
    (report.within visits).origins = report.origins := by
  rw [origins_within, Fault.blamed, writable]
  rfl

end Report

/-- A report that comes out of an inner visit is noted as it is by the visit around it. -/
theorem Report.within_cons {raised : Report} {visits : List Visit} (inner : visits ≠ [])
    (node : Node) (method : Method) (ledger : Ledger) (run : Run) :
    node.noteOn (Node.noteAccessor ledger method run (raised.within visits)) =
      raised.within (⟨node, method⟩ :: visits) := by
  have innermost : visits.getLast? = some (visits.getLast inner) :=
    List.getLast?_eq_some_getLast inner
  have same : Node.blame (ledger.origins run) method (raised.within visits) =
      raised.within visits := by
    cases unwritable : raised.fault.isNotLiteral with
    | true => exact Node.blame_of_origins (Report.origins_within_of_unwritable unwritable innermost)
    | false => exact Node.blame_of_writable unwritable
  have deeper : (⟨node, method⟩ :: visits).getLast? = visits.getLast? := by
    rw [List.getLast?_cons, innermost]
    rfl
  rw [Node.noteOn_noteAccessor, same]
  simp only [within, Fault.passing, Fault.blamed, deeper, List.flatMap_cons, List.append_assoc]

/-- A report of a step in the innermost visit blames the accessor that is worked on. -/
theorem Report.within_singleton {raised : Report} {node : Node} {method : Method} {ledger : Ledger}
    {run : Run} (unnamed : raised.origins = [])
    (own : raised.fault.isNotLiteral → ∃ offender : Value,
      raised.fault = .notLiteral offender.describe offender.typeName offender.identity? ∧
        ∀ identity, offender.identity? = some identity →
          (ledger.origins run).find? identity = some (.ofMethod method)) :
    node.noteOn (Node.noteAccessor ledger method run raised) =
      raised.within [⟨node, method⟩] := by
  rw [Node.noteOn_noteAccessor]
  cases unwritable : raised.fault.isNotLiteral with
  | true =>
    obtain ⟨offender, fault, remembered⟩ := own unwritable
    rw [Node.blame_of_own fault unnamed remembered]
    simp [within, add, Fault.passing, Fault.blamed, unwritable]
  | false =>
    rw [Node.blame_of_writable unwritable]
    simp [within, Fault.passing, Fault.blamed, unwritable]

/-! ### Failures and the steps that they come from -/

/-- What is noted in a report when it leaves a task: the node, if the task goes through its
accessors. -/
def Task.told (report : Report) : Task → Report
  | .methods node _ _ _ => node.noteOn report
  | .value .. | .items .. | .object .. | .answer .. => report

section Failures

variable {heap : Heap} {node : Node} {registry : Registry} {ledger ledger' : Ledger}
  {method : Method} {value : Value} {run noted after : Run}

/-- While an answer is written, its accessor is remembered for everything that the answer holds. -/
theorem Ledger.find?_of_record {invocation : Invocation} {allocated : Nat}
    (placed : ledger.IsPlaced run.world)
    (recorded : ledger.record method value ((run.note invocation allocated).retain value) =
      .ok ledger' noted)
    (kept : after.world.snapshots = noted.world.snapshots) {part : Value}
    (held : part ∈ value.parts) {identity : Identity}
    (identified : part.identity? = some identity) :
    (ledger'.origins after).find? identity = some (.ofMethod method) := by
  have here : ledger.IsPlaced ((run.note invocation allocated).retain value).world :=
    placed.congr rfl
  rw [Ledger.origins_congr kept, (Ledger.origins_of_record here recorded).1]
  exact Origins.find?_recordValue identified value _ held

/-- An answer that is noted leaves the place of its origin where it is. -/
theorem Ledger.isPlaced_of_record {invocation : Invocation} {allocated : Nat}
    (placed : ledger.IsPlaced run.world)
    (recorded : ledger.record method value ((run.note invocation allocated).retain value) =
      .ok ledger' noted)
    (kept : after.world.snapshots = noted.world.snapshots) : ledger'.IsPlaced after.world := by
  have here : ledger.IsPlaced ((run.note invocation allocated).retain value).world :=
    placed.congr rfl
  exact (Ledger.origins_of_record here recorded).2.congr kept

/-- Where an answer cannot be written, the report leaves the visit of its accessor as it should. -/
theorem Comes.told_answered {visits : List Visit} {place : Task} {raised : Report}
    (inner : Comes heap (.answer node registry method.returns value) noted visits place run)
    (raises : Raises heap place run raised)
    (remembered : ∀ part ∈ value.parts, ∀ identity, part.identity? = some identity →
      (ledger'.origins after).find? identity = some (.ofMethod method)) :
    node.noteOn (Node.noteAccessor ledger' method after (raised.within (visits ++ place.visits))) =
      raised.within (⟨node, method⟩ :: visits ++ place.visits) := by
  cases way : visits ++ place.visits with
  | nil =>
    rw [List.cons_append, way, Report.within_nil]
    refine Report.within_singleton raises.origins_eq_nil fun unwritable => ?_
    obtain ⟨offender, written, fault⟩ := raises.exists_offender unwritable
    obtain ⟨whole, answer, held⟩ := inner.mem_parts (List.append_eq_nil_iff.mp way).1 written
    rw [List.mem_singleton.mp answer] at held
    exact ⟨offender, fault, remembered offender held⟩
  | cons visit rest =>
    rw [List.cons_append, way]
    exact Report.within_cons (List.cons_ne_nil _ _) node method ledger' after

/-- A report tells of a step that failed in a task: it is the report of that step, on its way out of
the visits in between. -/
inductive Tells (heap : Heap) (task : Task) (before : Run) (report : Report) : Prop
  | intro {visits place run raised} (comes : Comes heap task before visits place run)
    (raises : Raises heap place run raised)
    (told : task.told report = raised.within (visits ++ place.visits)) :
    Tells heap task before report

section Tells

variable {task task' : Task} {before before' : Run} {report report' : Report}

/-- A report of the very next step. -/
theorem Tells.of_raises {raised : Report} (raises : Raises heap task before raised)
    (told : task.told report = raised.within task.visits) : Tells heap task before report :=
  .intro .here raises told

/-- A task that comes to another one without a visit tells what that one tells. -/
theorem Tells.of_comes (tells : Tells heap task before report)
    (same : task'.told report' = task.told report)
    (leads : ∀ {visits place run}, Comes heap task before visits place run →
      Comes heap task' before' visits place run) : Tells heap task' before' report' := by
  cases tells with
  | intro comes raises told => exact .intro (leads comes) raises (same.trans told)

/-- A walk that fails came to a step that failed, and its report tells of it. -/
theorem Stopped.tells {events : List Event} {stop : Stop}
    (stopped : Stopped heap task before events stop after)
    (placed : task.ledger.IsPlaced before.world) (failed : stop = .failed report) :
    Tells heap task before report := by
  induction stopped generalizing report with
  | list unknown _ inductionHypothesis =>
    exact (inductionHypothesis trivial failed).of_comes rfl (.list unknown)
  | untargeted unknown unfit =>
    cases failed
    exact .of_raises (.untargeted unknown unfit) (Report.within_nil _).symm
  | literalObject unknown fits _ inductionHypothesis =>
    exact (inductionHypothesis trivial failed).of_comes rfl (.literalObject unknown fits)
  | item _ inductionHypothesis =>
    exact (inductionHypothesis trivial failed).of_comes rfl .item
  | laterItem head _ inductionHypothesis =>
    exact (inductionHypothesis trivial failed).of_comes rfl (.laterItem head)
  | unbuilt unknown refused =>
    cases failed
    exact .of_raises (.unbuilt unknown refused) (Report.within_nil _).symm
  | reentered unknown built busy =>
    cases failed
    exact .of_raises (.reentered unknown built busy) (Report.within_nil _).symm
  | exhausted => cases failed
  | @unrendered _ _ _ _ _ _ _ stop _ unknown built free _ inductionHypothesis =>
    cases stop with
    | outOfFuel => cases failed
    | failed inner =>
      cases failed
      exact (inductionHypothesis trivial rfl).of_comes rfl (.rendered unknown built free)
  | unrouted refused =>
    cases failed
    exact .of_raises (.unrouted refused) (Report.within_nil _).symm
  | literal routed _ inductionHypothesis =>
    exact (inductionHypothesis trivial failed).of_comes rfl (.literal routed)
  | expanded routed _ inductionHypothesis =>
    exact (inductionHypothesis trivial failed).of_comes rfl (.expanded routed)
  | shapeless routed shape =>
    cases failed
    exact .of_raises (.shapeless routed shape) (Report.within_nil _).symm
  | skipped void _ inductionHypothesis =>
    exact (inductionHypothesis placed failed).of_comes rfl (.skipped void)
  | unanswered answers replied =>
    cases failed
    exact .of_raises (.unanswered answers replied) (Report.within_singleton rfl nofun)
  | @unexpressed _ _ _ _ _ _ _ _ _ _ _ stop _ answers replied recorded inner
      inductionHypothesis =>
    cases stop with
    | outOfFuel => cases failed
    | failed report =>
      cases failed
      cases inductionHypothesis trivial rfl with
      | @intro visits place run raised comes raises told =>
        have same : report = raised.within (visits ++ place.visits) := told
        refine .intro (.answered answers replied recorded comes) raises ?_
        rw [same]
        exact comes.told_answered raises fun part held identity identified =>
          Ledger.find?_of_record placed recorded (inner.snapshots_eq trivial) held identified
  | laterMethod answers replied recorded expressed _ inductionHypothesis =>
    have here := Ledger.isPlaced_of_record placed recorded (expressed.snapshots_eq trivial)
    exact (inductionHypothesis here failed).of_comes rfl
      (.laterMethod answers replied recorded expressed)

end Tells

/-- A walk that comes to a step that fails fails with the report of that step on its way out. -/
theorem Comes.stopped {task place : Task} {before : Run} {visits : List Visit} {raised : Report}
    (comes : Comes heap task before visits place run) (raises : Raises heap place run raised)
    (placed : task.ledger.IsPlaced before.world) :
    ∃ events report after, Stopped heap task before events (.failed report) after ∧
      task.told report = raised.within (visits ++ place.visits) := by
  induction comes with
  | here =>
    cases raises with
    | untargeted unknown unfit =>
      exact ⟨[], _, _, .untargeted unknown unfit, (Report.within_nil _).symm⟩
    | unbuilt unknown refused =>
      exact ⟨[], _, _, .unbuilt unknown refused, (Report.within_nil _).symm⟩
    | reentered unknown built busy =>
      exact ⟨[], _, _, .reentered unknown built busy, (Report.within_nil _).symm⟩
    | unrouted refused => exact ⟨[], _, _, .unrouted refused, (Report.within_nil _).symm⟩
    | shapeless routed shape =>
      exact ⟨[], _, _, .shapeless routed shape, (Report.within_nil _).symm⟩
    | unanswered answers replied =>
      exact ⟨_, _, _, .unanswered answers replied, Report.within_singleton rfl nofun⟩
  | list unknown _ inductionHypothesis =>
    obtain ⟨_, _, _, stopped, told⟩ := inductionHypothesis raises trivial
    exact ⟨_, _, _, .list unknown stopped, told⟩
  | literalObject unknown fits _ inductionHypothesis =>
    obtain ⟨_, _, _, stopped, told⟩ := inductionHypothesis raises trivial
    exact ⟨_, _, _, .literalObject unknown fits stopped, told⟩
  | item _ inductionHypothesis =>
    obtain ⟨_, _, _, stopped, told⟩ := inductionHypothesis raises trivial
    exact ⟨_, _, _, .item stopped, told⟩
  | laterItem head _ inductionHypothesis =>
    obtain ⟨_, _, _, stopped, told⟩ := inductionHypothesis raises trivial
    exact ⟨_, _, _, .laterItem head stopped, told⟩
  | rendered unknown built free _ inductionHypothesis =>
    obtain ⟨_, _, _, stopped, told⟩ := inductionHypothesis raises trivial
    exact ⟨_, _, _, .unrendered unknown built free stopped, told⟩
  | literal routed _ inductionHypothesis =>
    obtain ⟨_, _, _, stopped, told⟩ := inductionHypothesis raises trivial
    exact ⟨_, _, _, .literal routed stopped, told⟩
  | expanded routed _ inductionHypothesis =>
    obtain ⟨_, _, _, stopped, told⟩ := inductionHypothesis raises trivial
    exact ⟨_, _, _, .expanded routed stopped, told⟩
  | skipped void _ inductionHypothesis =>
    obtain ⟨_, _, _, stopped, told⟩ := inductionHypothesis raises placed
    exact ⟨_, _, _, .skipped void stopped, told⟩
  | answered answers replied recorded inner inductionHypothesis =>
    obtain ⟨_, report, _, stopped, told⟩ := inductionHypothesis raises trivial
    have same : report = raised.within _ := told
    refine ⟨_, _, _, .unexpressed answers replied recorded stopped, ?_⟩
    rw [same]
    exact inner.told_answered raises fun part held identity identified =>
      Ledger.find?_of_record placed recorded (stopped.snapshots_eq trivial) held identified
  | laterMethod answers replied recorded expressed _ inductionHypothesis =>
    have here := Ledger.isPlaced_of_record placed recorded (expressed.snapshots_eq trivial)
    obtain ⟨_, _, _, stopped, told⟩ := inductionHypothesis raises here
    exact ⟨_, _, _, .laterMethod answers replied recorded expressed stopped, told⟩

end Failures

/-! ### Every rendering -/

/-- Through visits of the objects in progress, the rendering of a snapshot comes to a step that
fails in a state with a report of its own. -/
inductive Heap.FailsAt (heap : Heap) (world : World) (number : Nat) (snapshot : Snapshot)
    (registry : Registry) : List Visit → Run → Report → Prop
  | intro {visits place run raised}
    (comes : Comes heap (.methods snapshot.root registry (.ofSnapshot number)
      snapshot.root.accessors) (world.begun number snapshot) visits place run)
    (raises : Raises heap place run raised) :
    FailsAt heap world number snapshot registry (visits ++ place.visits) run raised

/-- The answers of a root are noted with its snapshot. -/
theorem World.begun_isPlaced {world : World} {number : Nat} {snapshot : Snapshot}
    (placed : world.snapshots[number]? = some snapshot) :
    (Ledger.ofSnapshot number).IsPlaced (world.begun number snapshot).world := by
  show number < (world.snapshots.modify number _).length
  rw [List.length_modify]
  exact (List.getElem?_eq_some_iff.mp placed).1

namespace Heap

variable {heap : Heap} {world : World} {number : Nat} {snapshot : Snapshot} {registry : Registry}

/-- The objects in progress are those that are visited, the root first. -/
theorem FailsAt.chain_eq {visits : List Visit} {run : Run} {raised : Report}
    (fails : heap.FailsAt world number snapshot registry visits run raised) :
    run.session.chain.members = visits.map Visit.member := by
  cases fails with
  | intro comes raises =>
    rw [comes.chain_eq (List.nil_append _).symm, List.nil_append, raises.members_eq,
      List.map_append]

/-- A root that fails while its accessors are gone through came to a step that failed, and its
report is the report of that step on its way out. -/
theorem exists_failsAt_of_attempt {fuel : Nat} (plain : snapshot.canned.IsPlain)
    (placed : world.snapshots[number]? = some snapshot) {report : Report} {after : Run}
    (failed : Node.attempt heap fuel (.ofSnapshot number) snapshot.root registry
      (world.begun number snapshot) = .error (.failed report) after) :
    ∃ visits run raised, heap.FailsAt world number snapshot registry visits run raised ∧
      report = raised.within visits := by
  have ready : (world.begun number snapshot).session.IsReady :=
    (Session.opening_isReady plain).of_memo_eq rfl
  cases Node.attempt_follows heap fuel (.ofSnapshot number) snapshot.root registry _ ready with
  | ok ended | outOfFuel ended =>
    rw [ended] at failed
    cases failed
  | @error stop events _ ended stopped =>
    rw [ended] at failed
    cases stop with
    | outOfFuel => cases failed
    | failed inner =>
      cases failed
      obtain ⟨comes, raises, told⟩ := stopped.tells (World.begun_isPlaced placed) rfl
      exact ⟨_, _, _, .intro comes raises, told⟩

/-- So does every rendering that fails, unless the root failed before. -/
theorem exists_failsAt (plain : snapshot.canned.IsPlain)
    (placed : world.snapshots[number]? = some snapshot)
    (unfailed : snapshot.root.state ≠ .failed) {report : Report}
    (failed : (heap.render world number registry).result = .error (.failed report)) :
    ∃ visits run raised, heap.FailsAt world number snapshot registry visits run raised ∧
      report = raised.within visits := by
  cases uncached : snapshot.root.cached with
  | some text =>
    have reused : heap.render world number registry = _ :=
      call_reused placed uncached (.snapshot registry)
    rw [reused] at failed
    cases failed
  | none =>
    cases ended : renderRoot (heap.attempt world) number registry
        ⟨world, .opening snapshot.canned⟩ with
    | ok text after =>
      rw [render_of_ok placed uncached ended] at failed
      cases failed
    | error stop after =>
      rw [render_of_error placed uncached ended] at failed
      cases failed
      obtain ⟨between, stopped⟩ :=
        renderRoot_stops placed unfailed uncached (Session.opening_free snapshot.canned _) ended
      rw [← world.begun_eq] at stopped
      exact exists_failsAt_of_attempt plain placed stopped

/-- A failure keeps its cause and its path. A rendering that fails came to a step that failed, its
objects in progress being those visited; its report is about the fault of that step, and its lines
are those of that step, with nothing in front of them but what the visits note, each one in its
place. Conversely, over a closed heap a rendering fails in this way wherever it comes to a step that
fails. -/
theorem render_keeps_cause {value : Value} {target : Target} {canned : Canned}
    {expanded : List Target} {snapshot : Snapshot} {world : World} {number : Nat} (heap : Heap)
    (registry : Registry) (planned : Snapshot.plan value target canned expanded = .ok snapshot)
    (plain : canned.IsPlain) (placed : world.snapshots[number]? = some snapshot) :
    (∀ report, (heap.render world number registry).result = .error (.failed report) →
      ∃ visits run raised, heap.FailsAt world number snapshot registry visits run raised ∧
        run.session.chain.members = visits.map Visit.member ∧
        report = raised.within visits ∧ report.fault = raised.fault ∧
        report.frames =
          (raised.fault.passing visits).map (.note ·.message) ++ raised.frames) ∧
    (heap.IsClosed → snapshot.root.object ∈ heap.objects → ∀ visits run raised,
      heap.FailsAt world number snapshot registry visits run raised →
        (heap.render world number registry).result = .error (.failed (raised.within visits))) := by
  obtain ⟨_, rfl, built, rfl⟩ := Snapshot.built_of_plan planned
  obtain ⟨rfl, _, _, pending, _, _, _⟩ := Node.built_of_build built
  constructor
  · intro report failed
    obtain ⟨visits, run, raised, fails, rfl⟩ :=
      exists_failsAt plain placed (by rw [pending]; exact nofun) failed
    exact ⟨visits, run, raised, fails, fails.chain_eq, rfl, rfl,
      Report.frames_within raised visits⟩
  · rintro closed known visits run raised ⟨comes, raises⟩
    obtain ⟨events, report, after, stopped, told⟩ :=
      comes.stopped raises (World.begun_isPlaced placed)
    rw [render_of_stopped closed planned plain placed known stopped nofun]
    exact congrArg (fun report => Except.error (Stop.failed report)) told

end Heap

/-! ### Two objects that lead to each other -/

namespace Ring

example : (match (heap.render world 0 .root).result with
    | .error (.failed report) => report.notes.map Note.message
    | .error .outOfFuel | .ok _ => []) =
      ["While generating a snapshot of Node@#first (actual type: Node; type to extend: Node)",
        "In attempt to snapshot return value of Node.getOthers()",
        "While generating a snapshot of Node@#second (actual type: Node; type to extend: Node)",
        "In attempt to snapshot return value of Node.getOthers()",
        "While generating a snapshot of Node@#first (actual type: Node; type to extend: Node)",
        "Supplying a canned representation for one of these objects breaks the cycle"] := by
  decide +kernel

theorem render_keeps_cause_ring :
    ∃ report visits run raised,
      (heap.render world 0 .root).result = .error (.failed report) ∧
      heap.FailsAt world 0 snapshot .root visits run raised ∧
      run.session.chain.members = visits.map Visit.member ∧
      report.fault = raised.fault ∧
      report.frames = (raised.fault.passing visits).map (.note ·.message) ++ raised.frames ∧
      (heap.render world 0 .root).result = .error (.failed (raised.within visits)) := by
  have placed : world.snapshots[0]? = some snapshot := rfl
  obtain ⟨report, failed, _⟩ := reported
  obtain ⟨tells, fails⟩ :=
    Heap.render_keeps_cause heap .root planned Canned.empty_isPlain placed
  obtain ⟨visits, run, raised, failsAt, progress, _, fault, frames⟩ := tells report failed
  exact ⟨report, visits, run, raised, failed, failsAt, progress, fault, frames,
    fails isClosed (by decide) visits run raised failsAt⟩

end Ring

end FrozenGraph
