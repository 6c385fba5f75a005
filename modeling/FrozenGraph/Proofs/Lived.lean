/-
This file tells the life of a root over any history of calls. A root is planned once and then
rendered and generated any number of times: every call brings its own registry, and perhaps a
session of the caller's with objects in progress and expressions that are known already. The first
call that is let in decides. From then on every call gives the text that was found then, or reports
that there was a failure; nothing is invoked any more, and the session is left alone. A call that
finds the object of the root in progress is not let in, and decides nothing.
-/

import FrozenGraph.Proofs.Substituted

namespace FrozenGraph

/-! ### Calls -/

/-- A call of the root of a snapshot. -/
inductive Call where
  /-- The root is rendered in a session that the caller holds. -/
  | render (registry : Registry) (session : Session)
  /-- The root is generated as a statement, in a session of its own that knows nothing. -/
  | generate (registry : Registry)
  /-- The snapshot is generated, in a session of its own that knows the canned representations. -/
  | snapshot (registry : Registry)

/-- The session of the caller. -/
def Call.session : Call → Session
  | .render _ session => session
  | .generate _ | .snapshot _ => .empty

namespace Heap

/-- Generates the root of a snapshot as a statement. -/
def generateRoot (heap : Heap) (world : World) (number : Nat) (registry : Registry) :
    Ended String :=
  perform world .empty (Walk.inSession .empty (renderRoot (heap.attempt world) number registry))

/-- Calls the root of a snapshot in a world. -/
def call (heap : Heap) (world : World) (number : Nat) : Call → Ended String
  | .render registry session => heap.renderIn world session number registry
  | .generate registry => heap.generateRoot world number registry
  | .snapshot registry => heap.render world number registry

end Heap

/-- A call in a history, with the world that it is made in. -/
structure Stage where
  world : World
  call : Call

namespace Stage

/-- How the call ends. -/
def ended (stage : Stage) (heap : Heap) (number : Nat) : Heap.Ended String :=
  heap.call stage.world number stage.call

/-- The call ends with a result and leaves everything as it is: the world with all that was ever
invoked and the snapshots in it, and the session of the caller. -/
def Rests (stage : Stage) (heap : Heap) (number : Nat) (result : Except Stop String) : Prop :=
  stage.ended heap number = ⟨result, stage.world, stage.call.session⟩

end Stage

/-- Calls of the root of one snapshot, one after the other. Between two of them the world may change
in every way that leaves this snapshot: other snapshots are rendered, accessors are invoked. -/
inductive Lived (heap : Heap) (number : Nat) : Snapshot → List Stage → Prop
  | nil {snapshot} : Lived heap number snapshot []
  | call {snapshot next stage later}
    (placed : stage.world.snapshots[number]? = some snapshot)
    (left : (stage.ended heap number).world.snapshots[number]? = some next)
    (lived : Lived heap number next later) :
    Lived heap number snapshot (stage :: later)

/-! ### Walks that are performed -/

namespace Heap

variable {α : Type} {world : World} {session : Session} {walk : Walk α} {after : Run}

theorem perform_of_ok {answer : α} (ended : walk ⟨world, session⟩ = .ok answer after) :
    perform world session walk = ⟨.ok answer, after.world, after.session⟩ := by
  rw [perform, ended]

theorem perform_of_error {stop : Stop} (ended : walk ⟨world, session⟩ = .error stop after) :
    perform world session walk = ⟨.error stop, after.world, after.session⟩ := by
  rw [perform, ended]

/-- A walk in another session leaves the session of the caller. -/
theorem perform_inSession (inner : Session) :
    perform world session (Walk.inSession inner walk) =
      { perform world inner walk with session } := by
  rw [perform, perform, Walk.inSession]
  cases walk ⟨world, inner⟩ <;> rfl

end Heap

/-! ### One rendering of a root -/

section Rendering

variable {heap : Heap} {attempt : Attempt} {number : Nat} {registry : Registry}
  {snapshot : Snapshot} {run : Run}

/-- A text that is there is used again. -/
theorem renderRoot_reused {text : String} (placed : run.world.snapshots[number]? = some snapshot)
    (cached : snapshot.root.cached = some text) :
    renderRoot attempt number registry run = .ok text run := by
  rw [renderRoot, Walk.bind_get, placed]
  simp only [cached]
  rfl

/-- A root that failed is not tried again. -/
theorem renderRoot_unretried (placed : run.world.snapshots[number]? = some snapshot)
    (uncached : snapshot.root.cached = none) (failed : snapshot.root.state = .failed) :
    renderRoot attempt number registry run = .error (.failed snapshot.root.retryReport) run := by
  rw [renderRoot, Walk.bind_get, placed]
  simp only [uncached, failed]
  rfl

/-- A call has decided a root: its text is there, or it has failed. -/
inductive Node.Decided (root : Node) (number : Nat) : Heap.Ended String → Prop
  | complete {text world session}
    (kept : world.root? number = some (root.complete text)) :
    Decided root number ⟨.ok text, world, session⟩
  | failed {stop world session} (kept : world.root? number = some root.fail) :
    Decided root number ⟨.error stop, world, session⟩

/-- The session that a call leaves does not matter. -/
theorem Node.Decided.in_session {root : Node} {ended : Heap.Ended String}
    (decided : root.Decided number ended) (session : Session) :
    root.Decided number { ended with session } := by
  cases decided with
  | complete kept => exact .complete kept
  | failed kept => exact .failed kept

/-- A root that was never tried is decided by the first rendering that finds it free. -/
theorem renderRoot_decides (follows : attempt.Follows heap)
    (placed : run.world.snapshots[number]? = some snapshot)
    (pending : snapshot.root.state = .pending) (uncached : snapshot.root.cached = none)
    (free : run.session.chain.contains snapshot.root.object.identity = false)
    (ready : run.session.IsReady) :
    snapshot.root.Decided number
      (Heap.perform run.world run.session (renderRoot attempt number registry)) := by
  have begun : (run.begin number snapshot.root).world.root? number = some snapshot.root.start :=
    Run.root?_begin (congrArg (Option.map Snapshot.root) placed)
  have followed := follows (.ofSnapshot number) snapshot.root registry
    (run.begin number snapshot.root) (ready.of_memo_eq rfl)
  -- No part of the walk touches the root of a snapshot, so it is still the one that was started.
  cases followed with
  | @ok overrides _ _ ended walked =>
    have found := (walked.growsBy.roots number).trans begun
    rw [Heap.perform_of_ok (renderRoot_completes placed pending uncached free ended found)]
    have kept :=
      World.root?_onRoot (Node.complete · (snapshot.root.classText registry overrides)) found
    exact .complete kept
  | error ended stopped =>
    have found := (stopped.growsBy.roots number).trans begun
    rw [Heap.perform_of_error (renderRoot_fails placed pending uncached free ended)]
    have kept := World.root?_onRoot Node.fail found
    exact .failed kept
  | outOfFuel ended =>
    rw [Heap.perform_of_error (renderRoot_fails placed pending uncached free ended)]
    have kept := World.root?_onRoot Node.fail begun
    exact .failed kept

end Rendering

/-! ### One call -/

namespace Heap

variable {heap : Heap} {world : World} {number : Nat} {snapshot : Snapshot}

theorem call_reused {text : String} (placed : world.snapshots[number]? = some snapshot)
    (cached : snapshot.root.cached = some text) (call : Call) :
    heap.call world number call = ⟨.ok text, world, call.session⟩ := by
  cases call with
  | render registry session => exact perform_of_ok (renderRoot_reused placed cached)
  | generate registry =>
    rw [Heap.call, generateRoot, perform_inSession,
      perform_of_ok (renderRoot_reused placed cached)]
    rfl
  | snapshot registry =>
    have ended : snapshotText (heap.attempt world) number registry ⟨world, .empty⟩ =
        .ok text ⟨world, .empty⟩ := by
      rw [snapshotText, Walk.bind_get, placed]
      simp only [cached]
      rfl
    exact perform_of_ok ended

/-- The snapshot is generated as its root is in a session that knows what is canned. -/
theorem call_snapshot (placed : world.snapshots[number]? = some snapshot)
    (uncached : snapshot.root.cached = none) (registry : Registry) :
    heap.call world number (.snapshot registry) =
      { heap.renderIn world (.opening snapshot.canned) number registry with session := .empty } :=
  render_eq_renderIn placed uncached

theorem call_unretried (placed : world.snapshots[number]? = some snapshot)
    (uncached : snapshot.root.cached = none) (failed : snapshot.root.state = .failed)
    (call : Call) :
    heap.call world number call =
      ⟨.error (.failed snapshot.root.retryReport), world, call.session⟩ := by
  have refused (session : Session) (registry : Registry) :
      heap.renderIn world session number registry =
        ⟨.error (.failed snapshot.root.retryReport), world, session⟩ :=
    perform_of_error (renderRoot_unretried placed uncached failed)
  cases call with
  | render registry session => exact refused session registry
  | generate registry =>
    show perform world .empty (Walk.inSession .empty _) = _
    rw [perform_inSession]
    exact congrArg (fun ended : Ended String => { ended with session := .empty })
      (refused .empty registry)
  | snapshot registry =>
    rw [call_snapshot placed uncached, refused]
    rfl

/-- A root that is in progress in the session of the caller is refused. -/
theorem call_refused {registry : Registry} {session : Session}
    (placed : world.snapshots[number]? = some snapshot)
    (pending : snapshot.root.state = .pending) (uncached : snapshot.root.cached = none)
    (busy : session.chain.contains snapshot.root.object.identity) :
    ∃ report, heap.call world number (.render registry session) =
        ⟨.error (.failed report), world, session⟩ ∧
      report.fault = .cycle session.chain.members := by
  obtain ⟨report, ended, cycle⟩ : ∃ report,
      renderRoot (heap.attempt world) number registry ⟨world, session⟩ =
        .error (.failed report) ⟨world, session⟩ ∧ report.fault = .cycle session.chain.members :=
    renderRoot_refused placed uncached (by simp [pending]) busy
  exact ⟨report, perform_of_error ended, cycle⟩

/-- A root that was never tried is decided by the first call that finds it free. -/
theorem call_decides {call : Call} (placed : world.snapshots[number]? = some snapshot)
    (pending : snapshot.root.state = .pending) (uncached : snapshot.root.cached = none)
    (free : call.session.chain.contains snapshot.root.object.identity = false)
    (ready : call.session.IsReady) (plain : snapshot.canned.IsPlain) :
    snapshot.root.Decided number (heap.call world number call) := by
  have decides {registry : Registry} {session : Session}
      (unbusy : session.chain.contains snapshot.root.object.identity = false)
      (printable : session.IsReady) :
      snapshot.root.Decided number (heap.renderIn world session number registry) :=
    @renderRoot_decides heap (heap.attempt world) number registry snapshot ⟨world, session⟩
      (Node.attempt_follows heap _) placed pending uncached unbusy printable
  cases call with
  | render registry session => exact decides free ready
  | generate registry =>
    show Node.Decided _ _ (perform world .empty (Walk.inSession .empty _))
    rw [perform_inSession]
    exact (decides free ready).in_session .empty
  | snapshot registry =>
    rw [call_snapshot placed uncached]
    exact (decides (Session.opening_free _ _) (Session.opening_isReady plain)).in_session .empty

end Heap

/-! ### Histories of calls -/

/-- What is known of a snapshot between two calls: its root was never tried, is complete, or has
failed. -/
inductive Snapshot.Lasting (snapshot : Snapshot) : Prop
  | pending (untried : snapshot.root.state = .pending) (uncached : snapshot.root.cached = none)
    (plain : snapshot.canned.IsPlain)
  | complete {text} (done : snapshot.root.state = .complete)
    (cached : snapshot.root.cached = some text)
  | failed (spent : snapshot.root.state = .failed) (uncached : snapshot.root.cached = none)

namespace Snapshot.Lasting

variable {snapshot : Snapshot}

theorem of_plan {value : Value} {target : Target} {canned : Canned} {expanded : List Target}
    (planned : Snapshot.plan value target canned expanded = .ok snapshot)
    (plain : canned.IsPlain) : snapshot.Lasting := by
  obtain ⟨live, rfl, built, rfl⟩ := Snapshot.built_of_plan planned
  obtain ⟨_, _, _, pending, uncached, _, _⟩ := Node.built_of_build built
  exact .pending pending uncached plain

/-- A root has a text exactly if it is complete. -/
theorem cached_iff (lasting : snapshot.Lasting) :
    snapshot.root.cached.isSome ↔ snapshot.root.state = .complete := by
  cases lasting with
  | pending untried uncached _ => simp [untried, uncached]
  | complete done cached => simp [done, cached]
  | failed spent uncached => simp [spent, uncached]

theorem uncached_of_failed (lasting : snapshot.Lasting) (failed : snapshot.root.state = .failed) :
    snapshot.root.cached = none := by
  cases lasting with
  | pending _ uncached _ => exact uncached
  | complete done _ => simp [failed] at done
  | failed _ uncached => exact uncached

theorem uncached_of_pending (lasting : snapshot.Lasting)
    (pending : snapshot.root.state = .pending) : snapshot.root.cached = none := by
  cases lasting with
  | pending _ uncached _ => exact uncached
  | complete done _ => simp [pending] at done
  | failed _ uncached => exact uncached

end Snapshot.Lasting

/-- What a call makes of a snapshot: everything rests, or the root is decided. -/
inductive Stage.Turns (stage : Stage) (heap : Heap) (number : Nat) (before after : Snapshot) : Prop
  | rests {result} (rests : stage.Rests heap number result) (same : after = before)
    (kept : ∀ text, result = .ok text → before.root.cached = some text)
  | complete {text} (result : (stage.ended heap number).result = .ok text)
    (done : after.root.state = .complete) (cached : after.root.cached = some text)
  | failed {stop} (result : (stage.ended heap number).result = .error stop)
    (spent : after.root.state = .failed) (uncached : after.root.cached = none)

namespace Stage

variable {heap : Heap} {number : Nat} {stage : Stage} {snapshot next : Snapshot}

/-- A snapshot that is known between calls is known after the next call. -/
theorem Turns.lasting (turns : stage.Turns heap number snapshot next)
    (lasting : snapshot.Lasting) : next.Lasting := by
  cases turns with
  | rests _ same _ => exact same ▸ lasting
  | complete _ done cached => exact .complete done cached
  | failed _ spent uncached => exact .failed spent uncached

/-- Where everything rests, the snapshot stays. -/
theorem Rests.left {result : Except Stop String} (rests : stage.Rests heap number result)
    (placed : stage.world.snapshots[number]? = some snapshot) :
    (stage.ended heap number).world.snapshots[number]? = some snapshot := by
  rw [Rests] at rests
  rwa [rests]

/-- A root that was decided is the root of the snapshot that the call leaves. -/
theorem turns_of_decided (decided : snapshot.root.Decided number (stage.ended heap number))
    (uncached : snapshot.root.cached = none) :
    ∃ next, (stage.ended heap number).world.snapshots[number]? = some next ∧
      stage.Turns heap number snapshot next := by
  cases ended : stage.ended heap number with
  | mk result world session =>
    rw [ended] at decided
    have answered := congrArg Heap.Ended.result ended
    cases decided with
    | complete kept =>
      obtain ⟨next, left, root⟩ := Option.map_eq_some_iff.mp kept
      refine ⟨next, left, .complete answered (by rw [root]; rfl) ?_⟩
      rw [root, Node.complete, uncached]
      rfl
    | failed kept =>
      obtain ⟨next, left, root⟩ := Option.map_eq_some_iff.mp kept
      exact ⟨next, left, .failed answered (by rw [root]; rfl) (by rw [root]; exact uncached)⟩

/-- A call decides a root that was never tried, if it finds it free; otherwise everything rests. -/
theorem turns (lasting : snapshot.Lasting)
    (placed : stage.world.snapshots[number]? = some snapshot)
    (ready : stage.call.session.IsReady) (heap : Heap) :
    ∃ next, (stage.ended heap number).world.snapshots[number]? = some next ∧
      stage.Turns heap number snapshot next := by
  have resting {result : Except Stop String} (rests : stage.Rests heap number result)
      (kept : ∀ text, result = .ok text → snapshot.root.cached = some text) :
      ∃ next, (stage.ended heap number).world.snapshots[number]? = some next ∧
        stage.Turns heap number snapshot next :=
    ⟨snapshot, rests.left placed, .rests rests rfl kept⟩
  cases lasting with
  | pending untried uncached plain =>
    cases busy : stage.call.session.chain.contains snapshot.root.object.identity with
    | false =>
      exact turns_of_decided (Heap.call_decides placed untried uncached busy ready plain) uncached
    | true =>
      obtain ⟨world, call⟩ := stage
      cases call with
      | render registry session =>
        obtain ⟨report, refused, _⟩ :=
          @Heap.call_refused heap world number snapshot registry session placed untried uncached
            busy
        exact resting refused nofun
      | generate | snapshot => cases busy
  | complete _ cached =>
    refine resting (Heap.call_reused placed cached stage.call) fun text same => ?_
    rw [cached, Except.ok.inj same]
  | failed spent uncached => exact resting (Heap.call_unretried placed uncached spent _) nofun

end Stage

namespace Heap

/-- Calls of one root that follow each other with nothing between them. -/
def history (heap : Heap) (number : Nat) : World → List Call → List Stage
  | _, [] => []
  | world, call :: later =>
    ⟨world, call⟩ :: heap.history number (heap.call world number call).world later

/-- Every list of calls has its history. -/
theorem lived_history {snapshot : Snapshot} (heap : Heap) (number : Nat)
    (lasting : snapshot.Lasting) (calls : List Call) (ready : ∀ call ∈ calls, call.session.IsReady)
    {world : World} (placed : world.snapshots[number]? = some snapshot) :
    Lived heap number snapshot (heap.history number world calls) := by
  induction calls generalizing world snapshot with
  | nil => exact .nil
  | cons call later inductionHypothesis =>
    obtain ⟨next, left, turns⟩ : ∃ next,
        ((Stage.mk world call).ended heap number).world.snapshots[number]? = some next ∧
          (Stage.mk world call).Turns heap number snapshot next :=
      Stage.turns lasting placed (ready call List.mem_cons_self) heap
    exact .call placed left (inductionHypothesis (turns.lasting lasting)
      (fun other member => ready other (List.mem_cons_of_mem _ member)) left)

end Heap

namespace Lived

variable {heap : Heap} {number : Nat} {snapshot : Snapshot} {stages : List Stage}

/-- Once the text of a root is there, every later call gives it and everything rests. -/
theorem reused {text : String} (lived : Lived heap number snapshot stages)
    (cached : snapshot.root.cached = some text) :
    ∀ stage ∈ stages, stage.Rests heap number (.ok text) := by
  induction lived with
  | nil => exact nofun
  | @call snapshot next first later placed left _ inductionHypothesis =>
    have rests : first.Rests heap number (.ok text) := Heap.call_reused placed cached first.call
    obtain rfl : snapshot = next := Option.some.inj ((rests.left placed).symm.trans left)
    intro stage member
    rcases List.mem_cons.mp member with rfl | inLater
    · exact rests
    · exact inductionHypothesis cached stage inLater

/-- Once a root has failed, every later call reports that, and everything rests. -/
theorem unretried (lived : Lived heap number snapshot stages)
    (uncached : snapshot.root.cached = none) (spent : snapshot.root.state = .failed) :
    ∀ stage ∈ stages, stage.Rests heap number (.error (.failed snapshot.root.retryReport)) := by
  induction lived with
  | nil => exact nofun
  | @call snapshot next first later placed left _ inductionHypothesis =>
    have rests : first.Rests heap number (.error (.failed snapshot.root.retryReport)) :=
      Heap.call_unretried placed uncached spent first.call
    obtain rfl : snapshot = next := Option.some.inj ((rests.left placed).symm.trans left)
    intro stage member
    rcases List.mem_cons.mp member with rfl | inLater
    · exact rests
    · exact inductionHypothesis uncached spent stage inLater

/-- Every call of a history finds the snapshot in a lasting state and turns it. -/
theorem turned (lived : Lived heap number snapshot stages) (lasting : snapshot.Lasting)
    (ready : ∀ stage ∈ stages, stage.call.session.IsReady) :
    ∀ stage ∈ stages, ∃ before after, before.Lasting ∧
      stage.world.snapshots[number]? = some before ∧
      (stage.ended heap number).world.snapshots[number]? = some after ∧
      stage.Turns heap number before after := by
  induction lived with
  | nil => exact nofun
  | @call snapshot next first later placed left _ inductionHypothesis =>
    obtain ⟨next, standing, turns⟩ :=
      Stage.turns lasting placed (ready first List.mem_cons_self) heap
    obtain rfl := Option.some.inj (standing.symm.trans left)
    intro stage member
    rcases List.mem_cons.mp member with rfl | inLater
    · exact ⟨snapshot, next, lasting, placed, left, turns⟩
    · exact inductionHypothesis (turns.lasting lasting)
        (fun other inside => ready other (List.mem_cons_of_mem _ inside)) stage inLater

/-- Whatever a call leaves, the later calls go by it. -/
theorem pairwise {relates : Stage → Stage → Prop} (lived : Lived heap number snapshot stages)
    (lasting : snapshot.Lasting) (ready : ∀ stage ∈ stages, stage.call.session.IsReady)
    (related : ∀ {before after stage later}, before.Lasting → after.Lasting →
      stage.Turns heap number before after →
      (stage.ended heap number).world.snapshots[number]? = some after →
      Lived heap number after later → ∀ other ∈ later, relates stage other) :
    stages.Pairwise relates := by
  induction lived with
  | nil => exact .nil
  | @call snapshot next first later placed left lived inductionHypothesis =>
    obtain ⟨next, standing, turns⟩ :=
      Stage.turns lasting placed (ready first List.mem_cons_self) heap
    obtain rfl := Option.some.inj (standing.symm.trans left)
    have settled := turns.lasting lasting
    exact .cons (related lasting settled turns left lived)
      (inductionHypothesis settled fun other inside => ready other (List.mem_cons_of_mem _ inside))

end Lived

namespace Heap

/-- The life of a root over every history of calls, in whatever sessions whose expressions can be
printed at once. After each call the text is there exactly if the root is complete, and a text that
was answered is the one that is there. Once the root is complete, every later call answers that text
and everything rests; once it has failed, every later call reports it and everything rests. A root
that was never tried and is in progress in the session of a caller is refused as a cycle, and
everything rests. So of two calls, one at least invokes nothing. -/
theorem calls_decide_once {value : Value} {target : Target} {canned : Canned}
    {expanded : List Target} {snapshot : Snapshot} {number : Nat} {stages : List Stage}
    (heap : Heap) (planned : Snapshot.plan value target canned expanded = .ok snapshot)
    (plain : canned.IsPlain) (lived : Lived heap number snapshot stages)
    (ready : ∀ stage ∈ stages, stage.call.session.IsReady) :
    (∀ stage ∈ stages, ∃ root, (stage.ended heap number).world.root? number = some root ∧
      (root.cached.isSome ↔ root.state = .complete) ∧
      ∀ text, (stage.ended heap number).result = .ok text → root.cached = some text) ∧
    stages.Pairwise (fun earlier later =>
      ∀ root, (earlier.ended heap number).world.root? number = some root →
        (root.state = .complete →
          ∃ text, root.cached = some text ∧ later.Rests heap number (.ok text)) ∧
        (root.state = .failed →
          later.Rests heap number (.error (.failed root.retryReport)))) ∧
    (∀ stage ∈ stages, ∀ registry session root, stage.call = .render registry session →
      stage.world.root? number = some root → root.state = .pending →
      session.chain.contains root.object.identity →
      ∃ report, stage.Rests heap number (.error (.failed report)) ∧
        report.fault = .cycle session.chain.members) ∧
    stages.Pairwise (fun earlier later =>
      (earlier.ended heap number).world.since earlier.world = [] ∨
        (later.ended heap number).world.since later.world = []) := by
  have lasting := Snapshot.Lasting.of_plan planned plain
  have turned := lived.turned lasting ready
  have silent {stage : Stage} {result : Except Stop String}
      (rests : stage.Rests heap number result) :
      (stage.ended heap number).world.since stage.world = [] := by
    rw [Stage.Rests] at rests
    simp [rests, World.since]
  refine ⟨fun stage member => ?_, lived.pairwise lasting ready ?_, ?_,
    lived.pairwise lasting ready ?_⟩
  · obtain ⟨before, after, known, _, left, turns⟩ := turned stage member
    refine ⟨after.root, congrArg (Option.map Snapshot.root) left,
      (turns.lasting known).cached_iff, fun text answered => ?_⟩
    cases turns with
    | rests rests same kept =>
      rw [Stage.Rests] at rests
      rw [rests] at answered
      exact same ▸ kept text answered
    | complete result _ cached =>
      rw [cached, Except.ok.inj (result.symm.trans answered)]
    | failed result _ _ => cases result.symm.trans answered
  · intro before after stage later _ settled _ left lived other member root standing
    obtain rfl : after.root = root :=
      Option.some.inj ((congrArg (Option.map Snapshot.root) left).symm.trans standing)
    constructor
    · intro complete
      obtain ⟨text, cached⟩ := Option.isSome_iff_exists.mp (settled.cached_iff.mpr complete)
      exact ⟨text, cached, lived.reused cached other member⟩
    · intro failed
      exact lived.unretried (settled.uncached_of_failed failed) failed other member
  · intro stage member registry session root called standing pending busy
    obtain ⟨before, _, known, placed, _⟩ := turned stage member
    obtain rfl : before.root = root :=
      Option.some.inj ((congrArg (Option.map Snapshot.root) placed).symm.trans standing)
    obtain ⟨world, call⟩ := stage
    cases called
    exact call_refused placed pending (known.uncached_of_pending pending) busy
  · intro before after stage later _ _ turns _ lived other member
    cases turns with
    | rests rests _ _ => exact .inl (silent rests)
    | complete _ _ cached => exact .inr (silent (lived.reused cached other member))
    | failed _ spent uncached => exact .inr (silent (lived.unretried uncached spent other member))

end Heap

/-! ### A root that is refused before it is decided -/

namespace Twins

/-- A session in which the holder is in progress. -/
def occupied : Session :=
  { Session.empty with chain := ⟨[⟨holderObject.identity, "busy"⟩]⟩ }

/-- A layout with four spaces for each level. -/
def wide : Registry :=
  .withOptions ⟨4⟩

/-- The holder is rendered while it is in progress, then for the first time, and then again in
another layout and where it would be refused. -/
def calls : List Call :=
  [.render .root occupied, .snapshot .root, .generate wide, .render wide occupied]

theorem calls_ready : ∀ call ∈ calls, call.session.IsReady := by
  intro call member
  have sessions : call.session = .empty ∨ call.session = occupied := by
    simp only [calls, List.mem_cons, List.not_mem_nil, or_false] at member
    rcases member with rfl | rfl | rfl | rfl <;> simp [Call.session]
  rcases sessions with same | same <;> rw [same] <;> exact fun _ _ found => nomatch found

theorem lived : Lived heap 0 snapshot (heap.history 0 world calls) :=
  heap.lived_history 0 (.of_plan planned Canned.empty_isPlain) calls calls_ready rfl

theorem calls_decide_once_leaf :
    ∃ first second third fourth, heap.history 0 world calls = [first, second, third, fourth] ∧
      (∃ report, first.Rests heap 0 (.error (.failed report)) ∧
        report.fault = .cycle occupied.chain.members) ∧
      ∃ text, (second.ended heap 0).result = .ok text ∧ third.Rests heap 0 (.ok text) ∧
        fourth.Rests heap 0 (.ok text) := by
  obtain ⟨text, rendered⟩ := rendered
  have ready : ∀ stage ∈ heap.history 0 world calls, stage.call.session.IsReady := by
    intro stage member
    refine calls_ready stage.call ?_
    simp only [calls, Heap.history, List.mem_cons, List.not_mem_nil, or_false] at member ⊢
    rcases member with rfl | rfl | rfl | rfl <;> simp
  obtain ⟨kept, rests, refused, _⟩ :=
    Heap.calls_decide_once heap planned Canned.empty_isPlain lived ready
  obtain ⟨report, resting, cycle⟩ := refused ⟨world, .render .root occupied⟩ List.mem_cons_self
    .root occupied snapshot.root rfl rfl rfl (by decide)
  refine ⟨_, _, _, _, rfl, ⟨report, resting, cycle⟩, text, ?_⟩
  -- The world in which the holder is rendered first is still the one it was refused in.
  have unchanged : (heap.call world 0 (.render .root occupied)).world = world :=
    congrArg Heap.Ended.world resting
  have answered : (Stage.ended ⟨(heap.call world 0 (.render .root occupied)).world,
      .snapshot .root⟩ heap 0).result = .ok text := by
    rw [unchanged]
    exact rendered
  obtain ⟨root, standing, complete, cached⟩ := kept _ (List.mem_cons_of_mem _ List.mem_cons_self)
  have done := complete.mp (Option.isSome_iff_exists.mpr ⟨text, cached text answered⟩)
  have later := (List.pairwise_cons.mp (List.pairwise_cons.mp rests).2).1
  have again {stage : Stage} (answers : ∃ found, root.cached = some found ∧
      stage.Rests heap 0 (.ok found)) : stage.Rests heap 0 (.ok text) := by
    obtain ⟨found, same, rests⟩ := answers
    rw [cached text answered] at same
    exact Option.some.inj same ▸ rests
  exact ⟨answered, again ((later _ List.mem_cons_self root standing).1 done),
    again ((later _ (List.mem_cons_of_mem _ List.mem_cons_self) root standing).1 done)⟩

end Twins

end FrozenGraph
