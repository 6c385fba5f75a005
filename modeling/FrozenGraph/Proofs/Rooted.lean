/-
This file shows what the first rendering of a snapshot is: a walk through the accessors of its root
that starts in a session of its own. That session knows the canned representations, and the root is
on its chain.
-/

import FrozenGraph.Freeze.Snapshot
import FrozenGraph.Proofs.Traced

namespace FrozenGraph

/-! ### The session of a snapshot -/

/-- Whether no canned representation has a statement in it. -/
def Canned.IsPlain (canned : Canned) : Prop :=
  ∀ entry ∈ canned.entries, entry.2.2.statements = []

theorem Canned.empty_isPlain : Canned.empty.IsPlain :=
  fun _ member => nomatch member

namespace Session

/-- One canned representation more in a session. -/
def equip (session : Session) (entry : Identity × Value × Code) : Session :=
  { session.record entry.1 entry.2.2 with retained := entry.2.1 :: session.retained }

theorem opening_eq (canned : Canned) : opening canned = canned.entries.foldl equip empty := rfl

theorem chain_foldl_equip (entries : List (Identity × Value × Code)) (session : Session) :
    (entries.foldl equip session).chain = session.chain := by
  induction entries generalizing session with
  | nil => rfl
  | cons entry rest inductionHypothesis => exact inductionHypothesis (session.equip entry)

theorem find?_foldl_equip (entries : List (Identity × Value × Code)) (session : Session)
    (identity : Identity) :
    (entries.foldl equip session).memo.find? identity =
      (session.memo.find? identity).or ((Canned.mk entries).find? identity) := by
  induction entries generalizing session with
  | nil => rw [List.foldl_nil, Canned.find?, List.lookup_nil, Option.map_none, Option.or_none]
  | cons entry rest inductionHypothesis =>
    rw [List.foldl_cons, inductionHypothesis]
    show ((session.memo.record entry.1 entry.2.2).find? identity).or _ = _
    rw [Memo.find?_record, Option.or_assoc, Canned.find?, Canned.find?, List.lookup_cons]
    by_cases same : identity = entry.1
    · rw [if_pos same, beq_iff_eq.mpr same]
      rfl
    · rw [if_neg same, beq_eq_false_iff_ne.mpr same]
      rfl

/-- A session that opens knows exactly the canned representations. -/
theorem opening_find? (canned : Canned) (identity : Identity) :
    (opening canned).memo.find? identity = canned.find? identity := by
  rw [opening_eq, find?_foldl_equip]
  rfl

theorem opening_chain (canned : Canned) : (opening canned).chain = .empty := by
  rw [opening_eq, chain_foldl_equip]
  rfl

/-- Nothing is in progress in a session that opens. -/
theorem opening_free (canned : Canned) (identity : Identity) :
    (opening canned).chain.contains identity = false := by
  rw [opening_chain]
  rfl

theorem opening_isReady {canned : Canned} (plain : canned.IsPlain) :
    (opening canned).IsReady := by
  intro identity code known statement member
  rw [opening_find?, Canned.find?, Option.map_eq_some_iff] at known
  obtain ⟨⟨key, other⟩, found, rfl⟩ := known
  obtain ⟨earlier, later, entries, _⟩ := List.lookup_eq_some_iff.mp found
  have listed : (identity, key, other) ∈ canned.entries := by
    rw [entries]
    exact List.mem_append_right _ List.mem_cons_self
  rw [plain _ listed] at member
  cases member

end Session

/-! ### What came since an earlier world -/

theorem World.since_of_history {earlier later : World} {invocations : List Invocation}
    (grown : later.history = invocations.reverse ++ earlier.history) :
    later.since earlier = invocations := by
  rw [since, grown, List.length_append, Nat.add_sub_cancel, List.take_left, List.reverse_reverse]

theorem World.renderingsSince_of_renderings {earlier later : World} {renderings : List Rendering}
    (grown : later.renderings = renderings.reverse ++ earlier.renderings) :
    later.renderingsSince earlier = renderings := by
  rw [renderingsSince, grown, List.length_append, Nat.add_sub_cancel, List.take_left,
    List.reverse_reverse]

/-! ### The rendering of a root -/

/-- The world once the root of a snapshot is changed. -/
def World.onRoot (world : World) (number : Nat) (change : Node → Node) : World :=
  { world with snapshots := world.snapshots.modify number fun snapshot =>
      { snapshot with root := change snapshot.root } }

/-- A changed root stands at its number. -/
theorem World.root?_onRoot {world : World} {number : Nat} {root : Node} (change : Node → Node)
    (found : world.root? number = some root) :
    (world.onRoot number change).root? number = some (change root) := by
  obtain ⟨snapshot, placed, rfl⟩ := Option.map_eq_some_iff.mp found
  rw [root?, onRoot, List.getElem?_modify, placed]
  simp

section Rendering

variable {attempt : Attempt} {number : Nat} {registry : Registry} {snapshot : Snapshot} {run : Run}

/-- The state once a root is on the chain and started. -/
def Run.begin (run : Run) (number : Nat) (root : Node) : Run :=
  { run.enter root.object root.target with
    world := (run.enter root.object root.target).world.onRoot number Node.start }

theorem Run.root?_begin {root : Node} (placed : run.world.root? number = some root) :
    (run.begin number root).world.root? number = some root.start :=
  World.root?_onRoot Node.start placed

/-- A root that has neither a text nor failed is put on the chain if it is not there. -/
theorem renderRoot_begins (placed : run.world.snapshots[number]? = some snapshot)
    (unfailed : snapshot.root.state ≠ .failed) (uncached : snapshot.root.cached = none)
    (free : run.session.chain.contains snapshot.root.object.identity = false) :
    renderRoot attempt number registry run =
      (do
        let text ← tryCatch (attempt (.ofSnapshot number) snapshot.root registry) fun stop => do
          Walk.onRoot number Node.fail
          throw stop
        Walk.onRoot number (·.complete text)
        pure ((((← get).world.snapshots[number]?).bind (·.root.cached)).getD text) : Walk String)
        (run.begin number snapshot.root) := by
  have entered := snapshot.root.enter_run run
  rw [if_neg (by simp [free])] at entered
  have started : Walk.onRoot number Node.start
      (run.enter snapshot.root.object snapshot.root.target) =
      .ok () (run.begin number snapshot.root) := rfl
  rw [renderRoot, Walk.bind_get, placed]
  cases state : snapshot.root.state with
  | failed => exact absurd state unfailed
  | pending | inProgress | complete =>
    simp only [uncached, state]
    rw [Walk.bind_ok entered, Walk.bind_ok started]

/-- A text that was found is kept, if the root was started and has none. -/
theorem renderRoot_completes {text : String} {after : Run}
    (placed : run.world.snapshots[number]? = some snapshot)
    (pending : snapshot.root.state = .pending) (uncached : snapshot.root.cached = none)
    (free : run.session.chain.contains snapshot.root.object.identity = false)
    (ended : attempt (.ofSnapshot number) snapshot.root registry (run.begin number snapshot.root) =
      .ok text after)
    (found : after.world.root? number = some snapshot.root.start) :
    renderRoot attempt number registry run =
      .ok text { after with world := after.world.onRoot number (·.complete text) } := by
  have unfailed : snapshot.root.state ≠ .failed := by rw [pending]; exact nofun
  rw [renderRoot_begins placed unfailed uncached free, Walk.bind_ok (Walk.tryCatch_ok ended)]
  -- The text that is cached now is the one that was just found.
  have completed := World.root?_onRoot (·.complete text) found
  obtain ⟨finished, standing, root⟩ := Option.map_eq_some_iff.mp completed
  show EStateM.Result.ok (((after.world.onRoot number (·.complete text)).snapshots[number]?.bind
    (·.root.cached)).getD text) _ = _
  rw [standing, Option.bind_some, root, Node.complete, Node.start, uncached]
  rfl

theorem renderRoot_fails {stop : Stop} {after : Run}
    (placed : run.world.snapshots[number]? = some snapshot)
    (pending : snapshot.root.state = .pending) (uncached : snapshot.root.cached = none)
    (free : run.session.chain.contains snapshot.root.object.identity = false)
    (ended : attempt (.ofSnapshot number) snapshot.root registry (run.begin number snapshot.root) =
      .error stop after) :
    renderRoot attempt number registry run =
      .error stop { after with world := after.world.onRoot number Node.fail } := by
  have unfailed : snapshot.root.state ≠ .failed := by rw [pending]; exact nofun
  rw [renderRoot_begins placed unfailed uncached free]
  refine Walk.bind_error ?_
  rw [Walk.tryCatch_error ended]
  rfl

/-- A rendering that begins and stops stops as the root does. -/
theorem renderRoot_stops {stop : Stop} {after : Run}
    (placed : run.world.snapshots[number]? = some snapshot)
    (unfailed : snapshot.root.state ≠ .failed) (uncached : snapshot.root.cached = none)
    (free : run.session.chain.contains snapshot.root.object.identity = false)
    (stopped : renderRoot attempt number registry run = .error stop after) :
    ∃ between, attempt (.ofSnapshot number) snapshot.root registry
      (run.begin number snapshot.root) = .error stop between := by
  rw [renderRoot_begins placed unfailed uncached free] at stopped
  cases ended : attempt (.ofSnapshot number) snapshot.root registry
      (run.begin number snapshot.root) with
  | ok text between =>
    rw [Walk.bind_ok (Walk.tryCatch_ok ended)] at stopped
    cases stopped
  | error reason between =>
    have handled : (tryCatch (attempt (.ofSnapshot number) snapshot.root registry) fun stop => do
        Walk.onRoot number Node.fail
        throw stop : Walk String) (run.begin number snapshot.root) =
        .error reason { between with world := between.world.onRoot number Node.fail } := by
      rw [Walk.tryCatch_error ended]
      rfl
    rw [Walk.bind_error handled] at stopped
    cases stopped
    exact ⟨between, rfl⟩

end Rendering

/-! ### The first rendering of a snapshot -/

/-- The state in which the accessors of a root begin to be invoked. -/
def World.begun (world : World) (number : Nat) (snapshot : Snapshot) : Run where
  world := { world with
      renderings := ⟨snapshot.root.object.identity, snapshot.root.target⟩ :: world.renderings
    }.onRoot number Node.start
  session := { Session.opening snapshot.canned with
      chain := ⟨[⟨snapshot.root.object.identity, snapshot.root.object.describe⟩]⟩ }

theorem World.begun_eq (world : World) (number : Nat) (snapshot : Snapshot) :
    world.begun number snapshot =
      Run.begin ⟨world, .opening snapshot.canned⟩ number snapshot.root := by
  simp only [begun, Run.begin, Run.enter, Session.opening_chain]
  rfl

/-- The root is on the chain while its accessors are invoked. -/
theorem World.begun_contains {world : World} {number : Nat} {snapshot : Snapshot}
    {object : Identity} (root : some snapshot.root.object.identity = some object) :
    (world.begun number snapshot).session.chain.contains object := by
  simp [World.begun, Chain.contains, Option.some.inj root]

/-- A rendering ends as the walk through the accessors of its root did. -/
inductive RootWalk (heap : Heap) (world : World) (number : Nat) (snapshot : Snapshot)
    (registry : Registry) : Except Stop String → List Event → Prop
  | ok {text overrides events after}
    (printed : text = snapshot.root.classText registry overrides)
    (walked : Walked heap (.methods snapshot.root registry (.ofSnapshot number)
      snapshot.root.accessors overrides) (world.begun number snapshot) events after) :
    RootWalk heap world number snapshot registry (.ok text) events
  | error {stop reason events after} (noted : reason = stop.annotate snapshot.root.noteOn)
    (stopped : Stopped heap (.methods snapshot.root registry (.ofSnapshot number)
      snapshot.root.accessors) (world.begun number snapshot) events stop after) :
    RootWalk heap world number snapshot registry (.error reason) events
  | outOfFuel : RootWalk heap world number snapshot registry (.error .outOfFuel) []

/-- What a snapshot is that was planned. -/
theorem Snapshot.built_of_plan {value : Value} {target : Target} {canned : Canned}
    {expanded : List Target} {snapshot : Snapshot}
    (planned : Snapshot.plan value target canned expanded = .ok snapshot) :
    ∃ live, value = .object live ∧
      Node.build live target (.ofList expanded) = .ok snapshot.root ∧ snapshot.canned = canned := by
  cases value with
  | scalar scalar => cases planned
  | list identity items => cases planned
  | object live =>
    cases built : Node.build live target (.ofList expanded) with
    | error report =>
      simp only [plan, built, bind, Except.bind] at planned
      cases planned
    | ok root =>
      simp only [plan, built, bind, Except.bind] at planned
      cases planned
      exact ⟨live, rfl, built, rfl⟩

section FirstRendering

variable {heap : Heap} {attempt : Attempt} {world : World} {number : Nat} {snapshot : Snapshot}
  {registry : Registry}

/-- A root that was never tried is put on the chain, which is empty before. -/
theorem renderRoot_run (placed : world.snapshots[number]? = some snapshot)
    (pending : snapshot.root.state = .pending) (uncached : snapshot.root.cached = none) :
    renderRoot attempt number registry ⟨world, .opening snapshot.canned⟩ =
      (do
        let text ← tryCatch (attempt (.ofSnapshot number) snapshot.root registry) fun stop => do
          Walk.onRoot number Node.fail
          throw stop
        Walk.onRoot number (·.complete text)
        pure ((((← get).world.snapshots[number]?).bind (·.root.cached)).getD text) : Walk String)
        (world.begun number snapshot) := by
  have unfailed : snapshot.root.state ≠ .failed := by rw [pending]; exact nofun
  rw [renderRoot_begins placed unfailed uncached (Session.opening_free snapshot.canned _),
    world.begun_eq]

theorem renderRoot_ok {text : String} {after : Run}
    (placed : world.snapshots[number]? = some snapshot)
    (pending : snapshot.root.state = .pending) (uncached : snapshot.root.cached = none)
    (ended : attempt (.ofSnapshot number) snapshot.root registry (world.begun number snapshot) =
      .ok text after)
    (found : after.world.root? number = some snapshot.root.start) :
    renderRoot attempt number registry ⟨world, .opening snapshot.canned⟩ =
      .ok text { after with world := after.world.onRoot number (·.complete text) } :=
  renderRoot_completes placed pending uncached (Session.opening_free snapshot.canned _)
    (world.begun_eq number snapshot ▸ ended) found

theorem renderRoot_error {stop : Stop} {after : Run}
    (placed : world.snapshots[number]? = some snapshot)
    (pending : snapshot.root.state = .pending) (uncached : snapshot.root.cached = none)
    (ended : attempt (.ofSnapshot number) snapshot.root registry (world.begun number snapshot) =
      .error stop after) :
    renderRoot attempt number registry ⟨world, .opening snapshot.canned⟩ =
      .error stop { after with world := after.world.onRoot number Node.fail } :=
  renderRoot_fails placed pending uncached (Session.opening_free snapshot.canned _)
    (world.begun_eq number snapshot ▸ ended)

end FirstRendering

namespace Heap

variable {heap : Heap} {world : World} {number : Nat} {snapshot : Snapshot} {registry : Registry}

/-- How a rendering begins that the session of a snapshot is opened for. -/
theorem snapshotText_run {attempt : Attempt} (placed : world.snapshots[number]? = some snapshot)
    (uncached : snapshot.root.cached = none) :
    snapshotText attempt number registry ⟨world, .empty⟩ =
      Walk.inSession (.opening snapshot.canned) (renderRoot attempt number registry)
        ⟨world, .empty⟩ := by
  rw [snapshotText, Walk.bind_get, placed]
  simp only [uncached]

/-- A rendering ends as the root does in the session of the snapshot. -/
theorem render_of_ok {text : String} {after : Run}
    (placed : world.snapshots[number]? = some snapshot) (uncached : snapshot.root.cached = none)
    (ended : renderRoot (heap.attempt world) number registry
      ⟨world, .opening snapshot.canned⟩ = .ok text after) :
    heap.render world number registry = ⟨.ok text, after.world, .empty⟩ := by
  rw [render, perform, snapshotText_run placed uncached, Walk.inSession, ended]

theorem render_of_error {stop : Stop} {after : Run}
    (placed : world.snapshots[number]? = some snapshot) (uncached : snapshot.root.cached = none)
    (ended : renderRoot (heap.attempt world) number registry
      ⟨world, .opening snapshot.canned⟩ = .error stop after) :
    heap.render world number registry = ⟨.error stop, after.world, .empty⟩ := by
  rw [render, perform, snapshotText_run placed uncached, Walk.inSession, ended]

/-- The first rendering of a snapshot is a walk through the accessors of its root, and its events
are all that comes to be known of it. -/
theorem render_rootWalk {value : Value} {target : Target} {canned : Canned}
    {expanded : List Target} (heap : Heap) (registry : Registry)
    (planned : Snapshot.plan value target canned expanded = .ok snapshot)
    (plain : canned.IsPlain) (placed : world.snapshots[number]? = some snapshot) :
    ∃ events,
      RootWalk heap world number snapshot registry (heap.render world number registry).result
        events ∧
      (heap.render world number registry).world.since world = Event.invocations events ∧
      (heap.render world number registry).world.renderingsSince world =
        ⟨snapshot.root.object.identity, snapshot.root.target⟩ :: Event.renderings events := by
  obtain ⟨live, rfl, built, rfl⟩ := Snapshot.built_of_plan planned
  obtain ⟨_, _, _, pending, uncached, _, _⟩ := Node.built_of_build built
  have followed : Attempted heap (.ofSnapshot number) snapshot.root registry
      (world.begun number snapshot)
      (heap.attempt world (.ofSnapshot number) snapshot.root registry) :=
    Node.attempt_follows _ _ _ _ _ _ ((Session.opening_isReady plain).of_memo_eq rfl)
  cases followed with
  | @ok overrides events after ended walked =>
    obtain ⟨history, renderings, roots⟩ := walked.growsBy
    have found : after.world.root? number = some snapshot.root.start := by
      rw [roots]
      exact World.root?_onRoot _ (congrArg (Option.map Snapshot.root) placed)
    rw [render_of_ok placed uncached (renderRoot_ok placed pending uncached ended found)]
    refine ⟨events, .ok rfl walked, World.since_of_history history,
      World.renderingsSince_of_renderings ?_⟩
    rw [List.reverse_cons, List.append_assoc]
    exact renderings
  | @error stop events after ended stopped =>
    obtain ⟨history, renderings, _⟩ := stopped.growsBy
    rw [render_of_error placed uncached (renderRoot_error placed pending uncached ended)]
    refine ⟨events, .error rfl stopped, World.since_of_history history,
      World.renderingsSince_of_renderings ?_⟩
    rw [List.reverse_cons, List.append_assoc]
    exact renderings
  | outOfFuel ended =>
    rw [render_of_error placed uncached (renderRoot_error placed pending uncached ended)]
    exact ⟨[], .outOfFuel, World.since_of_history rfl, World.renderingsSince_of_renderings rfl⟩

end Heap

end FrozenGraph
