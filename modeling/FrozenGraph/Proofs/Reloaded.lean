/-
This file shows that an object which is written as a literal is written as a snapshot of the target
that it is registered for. The two come to its accessors in states that know and count the same;
only the place differs in which the origins of its answers are kept, with the walk or with the
snapshot. A walk that ends with an answer does not look at that place. One that fails does, since
its report blames an origin, and so both places are followed: the same answers are noted in them,
and whatever is walked through in between notes its answers elsewhere. The layout that the literal
gets once more changes nothing.
-/

import FrozenGraph.Proofs.Exchanged
import FrozenGraph.Proofs.Frozen

namespace FrozenGraph

/-! ### The places of origins -/

/-- The place in which a part notes the origins of its answers; only methods are given one. -/
def Part.ledger : Part → Ledger
  | .methods _ _ ledger _ _ => ledger
  | .value .. | .items .. | .object .. | .answer .. => .empty

/-- The place in which a task notes the origins of its answers. -/
def Task.ledger : Task → Ledger
  | .methods _ _ ledger _ => ledger
  | .value .. | .items .. | .object .. | .answer .. => .empty

/-- The types that are expanded in a task. -/
def Task.expansions : Task → Expansions
  | .value _ expansions _ _ | .items _ expansions _ | .object _ expansions _ _ => expansions
  | .answer node _ _ _ | .methods node _ _ _ => node.expansions

namespace Ledger

/-- Whether origins are kept with the walk, and with no snapshot. -/
def IsOwn : Ledger → Prop
  | .own _ => True
  | .ofSnapshot _ => False

/-- Whether a place exists: a snapshot with its number does. -/
def IsPlaced (ledger : Ledger) (world : World) : Prop :=
  match ledger with
  | .own _ => True
  | .ofSnapshot number => number < world.snapshots.length

variable {ledger ledger' : Ledger} {method : Method} {value : Value} {run noted : Run}

/-- Origins that are kept with the walk touch no snapshot. -/
theorem IsOwn.snapshots_eq (own : ledger.IsOwn)
    (recorded : ledger.record method value run = .ok ledger' noted) :
    ledger'.IsOwn ∧ noted.world.snapshots = run.world.snapshots := by
  cases ledger with
  | own origins =>
    cases recorded
    exact ⟨trivial, rfl⟩
  | ofSnapshot number => cases own

/-- Only the snapshots decide what a ledger holds. -/
theorem origins_congr {after : Run} (same : after.world.snapshots = run.world.snapshots)
    (ledger : Ledger) : ledger.origins after = ledger.origins run := by
  cases ledger with
  | own origins => rfl
  | ofSnapshot number => rw [origins, origins, same]

theorem IsPlaced.congr {after : Run} (placed : ledger.IsPlaced run.world)
    (same : after.world.snapshots = run.world.snapshots) : ledger.IsPlaced after.world := by
  cases ledger with
  | own origins => trivial
  | ofSnapshot number =>
    show number < after.world.snapshots.length
    rwa [same]

/-- Where there is a place, it holds a new origin afterwards. -/
theorem origins_of_record (placed : ledger.IsPlaced run.world)
    (recorded : ledger.record method value run = .ok ledger' noted) :
    ledger'.origins noted = (ledger.origins run).recordValue method value ∧
      ledger'.IsPlaced noted.world := by
  cases ledger with
  | own origins =>
    cases recorded
    exact ⟨rfl, trivial⟩
  | ofSnapshot number =>
    cases recorded
    obtain ⟨snapshot, here⟩ : ∃ snapshot, run.world.snapshots[number]? = some snapshot :=
      ⟨_, List.getElem?_eq_getElem placed⟩
    constructor
    · rw [origins, origins, List.getElem?_modify, here]
      simp
    · show number < (run.world.snapshots.modify number _).length
      rwa [List.length_modify]

/-- Two ledgers hold the same origins in two states, and both have a place there. -/
structure Agrees (ledger : Ledger) (run : Run) (ledger' : Ledger) (run' : Run) : Prop where
  same : ledger'.origins run' = ledger.origins run
  placed : ledger.IsPlaced run.world
  placed' : ledger'.IsPlaced run'.world

namespace Agrees

variable {other other' : Ledger} {run' noted' after after' : Run}

/-- While nothing happens to the snapshots, the two stay alike. -/
theorem of_snapshots (agrees : ledger.Agrees run other run')
    (kept : after.world.snapshots = run.world.snapshots)
    (kept' : after'.world.snapshots = run'.world.snapshots) : ledger.Agrees after other after' where
  same := by rw [origins_congr kept, origins_congr kept', agrees.same]
  placed := agrees.placed.congr kept
  placed' := agrees.placed'.congr kept'

theorem note (agrees : ledger.Agrees run other run') (invocation : Invocation)
    (allocated : Nat) :
    ledger.Agrees (run.note invocation allocated) other (run'.note invocation allocated) :=
  agrees.of_snapshots rfl rfl

/-- The same answer is noted in both. -/
theorem record {invocation : Invocation} {allocated : Nat} (agrees : ledger.Agrees run other run')
    (recorded : ledger.record method value ((run.note invocation allocated).retain value) =
      .ok ledger' noted)
    (recorded' : other.record method value ((run'.note invocation allocated).retain value) =
      .ok other' noted') : ledger'.Agrees noted other' noted' := by
  have answered : ledger.Agrees ((run.note invocation allocated).retain value) other
      ((run'.note invocation allocated).retain value) := agrees.of_snapshots rfl rfl
  obtain ⟨held, placed⟩ := origins_of_record answered.placed recorded
  obtain ⟨held', placed'⟩ := origins_of_record answered.placed' recorded'
  exact ⟨by rw [held, held', answered.same], placed, placed'⟩

/-- Both are told alike in a report. -/
theorem noteAccessor_eq (agrees : ledger.Agrees run other run') (method : Method) :
    Node.noteAccessor other method run' = Node.noteAccessor ledger method run := by
  funext report
  rw [Node.noteAccessor, Node.noteAccessor, agrees.same]

end Agrees

end Ledger

/-! ### Walks that touch no snapshot -/

/-- A part that keeps its origins with the walk touches no snapshot. -/
theorem Walked.snapshots_eq {heap : Heap} {part : Part} {before after : Run} {events : List Event}
    (walked : Walked heap part before events after) (own : part.ledger.IsOwn) :
    after.world.snapshots = before.world.snapshots := by
  induction walked with
  | scalar | known | noItem | reused | null | noMethod => rfl
  | recalled => rw [Run.recordFor_world]
  | list _ _ inductionHypothesis => exact inductionHypothesis trivial
  | literalObject _ _ _ inductionHypothesis => exact inductionHypothesis trivial
  | item _ _ head tail => exact (tail trivial).trans (head trivial)
  | rendered _ _ _ _ inductionHypothesis => exact inductionHypothesis trivial
  | literal _ _ inductionHypothesis =>
    rw [Run.recordFor_world]
    exact inductionHypothesis trivial
  | expanded _ _ inductionHypothesis => exact inductionHypothesis trivial
  | skipped _ _ inductionHypothesis => exact inductionHypothesis own
  | method _ _ recorded _ _ expressed later =>
    obtain ⟨own', kept⟩ := Ledger.IsOwn.snapshots_eq own recorded
    exact (later own').trans ((expressed trivial).trans kept)

theorem Stopped.snapshots_eq {heap : Heap} {task : Task} {before after : Run}
    {events : List Event} {stop : Stop} (stopped : Stopped heap task before events stop after)
    (own : task.ledger.IsOwn) : after.world.snapshots = before.world.snapshots := by
  induction stopped with
  | untargeted | unbuilt | reentered | unrouted | shapeless | exhausted | unanswered => rfl
  | list _ _ inductionHypothesis => exact inductionHypothesis trivial
  | literalObject _ _ _ inductionHypothesis => exact inductionHypothesis trivial
  | item _ inductionHypothesis => exact inductionHypothesis trivial
  | laterItem head _ inductionHypothesis =>
    exact (inductionHypothesis trivial).trans (head.snapshots_eq trivial)
  | unrendered _ _ _ _ inductionHypothesis => exact inductionHypothesis trivial
  | literal _ _ inductionHypothesis => exact inductionHypothesis trivial
  | expanded _ _ inductionHypothesis => exact inductionHypothesis trivial
  | skipped _ _ inductionHypothesis => exact inductionHypothesis own
  | unexpressed _ _ recorded _ inductionHypothesis =>
    exact (inductionHypothesis trivial).trans (Ledger.IsOwn.snapshots_eq own recorded).2
  | laterMethod _ _ recorded expressed _ inductionHypothesis =>
    obtain ⟨own', kept⟩ := Ledger.IsOwn.snapshots_eq own recorded
    exact (inductionHypothesis own').trans ((expressed.snapshots_eq trivial).trans kept)

/-! ### Failures in another state -/

namespace Run.Retyped

variable {expansions : Expansions} {first second : Run}

/-- An answer that cannot be written in one state cannot be written in the other, for the same
reason. -/
theorem refused (same : first.Retyped expansions second) {registry : Registry}
    {expanded : Expansions} {declared : DeclaredType} {value : Value} {report : Report}
    (refused : Route.choose registry expanded first.session declared value = .error report) :
    Route.choose registry expanded second.session declared value = .error report := by
  cases known : Route.known? first.session value with
  | some code =>
    rw [Route.choose, known] at refused
    split at refused <;> cases refused
  | none =>
    rw [Route.choose, known] at refused
    rw [Route.choose, same.known?_none known, same.chain]
    exact refused

theorem literal (same : first.Retyped expansions second) {registry : Registry}
    {expanded : Expansions} {declared : DeclaredType} {value : Value}
    (routed : Route.choose registry expanded first.session declared value = .ok .literal) :
    Route.choose registry expanded second.session declared value = .ok .literal := by
  obtain ⟨present, unknown, literal⟩ := Route.choose_eq_literal_iff.mp routed
  exact Route.choose_eq_literal_iff.mpr ⟨present, same.known?_none unknown, literal⟩

theorem expand (same : first.Retyped expansions second) {registry : Registry}
    {expanded : Expansions} {declared : DeclaredType} {value : Value} {target : Target}
    (routed : Route.choose registry expanded first.session declared value =
      .ok (.expand target)) :
    Route.choose registry expanded second.session declared value = .ok (.expand target) := by
  obtain ⟨present, unknown, unliteral, registered, free⟩ := Route.choose_eq_expand_iff.mp routed
  exact Route.choose_eq_expand_iff.mpr
    ⟨present, same.known?_none unknown, unliteral, registered, same.chain ▸ free⟩

end Run.Retyped

/-- The same task with another place for the origins of its answers. -/
def Task.rebooked (ledger : Ledger) : Task → Task
  | .methods node registry _ accessors => .methods node registry ledger accessors
  | .value registry expansions declared content => .value registry expansions declared content
  | .items registry expansions contents => .items registry expansions contents
  | .object registry expansions live target => .object registry expansions live target
  | .answer node registry declared content => .answer node registry declared content

/-- Whether a task that is given a place for its origins finds the same in another one. -/
def Task.Agrees (before : Run) (ledger' : Ledger) (before' : Run) : Task → Prop
  | .methods _ _ ledger _ => ledger.Agrees before ledger' before'
  | .value .. | .items .. | .object .. | .answer .. => True

/-- A part that fails in one state fails in every state that knows and counts the same, for the same
reason and through the same events, if it finds the same origins. -/
theorem Stopped.rebooked {heap : Heap} {task : Task} {before before' after : Run}
    {events : List Event} {stop : Stop} (stopped : Stopped heap task before events stop after)
    (ledger' : Ledger) (same : before.Retyped task.expansions before')
    (agrees : task.Agrees before ledger' before') :
    ∃ after', Stopped heap (task.rebooked ledger') before' events stop after' := by
  induction stopped generalizing ledger' before' with
  | list unknown _ inductionHypothesis =>
    obtain ⟨after', failed⟩ := inductionHypothesis ledger' same trivial
    exact ⟨after', .list (same.find?_none unknown) failed⟩
  | untargeted unknown unfit => exact ⟨_, .untargeted (same.find?_none unknown) unfit⟩
  | literalObject unknown fits _ inductionHypothesis =>
    obtain ⟨after', failed⟩ := inductionHypothesis ledger' same trivial
    exact ⟨after', .literalObject (same.find?_none unknown) fits failed⟩
  | item _ inductionHypothesis =>
    obtain ⟨after', failed⟩ := inductionHypothesis ledger' (same.retain _) trivial
    exact ⟨after', .item failed⟩
  | @laterItem registry expansions _ _ _ _ _ _ _ _ _ head _ inductionHypothesis =>
    obtain ⟨between', walked, middle⟩ := head.exchanged ledger'
      ⟨.refl registry expansions, fun _ _ => rfl⟩ (same.retain _)
    obtain ⟨after', failed⟩ := inductionHypothesis ledger' middle trivial
    exact ⟨after', .laterItem walked failed⟩
  | unbuilt unknown refused => exact ⟨_, .unbuilt (same.find?_none unknown) refused⟩
  | @reentered registry expansions object target node run unknown built busy =>
    have step : Stopped heap (.object registry expansions object target) before' []
        (.failed (node.noteOn before'.session.chain.cycleReport)) before' :=
      .reentered (same.find?_none unknown) built (same.chain ▸ busy)
    rw [same.chain] at step
    exact ⟨_, step⟩
  | exhausted unknown built free =>
    exact ⟨_, .exhausted (same.find?_none unknown) built (same.chain ▸ free)⟩
  | unrendered unknown built free _ inductionHypothesis =>
    obtain ⟨rfl, rfl, rfl, _, _, _, _⟩ := Node.built_of_build built
    obtain ⟨after', failed⟩ :=
      inductionHypothesis .empty (same.enter _ _) ⟨rfl, trivial, trivial⟩
    exact ⟨_, .unrendered (same.find?_none unknown) built (same.chain ▸ free) failed⟩
  | unrouted refused => exact ⟨_, .unrouted (same.refused refused)⟩
  | literal routed _ inductionHypothesis =>
    obtain ⟨after', failed⟩ := inductionHypothesis ledger' same trivial
    exact ⟨after', .literal (same.literal routed) failed⟩
  | expanded routed _ inductionHypothesis =>
    obtain ⟨after', failed⟩ := inductionHypothesis ledger' same trivial
    exact ⟨after', .expanded (same.expand routed) failed⟩
  | shapeless routed shape => exact ⟨_, .shapeless (same.expand routed) shape⟩
  | skipped void _ inductionHypothesis =>
    obtain ⟨after', failed⟩ := inductionHypothesis ledger' same agrees
    exact ⟨after', .skipped void failed⟩
  | @unanswered node registry ledger method rest fault allocated before answers replied =>
    have step : Stopped heap (.methods node registry ledger' (method :: rest)) before' _ _ _ :=
      .unanswered answers ((same.reply_eq _ _ _).trans replied)
    rw [(Ledger.Agrees.note agrees _ _).noteAccessor_eq] at step
    exact ⟨_, step⟩
  | @unexpressed node registry _ _ method rest value allocated before noted _ _ _ answers replied
      recorded failed inductionHypothesis =>
    obtain ⟨kept, noted', recorded'⟩ := Node.record_ok ledger' method value
      ((before'.note ⟨node.object.identity, method.name, .ok value⟩ allocated).retain value)
    obtain ⟨after', failed'⟩ :=
      inductionHypothesis .empty (same.noted recorded recorded') trivial
    have step : Stopped heap (.methods node registry ledger' (method :: rest)) before' _ _ _ :=
      .unexpressed answers ((same.reply_eq heap _ _).trans replied) recorded' failed'
    have booked := Ledger.Agrees.record agrees recorded recorded'
    rw [(booked.of_snapshots (failed.snapshots_eq trivial)
      (failed'.snapshots_eq trivial)).noteAccessor_eq] at step
    exact ⟨_, step⟩
  | @laterMethod node registry _ _ method rest value allocated _ before noted _ _ _ _ _ answers
      replied recorded expressed _ inductionHypothesis =>
    obtain ⟨kept, noted', recorded'⟩ := Node.record_ok ledger' method value
      ((before'.note ⟨node.object.identity, method.name, .ok value⟩ allocated).retain value)
    obtain ⟨between', written, middle⟩ := expressed.exchanged .empty
      (.refl registry node.expansions) (same.noted recorded recorded')
    have booked := Ledger.Agrees.record agrees recorded recorded'
    obtain ⟨after', failed⟩ := inductionHypothesis kept middle
      (booked.of_snapshots (expressed.snapshots_eq trivial) (written.snapshots_eq trivial))
    exact ⟨after', .laterMethod answers ((same.reply_eq _ _ _).trans replied) recorded' written
      failed⟩

/-! ### Objects that are written as literals -/

/-- What is laid out neither begins nor ends with white space, so a second layout changes
nothing. -/
theorem Node.format_classText (node : Node) (registry : Registry)
    (overrides : List (Override Deferred)) :
    Layout.format registry.options (node.classText registry overrides) =
      node.classText registry overrides :=
  Layout.format_eq_of_alike _ (Layout.alikeText_format _ _ (Story.solid_anonymous _ _))

/-- The accessors of an object that is written as a literal begin to be invoked in the state of a
root, as far as anything is known or counted. -/
theorem World.opened_of_literal (world : World) (node : Node) :
    ((Run.retain ⟨world, .empty⟩ (.object node.object)).enter node.object node.target).Retyped
      node.expansions (world.opened node .empty) where
  history := rfl
  allocated := rfl
  chain := rfl
  find? _ := rfl

/-- Neither place has an origin in it then. -/
theorem World.agrees_of_literal (world : World) (node : Node) :
    Ledger.empty.Agrees
      ((Run.retain ⟨world, .empty⟩ (.object node.object)).enter node.object node.target)
      (.ofSnapshot world.snapshots.length) (world.opened node .empty) := by
  have placed : (world.opened node .empty).world.snapshots[world.snapshots.length]? =
      some ⟨node.start, .empty, .empty⟩ := by
    show ((world.add ⟨node, .empty, .empty⟩).1.snapshots.modify _ _)[world.snapshots.length]? = _
    rw [List.getElem?_modify, world.placed_add]
    simp
  refine ⟨?_, trivial, (List.getElem?_eq_some_iff.mp placed).1⟩
  rw [Ledger.origins, placed]
  rfl

namespace Heap

variable {heap : Heap} {live : LiveObject} {target : Target} {registry : Registry} {world : World}

theorem targetFor?_of_accepting? (registered : registry.accepting? live.runtime = some target) :
    Encode.targetFor? registry .none none live.runtime = some target := registered

section Literal

variable (closed : heap.IsClosed) (known : live ∈ heap.objects)
  (registered : registry.accepting? live.runtime = some target)

include closed known registered

/-- What can be written as a literal is the snapshot of the registered target. -/
theorem frozen_of_literal {code : Code} {events : List Event} {after : Run}
    (walked : Walked heap (.value registry .none none (.object live) code)
      (Run.retain ⟨world, .empty⟩ (.object live)) events after) :
    heap.frozen world (.object live) target .empty [] registry =
      ⟨.ok (Layout.format registry.options
        (if code.isReturn then "return " ++ code.written ++ ";" else code.written)),
        Event.invocations events⟩ := by
  cases walked with
  | known _ found => cases found
  | literalObject _ fits expanded =>
    obtain rfl := Option.some.inj ((targetFor?_of_accepting? registered).symm.trans fits)
    cases expanded with
    | reused found => cases found
    | @rendered _ _ _ _ node overrides _ _ _ _ built _ overridden =>
      obtain ⟨rfl, rfl, expansions, _, uncached, _, _⟩ := Node.built_of_build built
      obtain ⟨_, walked, _⟩ := overridden.exchanged (.ofSnapshot world.snapshots.length)
        (.refl registry node.expansions) (world.opened_of_literal node)
      rw [Part.exchanged, node.retyped_self] at walked
      have text : node.classText registry
          (Expr.mapOverrides (Deferred.retyped node.expansions) overrides) =
          Layout.format registry.options (node.classText registry overrides) :=
        (node.classText_retyped node.expansions rfl overrides).trans
          (node.format_classText registry overrides).symm
      have printed : Code.written (.deferred (.node
          (node.complete (node.classText registry overrides)))) =
          node.classText registry overrides := by
        rw [Code.written, Expr.text_deferred, Deferred.finished, Deferred.finished?,
          Node.complete, uncached]
        rfl
      have planned : Node.build node.object node.target (.ofList []) = .ok node := built
      rw [frozen_of_walked closed known Canned.empty_isPlain planned walked, printed, text]
      rfl

/-- What cannot be written as a literal has no snapshot of the registered target, for the same
reason. -/
theorem frozen_of_failed_literal {events : List Event} {stop : Stop} {after : Run}
    (stopped : Stopped heap (.value registry .none none (.object live))
      (Run.retain ⟨world, .empty⟩ (.object live)) events stop after)
    (fueled : stop ≠ .outOfFuel) :
    heap.frozen world (.object live) target .empty [] registry =
      ⟨.error stop, Event.invocations events⟩ := by
  cases stopped with
  | untargeted _ unfit => cases (targetFor?_of_accepting? registered).symm.trans unfit
  | literalObject _ fits failed =>
    obtain rfl := Option.some.inj ((targetFor?_of_accepting? registered).symm.trans fits)
    cases failed with
    | unbuilt _ refused => exact frozen_of_unbuilt refused
    | reentered _ _ busy => cases busy
    | exhausted => exact absurd rfl fueled
    | @unrendered _ _ _ _ node _ _ _ _ _ built _ failed =>
      obtain ⟨rfl, rfl, expansions, _, uncached, _, _⟩ := Node.built_of_build built
      obtain ⟨_, failed⟩ := failed.rebooked (.ofSnapshot world.snapshots.length)
        (world.opened_of_literal node) (world.agrees_of_literal node)
      have planned : Node.build node.object node.target (.ofList []) = .ok node := built
      have frozen := frozen_of_stopped closed known Canned.empty_isPlain planned failed
        (Stop.annotate_ne_outOfFuel.mp fueled)
      -- That the node began to be rendered is an event, but no invocation.
      exact frozen

end Literal

/-- An object of a registered type is written as a literal as it is frozen as the target that it is
registered for: the text is the same, or the report on what went wrong with all that it tells, and
so are the accessors that are invoked. -/
theorem load_eq_frozen (closed : heap.IsClosed) (known : live ∈ heap.objects) (world : World)
    (registered : registry.accepting? live.runtime = some target) :
    (heap.load world (.object live) registry).outcome world =
      heap.frozen world (.object live) target .empty [] registry := by
  have ends := ((renders_end heap closed registry).2 (.object live) world
    (Value.within_object.mpr known)).1.ends
  rcases load_cases heap world (.object live) registry with
    ⟨code, events, after, walked, loaded⟩ | ⟨stop, events, after, stopped, loaded⟩
  · rw [frozen_of_literal closed known registered walked, loaded, Ended.outcome]
    exact congrArg _ (World.since_of_history walked.growsBy.history)
  · rw [loaded] at ends
    rw [frozen_of_failed_literal closed known registered stopped (by simpa using ends), loaded,
      Ended.outcome]
    exact congrArg _ (World.since_of_history stopped.growsBy.history)

end Heap

namespace Pantry

/-- A registry of pantries and of some other types. -/
def stocked (others : List Target) : Registry :=
  Registry.root.withTargets (pantry :: others)

/-- A pantry that can be written, and one with a basket that nothing is registered for. -/
theorem load_eq_frozen_pantry :
    (((heap bagged).load .initial (.object pantryObject) (stocked expanded)).outcome .initial =
        (heap bagged).frozen .initial (.object pantryObject) pantry .empty [] (stocked expanded) ∧
      ((heap bagged).load .initial (.object pantryObject) (stocked expanded)).result.isOk) ∧
    (((heap apples).load .initial (.object pantryObject) (stocked [])).outcome .initial =
        (heap apples).frozen .initial (.object pantryObject) pantry .empty [] (stocked []) ∧
      ¬ ((heap apples).load .initial (.object pantryObject) (stocked [])).result.isOk) := by
  have accepting : ∀ others, (stocked others).accepting? pantryObject.runtime = some pantry := by
    intro others
    have accepts : pantry.accepts pantryObject.runtime := by decide +kernel
    simp [stocked, Registry.withTargets, Registry.enter, Registry.accepting?, accepts]
  refine ⟨⟨?_, by decide +kernel⟩, ?_, by decide +kernel⟩
  · exact Heap.load_eq_frozen (isClosed only_bagged) (by decide) .initial (accepting expanded)
  · exact Heap.load_eq_frozen (isClosed only_apples) (by decide) .initial (accepting [])

end Pantry

end FrozenGraph
