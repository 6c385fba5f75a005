/-
This file shows that invocations stay noted. However a walk ends, with an answer, with a failure or
without fuel, and whatever its session holds, all that was invoked before it is still there, and
what the walk invoked comes after that. So it shows in the end whether an accessor of an object was
invoked: rendering a node invokes one, unless none of its accessors answers anything.

The argument is one about single steps. What holds of each of them, and of walks that are put
together if it holds of their parts, holds of every walk of the library.
-/

import FrozenGraph.Proofs.Once
import FrozenGraph.Proofs.Restored

namespace FrozenGraph

/-! ### What holds of all walks -/

/-- A property that every step of a walk has, and that walks have whose parts have it. -/
structure Walk.Steady (holds : {α : Type} → Walk α → Prop) : Prop where
  given : ∀ {α : Type} (answer : α), holds (pure answer)
  stopped : ∀ {α : Type} (stop : Stop), holds (throw stop : Walk α)
  looked : holds (get : Walk Run)
  onSession : ∀ change, holds (Walk.onSession change)
  onSnapshot : ∀ number change, holds (Walk.onSnapshot number change)
  begin : ∀ rendering, holds (Walk.begin rendering)
  invoked : ∀ heap object accessor, holds (Walk.invoke heap object accessor)
  chained : ∀ {α β : Type} {walk : Walk α} {next : α → Walk β}, holds walk →
    (∀ answer, holds (next answer)) → holds (walk >>= next)
  annotated : ∀ {α : Type} {walk : Walk α} (note : Run → Report → Report), holds walk →
    holds (Walk.annotatedAfter note walk)
  left : ∀ {α : Type} {walk : Walk α} (identity : Identity), holds walk →
    holds (Walk.ensuring (fun run => { run with session := run.session.leave identity }) walk)
  handled : ∀ {α : Type} {walk : Walk α} {handle : Stop → Walk α}, holds walk →
    (∀ stop, holds (handle stop)) → holds (tryCatch walk handle : Walk α)
  inSession : ∀ {α : Type} {walk : Walk α} (session : Session), holds walk →
    holds (Walk.inSession session walk)

namespace Walk.Steady

variable {holds : {α : Type} → Walk α → Prop} (steady : Steady @holds)

include steady

theorem failed {α : Type} (report : Report) : holds (Walk.fail report : Walk α) :=
  steady.stopped _

theorem lifted {α : Type} (result : Except Report α) : holds (Walk.lift result) := by
  cases result with
  | ok answer => exact steady.given answer
  | error report => exact steady.failed report

/-- A walk may look at the state that it begins in. -/
theorem looking {α : Type} {next : Run → Walk α} (later : ∀ run, holds (next run)) :
    holds (get >>= next) :=
  steady.chained steady.looked later

theorem recorded (ledger : Ledger) (method : Method) (value : Value) :
    holds (ledger.record method value) := by
  cases ledger with
  | own origins => exact steady.given _
  | ofSnapshot number => exact steady.chained (steady.onSnapshot _ _) fun _ => steady.given _

theorem entered (node : Node) : holds node.enter := by
  refine steady.chained (steady.annotated _ ?_) fun _ => steady.begin _
  exact steady.looking fun run => steady.chained (steady.lifted _) fun _ => steady.onSession _

section Attempts

variable {attempt : Attempt}
  (attempts : ∀ ledger node registry, holds (attempt ledger node registry))

include attempts

theorem renderFresh (node : Node) (registry : Registry) :
    holds (node.renderFresh attempt registry) :=
  steady.chained (steady.entered node) fun _ => attempts _ _ _

theorem renderRoot (number : Nat) (registry : Registry) :
    holds (renderRoot attempt number registry) := by
  rw [FrozenGraph.renderRoot]
  refine steady.looking fun run => ?_
  split
  · exact steady.failed _
  · dsimp only
    split
    · exact steady.given _
    · exact steady.failed _
    · refine steady.chained (steady.entered _) fun _ => ?_
      refine steady.chained (steady.onSnapshot _ _) fun _ => ?_
      refine steady.chained (steady.handled (attempts _ _ _) fun stop => ?_) fun _ => ?_
      · exact steady.chained (steady.onSnapshot _ _) fun _ => steady.stopped _
      · exact steady.chained (steady.onSnapshot _ _) fun _ =>
          steady.looking fun run => steady.given _

theorem generate (registry : Registry) (statement : Deferred) :
    holds (statement.generate attempt registry) := by
  cases statement with
  | text content => exact steady.given content
  | failing details => exact steady.failed _
  | node planned =>
    rw [Deferred.generate]
    split
    · exact steady.given _
    · exact steady.inSession _ (steady.renderFresh attempts _ _)
  | snapshot number =>
    rw [Deferred.generate, snapshotText]
    refine steady.looking fun run => ?_
    split
    · exact steady.failed _
    · split
      · exact steady.given _
      · exact steady.inSession _ (steady.renderRoot attempts _ _)

theorem source (registry : Registry) (code : Code) :
    holds (code.source (Deferred.generate attempt registry)) :=
  Expr.source_induction holds steady.given steady.chained (steady.generate attempts registry) code

theorem expandObject (registry : Registry) (expansions : Expansions) (object : LiveObject)
    (target : Target) : holds (expandObject attempt registry expansions object target) := by
  rw [FrozenGraph.expandObject]
  refine steady.looking fun run => ?_
  split
  · exact steady.given _
  · exact steady.chained (steady.lifted _) fun node =>
      steady.chained (steady.renderFresh attempts node registry) fun _ =>
        steady.chained (steady.onSession _) fun _ => steady.given _

end Attempts

section Objects

variable {expand : LiveObject → Target → Walk Code}

mutual

theorem value (expands : ∀ object target, holds (expand object target)) (registry : Registry)
    (expansions : Expansions) (declared : Option DeclaredType) :
    (value : Value) → holds (Encode.value expand registry expansions declared value)
  | .scalar scalar => steady.given _
  | .list identity items => by
    rw [Encode.value]
    refine steady.looking fun run => ?_
    split
    · exact steady.given _
    · exact steady.chained (allItems expands registry expansions items) fun _ =>
        steady.chained (steady.onSession _) fun _ => steady.given _
  | .object live => by
    rw [Encode.value]
    refine steady.looking fun run => ?_
    split
    · exact steady.given _
    · split
      · exact steady.failed _
      · exact expands live _

theorem allItems (expands : ∀ object target, holds (expand object target)) (registry : Registry)
    (expansions : Expansions) :
    (items : List Value) → holds (Encode.allItems expand registry expansions items)
  | [] => steady.given _
  | first :: rest => by
    rw [Encode.allItems]
    exact steady.chained (steady.onSession _) fun _ =>
      steady.chained (value expands registry expansions none first) fun _ =>
        steady.chained (allItems expands registry expansions rest) fun _ => steady.given _

end

end Objects

section Attempts

variable {attempt : Attempt}
  (attempts : ∀ ledger node registry, holds (attempt ledger node registry))

omit attempts in
theorem answered (heap : Heap) (node : Node) (method : Method) :
    holds (node.answer heap method) := by
  refine steady.chained (steady.invoked _ _ _) fun outcome => ?_
  cases outcome with
  | error fault => exact steady.failed _
  | ok value => exact steady.chained (steady.onSession _) fun _ => steady.given _

include attempts

theorem expressed (node : Node) (registry inner : Registry) (declared : DeclaredType)
    (value : Value) : holds (node.express attempt registry inner declared value) := by
  have recording : ∀ code, holds (Node.recording value code) := by
    intro code
    unfold Node.recording
    split
    · exact steady.chained (steady.onSession _) fun _ => steady.given _
    · exact steady.given _
  have expands := steady.expandObject attempts inner node.expansions
  rw [Node.express]
  refine steady.looking fun run => steady.chained (steady.lifted _) fun route => ?_
  dsimp only
  split
  · exact steady.chained (steady.given _) recording
  · exact steady.chained (steady.given _) recording
  · exact steady.chained (steady.value expands inner node.expansions _ _) recording
  · exact steady.chained (expands _ _) recording
  · exact steady.chained (steady.failed _) recording

theorem overrides (heap : Heap) (node : Node) (registry inner : Registry) (methods : List Method) :
    ∀ ledger, holds (node.overrides heap attempt registry inner ledger methods) := by
  induction methods with
  | nil => exact fun _ => steady.given _
  | cons method rest inductionHypothesis =>
    intro ledger
    rw [Node.overrides]
    split
    · exact steady.chained (inductionHypothesis ledger) fun _ => steady.given _
    · refine steady.chained (steady.annotated _ (steady.answered heap node method)) fun value => ?_
      refine steady.chained (steady.recorded ledger method value) fun ledger => ?_
      refine steady.chained
        (steady.annotated _ (steady.expressed attempts node registry inner _ value)) fun _ => ?_
      exact steady.chained (inductionHypothesis ledger) fun _ => steady.given _

end Attempts

/-- What every step of a walk has, rendering a node has, whatever fuel there is. -/
theorem attempt (heap : Heap) (fuel : Nat) :
    ∀ ledger node registry, holds (Node.attempt heap fuel ledger node registry) := by
  induction fuel with
  | zero => exact fun _ _ _ => steady.stopped _
  | succ fuel inductionHypothesis =>
    intro ledger node registry
    refine steady.annotated _ (steady.chained (steady.left _ ?_) fun _ => steady.given _)
    exact steady.chained (steady.overrides inductionHypothesis heap node registry _ _ ledger)
      fun _ => steady.source inductionHypothesis _ _

end Walk.Steady

/-! ### The history of a walk -/

namespace Walk

variable {α β : Type} {walk : Walk α} {next : α → Walk β} {run after : Run} {object : Identity}

/-- The state in which a walk ends, however it ends. -/
def last (walk : Walk α) (run : Run) : Run :=
  match walk run with
  | .ok _ after | .error _ after => after

theorem last_ok {answer : α} (ended : walk run = .ok answer after) : walk.last run = after := by
  rw [last, ended]

theorem last_error {stop : Stop} (ended : walk run = .error stop after) :
    walk.last run = after := by
  rw [last, ended]

@[simp] theorem last_annotatedAfter (note : Run → Report → Report) (walk : Walk α) (run : Run) :
    (annotatedAfter note walk).last run = walk.last run := by
  cases ended : walk run with
  | ok answer after => rw [last_ok ended, last_ok (annotatedAfter_ok ended)]
  | error stop after => rw [last_error ended, last_error (annotatedAfter_error ended)]

@[simp] theorem last_ensuring (cleanup : Run → Run) (walk : Walk α) (run : Run) :
    (ensuring cleanup walk).last run = cleanup (walk.last run) := by
  cases ended : walk run with
  | ok answer after => rw [last_ok ended, last_ok (ensuring_ok ended)]
  | error stop after => rw [last_error ended, last_error (ensuring_error ended)]

theorem last_inSession (session : Session) (walk : Walk α) (run : Run) :
    (inSession session walk).last run =
      { walk.last { run with session } with session := run.session } := by
  rw [last, last, inSession]
  cases walk { run with session } <;> rfl

/-- However a walk ends, the invocations before it stay noted. -/
def Notes (walk : Walk α) : Prop :=
  ∀ run, run.world.history <:+ (walk.last run).world.history

theorem Notes.bind (first : walk.Notes) (later : ∀ answer, (next answer).Notes) :
    (walk >>= next).Notes := by
  intro run
  have begun := first run
  cases ended : walk run with
  | ok answer after =>
    rw [last_ok ended] at begun
    rw [last, bind_ok ended]
    exact begun.trans (later answer after)
  | error stop after =>
    rw [last_error ended] at begun
    rwa [last_error (bind_error ended)]

theorem Notes.tryCatch {handle : Stop → Walk α} (first : walk.Notes)
    (again : ∀ stop, (handle stop).Notes) : (tryCatch walk handle : Walk α).Notes := by
  intro run
  have begun := first run
  cases ended : walk run with
  | ok answer after =>
    rw [last_ok ended] at begun
    rwa [last_ok (tryCatch_ok ended)]
  | error stop after =>
    rw [last_error ended] at begun
    rw [last, tryCatch_error ended]
    exact begun.trans (again stop after)

/-- An invocation is noted, whether there is an answer or not. -/
theorem invoke_notes (heap : Heap) (live : LiveObject) (accessor : String) :
    (invoke heap live accessor).Notes := by
  intro run
  cases replied : heap.reply run.world live.identity accessor with
  | mk outcome allocated =>
    cases outcome with
    | error fault =>
      rw [last_ok (invoke_error replied)]
      exact List.suffix_cons _ _
    | ok value =>
      rw [last_ok (invoke_ok replied)]
      exact List.suffix_cons _ _

/-- Every walk only adds to the history. -/
theorem notes_steady : Steady @Notes where
  given _ _ := List.suffix_rfl
  stopped _ _ := List.suffix_rfl
  looked _ := List.suffix_rfl
  onSession _ _ := List.suffix_rfl
  onSnapshot _ _ _ := List.suffix_rfl
  begin _ _ := List.suffix_rfl
  invoked := invoke_notes
  chained := Notes.bind
  annotated note notes run := by
    rw [last_annotatedAfter]
    exact notes run
  left identity notes run := by
    rw [last_ensuring]
    exact notes run
  handled := Notes.tryCatch
  inSession session notes run := by
    rw [last_inSession]
    exact notes { run with session }

/-! ### Walks that invoke an accessor of an object -/

/-- However a walk ends, it has invoked an accessor of an object. -/
def Calls (object : Identity) (walk : Walk α) (run : Run) : Prop :=
  ∃ invocation : Invocation, invocation.object = object ∧
    (invocation :: run.world.history) <:+ (walk.last run).world.history

theorem Calls.bind (calls : Calls object walk run) (later : ∀ answer, (next answer).Notes) :
    Calls object (walk >>= next) run := by
  obtain ⟨invocation, same, noted⟩ := calls
  refine ⟨invocation, same, ?_⟩
  cases ended : walk run with
  | ok answer after =>
    rw [last_ok ended] at noted
    rw [last, bind_ok ended]
    exact noted.trans (later answer after)
  | error stop after =>
    rw [last_error ended] at noted
    rwa [last_error (bind_error ended)]

/-- What a walk has invoked depends on what it does only. -/
theorem Calls.of_eq {other : Walk α} {start : Run} (same : walk run = other start)
    (unchanged : start.world.history = run.world.history) (calls : Calls object other start) :
    Calls object walk run := by
  rwa [Calls, last, same, ← unchanged]

/-- What was invoked shows in the end. -/
theorem Calls.on_since (calls : Calls object walk run) :
    Invocation.on object ((walk.last run).world.since run.world) ≠ [] := by
  obtain ⟨invocation, rfl, earlier, same⟩ := calls
  have grown : (walk.last run).world.history =
      (earlier ++ [invocation]).reverse.reverse ++ run.world.history := by
    rw [List.reverse_reverse, List.append_assoc, ← same]
    rfl
  rw [World.since_of_history grown, List.reverse_append, List.reverse_singleton,
    List.singleton_append, Invocation.on_cons_self]
  exact List.cons_ne_nil _ _

end Walk

/-! ### Nodes -/

namespace Node

variable {heap : Heap} {attempt : Attempt}

theorem answer_calls (node : Node) (method : Method) (run : Run) :
    Walk.Calls node.object.identity (node.answer heap method) run := by
  cases replied : heap.reply run.world node.object.identity method.name with
  | mk outcome allocated =>
    cases outcome with
    | error fault =>
      refine ⟨⟨_, method.name, .error fault⟩, rfl, ?_⟩
      rw [Walk.last_error (answer_error replied)]
      exact List.suffix_rfl
    | ok value =>
      refine ⟨⟨_, method.name, .ok value⟩, rfl, ?_⟩
      rw [Walk.last_ok (answer_ok replied)]
      exact List.suffix_rfl

/-- Where no accessor answers anything, nothing is invoked. -/
theorem overrides_of_void (node : Node) (registry inner : Registry) (ledger : Ledger)
    {methods : List Method} (void : ∀ method ∈ methods, method.returns = .void) (run : Run) :
    node.overrides heap attempt registry inner ledger methods run =
      .ok (methods.map fun method => .empty method.name method.returns) run := by
  induction methods with
  | nil => rfl
  | cons method rest inductionHypothesis =>
    obtain ⟨own, others⟩ := List.forall_mem_cons.mp void
    rw [overrides, if_pos own, Walk.bind_ok (inductionHypothesis others)]
    rfl

/-- Where some accessor answers something, one is invoked. -/
theorem overrides_calls (attempts : ∀ ledger node registry, (attempt ledger node registry).Notes)
    (node : Node) (registry inner : Registry) (ledger : Ledger) {methods : List Method}
    (asked : ∃ method ∈ methods, method.returns ≠ .void) (run : Run) :
    Walk.Calls node.object.identity
      (node.overrides heap attempt registry inner ledger methods) run := by
  have steady := Walk.notes_steady
  induction methods with
  | nil => simp at asked
  | cons method rest inductionHypothesis =>
    rw [overrides]
    split
    · rename_i void
      obtain ⟨other, member, answers⟩ := asked
      have later := inductionHypothesis
        ⟨other, List.mem_of_ne_of_mem (fun same => answers (same ▸ void)) member, answers⟩
      exact later.bind fun _ => steady.given _
    · have answered : Walk.Calls node.object.identity
          (Walk.annotatedAfter (noteAccessor ledger method) (node.answer heap method)) run := by
        rw [Walk.Calls, Walk.last_annotatedAfter]
        exact answer_calls node method run
      refine answered.bind fun value => ?_
      refine steady.chained (steady.recorded ledger method value) fun ledger => ?_
      refine steady.chained
        (steady.annotated _ (steady.expressed attempts node registry inner _ value)) fun _ => ?_
      exact steady.chained (steady.overrides attempts heap node registry inner rest ledger)
        fun _ => steady.given _

theorem isFinished_empty (extended : DeclaredType) (methods : List Method) :
    Code.IsFinished
      (.anonymous extended (methods.map fun method => .empty method.name method.returns)) := by
  induction methods with
  | nil => exact fun _ member => nomatch member
  | cons method rest inductionHypothesis => exact inductionHypothesis

/-- A node whose accessors answer nothing is rendered. -/
theorem attempt_of_void (heap : Heap) (fuel : Nat) (ledger : Ledger) {node : Node}
    (registry : Registry) (void : ∀ method ∈ node.accessors, method.returns = .void) (run : Run) :
    ∃ text, Node.attempt heap (fuel + 1) ledger node registry run =
      .ok text (run.leave node.object.identity) := by
  have ended : node.overrides heap (Node.attempt heap fuel) registry (node.inner registry) ledger
      node.accessors run = _ :=
    overrides_of_void node registry _ ledger void run
  have written := classSource_ok ended (isFinished_empty _ _)
  exact ⟨_, Walk.annotated_ok (Walk.bind_ok (Walk.ensuring_ok written))⟩

/-- A node with an accessor that answers something invokes one, if there is fuel. -/
theorem attempt_calls (heap : Heap) (fuel : Nat) (ledger : Ledger) {node : Node}
    (registry : Registry) (asked : ∃ method ∈ node.accessors, method.returns ≠ .void) (run : Run) :
    Walk.Calls node.object.identity (Node.attempt heap (fuel + 1) ledger node registry) run := by
  have steady := Walk.notes_steady
  have attempts := steady.attempt heap fuel
  have source : Walk.Calls node.object.identity
      (node.classSource heap (Node.attempt heap fuel) ledger registry) run :=
    (overrides_calls attempts node registry _ ledger asked run).bind fun _ =>
      steady.source attempts _ _
  rw [Node.attempt, Walk.annotated, Walk.Calls, Walk.last_annotatedAfter]
  refine Walk.Calls.bind ?_ fun _ => steady.given _
  rw [Walk.Calls, Walk.last_ensuring]
  exact source

end Node

/-! ### Objects that are met on the way -/

/-- An object that is not known and whose expansion fails for a value without a literal has been
asked before: a target that cannot be extended, and an object that is in progress, fail for another
reason, and an object that answers nothing does not fail. -/
theorem expandObject_calls {heap : Heap} {fuel : Nat} {registry : Registry}
    {expansions : Expansions} {live : LiveObject} {target : Target} {run after : Run}
    {report : Report} (unknown : run.session.memo.find? live.identity = none)
    (ended : expandObject (Node.attempt heap fuel) registry expansions live target run =
      .error (.failed report) after) (refused : report.fault.isNotLiteral) :
    Walk.Calls live.identity
      (expandObject (Node.attempt heap fuel) registry expansions live target) run := by
  have steady := Walk.notes_steady
  cases built : Node.build live target expansions with
  | error other =>
    obtain ⟨_, _, _, rfl⟩ := Node.invalid_of_build built
    rw [expandObject, Walk.bind_get, unknown, built] at ended
    cases ended
    cases refused
  | ok node =>
    obtain ⟨rfl, rfl, rfl, _, _, _, _⟩ := Node.built_of_build built
    have fresh : expandObject (Node.attempt heap fuel) registry node.expansions node.object
        node.target run = (node.renderFresh (Node.attempt heap fuel) registry >>= fun text => do
          let code : Code := .deferred (.node (node.complete text))
          Walk.record node.object.identity code
          pure code) run := by
      rw [expandObject, Walk.bind_get, unknown, built]
      rfl
    have entered := node.enter_run run
    split at entered
    · have stopped : node.renderFresh (Node.attempt heap fuel) registry run = _ :=
        Walk.bind_error entered
      rw [fresh, Walk.bind_error stopped] at ended
      cases ended
      cases refused
    · have begun : node.renderFresh (Node.attempt heap fuel) registry run =
          Node.attempt heap fuel .empty node registry (run.enter node.object node.target) :=
        Walk.bind_ok entered
      cases fuel with
      | zero =>
        have spent : node.renderFresh (Node.attempt heap 0) registry run = .error .outOfFuel _ :=
          begun
        rw [fresh, Walk.bind_error spent] at ended
        cases ended
      | succ fuel =>
        by_cases asked : ∃ method ∈ node.accessors, method.returns ≠ .void
        · have calls := Node.attempt_calls heap fuel .empty registry asked
            (run.enter node.object node.target)
          have rendered := calls.of_eq begun rfl
          exact .of_eq fresh rfl (rendered.bind fun _ =>
            steady.chained (steady.onSession _) fun _ => steady.given _)
        · have void : ∀ method ∈ node.accessors, method.returns = .void := by
            simpa using asked
          obtain ⟨text, rendered⟩ := Node.attempt_of_void heap fuel .empty registry void
            (run.enter node.object node.target)
          rw [fresh, Walk.bind_ok (begun.trans rendered)] at ended
          cases ended

end FrozenGraph
