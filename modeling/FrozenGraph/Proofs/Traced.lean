/-
This file shows that the walks of the library follow the relations of `Proofs/Walked`: whatever a
walk does in a session with finished expressions, it does as `Walked` or as `Stopped` says. Printing
takes no part in that, since every statement that it meets is finished.
-/

import FrozenGraph.Proofs.Ready

namespace FrozenGraph

/-! ### Steps of a walk -/

namespace Walk

variable {α β : Type} {walk : Walk α} {next : α → Walk β} {run after : Run}

theorem bind_get (next : Run → Walk β) (run : Run) : (get >>= next) run = next run run := rfl

theorem bind_lift_ok (answer : α) (next : α → Walk β) (run : Run) :
    (lift (.ok answer) >>= next) run = next answer run := rfl

theorem annotatedAfter_ok {note : Run → Report → Report} {answer : α}
    (ended : walk run = .ok answer after) : annotatedAfter note walk run = .ok answer after := by
  rw [annotatedAfter, ended]

theorem annotatedAfter_error {note : Run → Report → Report} {stop : Stop}
    (ended : walk run = .error stop after) :
    annotatedAfter note walk run = .error (stop.annotate (note after)) after := by
  rw [annotatedAfter, ended]
  cases stop <;> rfl

theorem annotated_ok {note : Report → Report} {answer : α} (ended : walk run = .ok answer after) :
    annotated note walk run = .ok answer after :=
  annotatedAfter_ok ended

theorem annotated_error {note : Report → Report} {stop : Stop}
    (ended : walk run = .error stop after) :
    annotated note walk run = .error (stop.annotate note) after :=
  annotatedAfter_error ended

theorem ensuring_ok {cleanup : Run → Run} {answer : α} (ended : walk run = .ok answer after) :
    ensuring cleanup walk run = .ok answer (cleanup after) := by
  rw [ensuring, ended]

theorem ensuring_error {cleanup : Run → Run} {stop : Stop}
    (ended : walk run = .error stop after) :
    ensuring cleanup walk run = .error stop (cleanup after) := by
  rw [ensuring, ended]

theorem tryCatch_ok {answer : α} {handle : Stop → Walk α} (ended : walk run = .ok answer after) :
    (tryCatch walk handle : Walk α) run = .ok answer after := by
  show EStateM.tryCatch walk handle run = .ok answer after
  delta EStateM.tryCatch
  rw [ended]

theorem tryCatch_error {stop : Stop} {handle : Stop → Walk α}
    (ended : walk run = .error stop after) :
    (tryCatch walk handle : Walk α) run = handle stop after := by
  show EStateM.tryCatch walk handle run = handle stop after
  delta EStateM.tryCatch
  rw [ended]
  rfl

/-- An accessor that fails is noted. -/
theorem invoke_error {heap : Heap} {object : LiveObject} {accessor : String}
    {fault : AccessorFault} {allocated : Nat}
    (replied : heap.reply run.world object.identity accessor = (.error fault, allocated)) :
    invoke heap object accessor run =
      .ok (.error fault) (run.note ⟨object.identity, accessor, .error fault⟩ allocated) := by
  unfold Heap.reply at replied
  rw [invoke, bind_get]
  split at replied
  · rename_i answered
    rw [answered]
    cases replied
    rfl
  · cases replied

/-- An accessor that answers is noted, and the lists of its answer come into being. -/
theorem invoke_ok {heap : Heap} {object : LiveObject} {accessor : String} {value : Value}
    {allocated : Nat}
    (replied : heap.reply run.world object.identity accessor = (.ok value, allocated)) :
    invoke heap object accessor run =
      .ok (.ok value) (run.note ⟨object.identity, accessor, .ok value⟩ allocated) := by
  unfold Heap.reply at replied
  rw [invoke, bind_get]
  split at replied
  · cases replied
  · rename_i answered
    rw [answered]
    cases replied
    rfl

end Walk

/-! ### What it means to follow the relations -/

/-- A walk does in a state what the relations say of a part of a walk. -/
inductive Traced {α : Type} (heap : Heap) (task : Task) (part : α → Part) (before : Run)
    (walk : Walk α) : Prop
  | ok {answer : α} {events : List Event} {after : Run} (ended : walk before = .ok answer after)
    (walked : Walked heap (part answer) before events after)
  | error {stop : Stop} {events : List Event} {after : Run}
    (ended : walk before = .error stop after)
    (stopped : Stopped heap task before events stop after)

/-- A walk renders in a state a node whose object is on the chain, unless it has no fuel. -/
inductive Attempted (heap : Heap) (ledger : Ledger) (node : Node) (registry : Registry)
    (before : Run) (walk : Walk String) : Prop
  | ok {overrides : List (Override Deferred)} {events : List Event} {after : Run}
    (ended : walk before =
      .ok (node.classText registry overrides) (after.leave node.object.identity))
    (walked : Walked heap (.methods node registry ledger node.accessors overrides) before events
      after)
  | error {stop : Stop} {events : List Event} {after : Run}
    (ended : walk before =
      .error (stop.annotate node.noteOn) (after.leave node.object.identity))
    (stopped : Stopped heap (.methods node registry ledger node.accessors) before events stop
      after)
  | outOfFuel (ended : walk before = .error .outOfFuel before)

/-- A way to render nodes follows the relations in every session with finished expressions. -/
def Attempt.Follows (heap : Heap) (attempt : Attempt) : Prop :=
  ∀ ledger node registry (run : Run), run.session.IsReady →
    Attempted heap ledger node registry run (attempt ledger node registry)

/-! ### Objects that are met on the way -/

/-- Putting an object on the chain begins its rendering, or reports a cycle. -/
theorem Node.enter_run (node : Node) (run : Run) :
    node.enter run =
      if run.session.chain.contains node.object.identity then
        .error (.failed (node.noteOn run.session.chain.cycleReport)) run
      else .ok () (run.enter node.object node.target) := by
  cases contained : run.session.chain.contains node.object.identity with
  | true =>
    have refused : Walk.enter node.object.identity node.object.describe run =
        .error (.failed run.session.chain.cycleReport) run := by
      rw [Walk.enter, Walk.bind_get, Session.enter, Chain.enter, if_pos contained]
      rfl
    rw [Node.enter, Walk.bind_error (Walk.annotated_error refused), if_pos rfl]
    rfl
  | false =>
    have entered : Walk.enter node.object.identity node.object.describe run =
        .ok () { run with session := { run.session with chain :=
          ⟨run.session.chain.members ++ [⟨node.object.identity, node.object.describe⟩]⟩ } } := by
      rw [Walk.enter, Walk.bind_get, Session.enter, Chain.enter, if_neg (by simp [contained])]
      rfl
    rw [Node.enter, Walk.bind_ok (Walk.annotated_ok entered), if_neg Bool.false_ne_true]
    rfl

/-- What a node is that was built. -/
structure Node.Built (object : LiveObject) (target : Target) (expansions : Expansions)
    (node : Node) : Prop where
  object_eq : node.object = object
  target_eq : node.target = target
  expansions_eq : node.expansions = expansions
  state_eq : node.state = .pending
  cached_eq : node.cached = none
  accepts : target.accepts object.runtime
  accessors_eq : target.accessors = .ok node.accessors

theorem Node.built_of_build {object : LiveObject} {target : Target} {expansions : Expansions}
    {node : Node} (built : Node.build object target expansions = .ok node) :
    node.Built object target expansions := by
  unfold Node.build at built
  cases extendable : Node.checkExtendable target with
  | error report =>
    rw [extendable] at built
    cases built
  | ok _ =>
    simp only [extendable, bind, Except.bind] at built
    split at built
    · rename_i accepts
      cases listed : target.accessors with
      | error report =>
        rw [listed] at built
        cases built
      | ok accessors =>
        rw [listed] at built
        cases built
        exact ⟨rfl, rfl, rfl, rfl, rfl, accepts, listed⟩
    · cases built

theorem expandObject_traced {heap : Heap} {attempt : Attempt} (follows : attempt.Follows heap)
    (registry : Registry) (expansions : Expansions) (object : LiveObject) (target : Target)
    {run : Run} (ready : run.session.IsReady) :
    Traced heap (.object registry expansions object target)
      (.object registry expansions object target) run
      (expandObject attempt registry expansions object target) := by
  cases found : run.session.memo.find? object.identity with
  | some code =>
    refine .ok ?_ (.reused found)
    rw [expandObject, Walk.bind_get, found]
    rfl
  | none =>
    cases built : Node.build object target expansions with
    | error report =>
      refine .error ?_ (.unbuilt found built)
      rw [expandObject, Walk.bind_get, found, built]
      rfl
    | ok node =>
      obtain ⟨rfl, rfl, rfl, _, _, _, _⟩ := Node.built_of_build built
      have fresh : expandObject attempt registry node.expansions node.object node.target run =
          (node.renderFresh attempt registry >>= fun text => do
            let code : Code := .deferred (.node (node.complete text))
            Walk.record node.object.identity code
            pure code) run := by
        rw [expandObject, Walk.bind_get, found, built]
        rfl
      cases contained : run.session.chain.contains node.object.identity with
      | true =>
        refine .error ?_ (.reentered found built contained)
        have refused := node.enter_run run
        rw [if_pos contained] at refused
        have stopped : node.renderFresh attempt registry run = _ := Walk.bind_error refused
        rw [fresh, Walk.bind_error stopped]
      | false =>
        have entered := node.enter_run run
        rw [if_neg (by simp [contained])] at entered
        have begun : node.renderFresh attempt registry run =
            attempt .empty node registry (run.enter node.object node.target) :=
          Walk.bind_ok entered
        have attempted := follows .empty node registry (run.enter node.object node.target)
          (ready.of_memo_eq (Run.enter_memo _ _ _))
        cases attempted with
        | ok ended walked =>
          refine .ok ?_ (.rendered found built contained walked)
          rw [fresh, Walk.bind_ok (begun.trans ended)]
          rfl
        | error ended stopped =>
          refine .error ?_ (.unrendered found built contained stopped)
          rw [fresh, Walk.bind_error (begun.trans ended)]
        | outOfFuel ended =>
          refine .error ?_ (.exhausted found built contained)
          rw [fresh, Walk.bind_error (begun.trans ended)]

/-! ### Values -/

namespace Encode

variable {heap : Heap} {attempt : Attempt} (registry : Registry) (expansions : Expansions)

mutual

/-- Writing a value follows the relations. -/
theorem value_traced (follows : attempt.Follows heap) (declared : Option DeclaredType) :
    (value : Value) → {run : Run} → (ready : run.session.IsReady) →
    Traced heap (.value registry expansions declared value)
      (.value registry expansions declared value) run
      (Encode.value (expandObject attempt registry expansions) registry expansions declared value)
  | .scalar scalar, _, _ => .ok rfl .scalar
  | .list identity items, run, ready => by
    cases found : run.session.memo.find? identity with
    | some code =>
      refine .ok ?_ (.known rfl found)
      rw [Encode.value, Walk.bind_get, found]
      rfl
    | none =>
      cases allItems_traced follows items ready with
      | ok ended walked =>
        refine .ok ?_ (.list found walked)
        rw [Encode.value, Walk.bind_get, found]
        exact Walk.bind_ok ended
      | error ended stopped =>
        refine .error ?_ (.list found stopped)
        rw [Encode.value, Walk.bind_get, found]
        exact Walk.bind_error ended
  | .object live, run, ready => by
    cases found : run.session.memo.find? live.identity with
    | some code =>
      refine .ok ?_ (.known rfl found)
      rw [Encode.value, Walk.bind_get, found]
      rfl
    | none =>
      cases fits : targetFor? registry expansions declared live.runtime with
      | none =>
        refine .error ?_ (.untargeted found fits)
        rw [Encode.value, Walk.bind_get, found, fits]
        rfl
      | some target =>
        cases expandObject_traced follows registry expansions live target ready with
        | ok ended walked =>
          refine .ok ?_ (.literalObject found fits walked)
          rw [Encode.value, Walk.bind_get, found, fits]
          exact ended
        | error ended stopped =>
          refine .error ?_ (.literalObject found fits stopped)
          rw [Encode.value, Walk.bind_get, found, fits]
          exact ended

/-- Writing the items of a list follows the relations. -/
theorem allItems_traced (follows : attempt.Follows heap) : (items : List Value) → {run : Run} →
    (ready : run.session.IsReady) →
    Traced heap (.items registry expansions items) (.items registry expansions items) run
      (Encode.allItems (expandObject attempt registry expansions) registry expansions items)
  | [], _, _ => .ok rfl .noItem
  | first :: rest, run, ready => by
    have kept : (run.retain first).session.IsReady := ready.of_memo_eq (Run.retain_memo _ _)
    have retained : Walk.retain first run = .ok () (run.retain first) := rfl
    cases value_traced follows none first kept with
    | error ended stopped =>
      refine .error ?_ (.item stopped)
      rw [Encode.allItems, Walk.bind_ok retained, Walk.bind_error ended]
    | ok ended walked =>
      cases allItems_traced follows rest (walked.ready kept).2 with
      | error later stopped =>
        refine .error ?_ (.laterItem walked stopped)
        rw [Encode.allItems, Walk.bind_ok retained, Walk.bind_ok ended, Walk.bind_error later]
      | ok later others =>
        refine .ok ?_ (.item walked others)
        rw [Encode.allItems, Walk.bind_ok retained, Walk.bind_ok ended, Walk.bind_ok later]
        rfl

end

end Encode

/-! ### Answers and methods -/

namespace Node

variable {heap : Heap} {attempt : Attempt}

/-- What is done with an answer once its expression is there. -/
def recording (value : Value) (code : Code) : Walk Code :=
  match value.identity? with
  | some identity => do
    Walk.record identity code
    pure code
  | none => pure code

theorem record_run (value : Value) (code : Code) (run : Run) :
    recording value code run = .ok code (run.recordFor value code) := by
  unfold recording Run.recordFor
  cases value.identity? <;> rfl

theorem express_traced (follows : attempt.Follows heap) (node : Node) (registry : Registry)
    (declared : DeclaredType) (value : Value) {run : Run} (ready : run.session.IsReady) :
    Traced heap (.answer node registry declared value) (.answer node registry declared value) run
      (node.express attempt registry (node.inner registry) declared value) := by
  cases routed : Route.choose registry node.expansions run.session declared value with
  | error report =>
    refine .error ?_ (.unrouted routed)
    rw [express, Walk.bind_get, routed]
    rfl
  | ok route =>
    cases route with
    | null =>
      cases Route.chosen_of_eq routed with
      | null absent =>
        subst absent
        refine .ok ?_ .null
        rw [express, Walk.bind_get, routed]
        rfl
    | known code =>
      refine .ok ?_ (.recalled routed)
      rw [express, Walk.bind_get, routed]
      exact record_run value code run
    | literal =>
      cases Encode.value_traced (node.inner registry) node.expansions follows (some declared) value
        ready with
      | error ended stopped =>
        refine .error ?_ (.literal routed stopped)
        rw [express, Walk.bind_get, routed, Walk.bind_lift_ok]
        exact Walk.bind_error ended
      | @ok code _ after ended walked =>
        refine .ok ?_ (.literal routed walked)
        rw [express, Walk.bind_get, routed, Walk.bind_lift_ok]
        exact (Walk.bind_ok ended).trans (record_run value code after)
    | expand target =>
      cases value with
      | object live =>
        cases expandObject_traced follows (node.inner registry) node.expansions live target
          ready with
        | error ended stopped =>
          refine .error ?_ (.expanded routed stopped)
          rw [express, Walk.bind_get, routed, Walk.bind_lift_ok]
          exact Walk.bind_error ended
        | ok ended walked =>
          refine .ok ?_ (.expanded routed walked)
          rw [express, Walk.bind_get, routed, Walk.bind_lift_ok]
          exact Walk.bind_ok ended
      | scalar scalar =>
        refine .error ?_ (.shapeless routed (by rintro live ⟨⟩))
        rw [express, Walk.bind_get, routed]
        rfl
      | list identity items =>
        refine .error ?_ (.shapeless routed (by rintro live ⟨⟩))
        rw [express, Walk.bind_get, routed]
        rfl

/-- An accessor that answers is noted, and its answer is kept. -/
theorem answer_ok {node : Node} {method : Method} {value : Value} {allocated : Nat} {run : Run}
    (replied : heap.reply run.world node.object.identity method.name = (.ok value, allocated)) :
    node.answer heap method run =
      .ok value ((run.note ⟨node.object.identity, method.name, .ok value⟩ allocated).retain
        value) := by
  rw [answer, Walk.bind_ok (Walk.invoke_ok replied)]
  rfl

theorem answer_error {node : Node} {method : Method} {fault : AccessorFault} {allocated : Nat}
    {run : Run}
    (replied : heap.reply run.world node.object.identity method.name =
      (.error fault, allocated)) :
    node.answer heap method run =
      .error (.failed (extractionReport method fault))
        (run.note ⟨node.object.identity, method.name, .error fault⟩ allocated) := by
  rw [answer, Walk.bind_ok (Walk.invoke_error replied)]
  rfl

/-- Noting the origins of an answer never fails. -/
theorem record_ok (ledger : Ledger) (method : Method) (value : Value) (run : Run) :
    ∃ ledger' noted, ledger.record method value run = .ok ledger' noted := by
  cases ledger <;> exact ⟨_, _, rfl⟩

theorem overrides_traced (follows : attempt.Follows heap) (node : Node) (registry : Registry)
    (methods : List Method) : (ledger : Ledger) → {run : Run} → (ready : run.session.IsReady) →
    Traced heap (.methods node registry ledger methods) (.methods node registry ledger methods) run
      (node.overrides heap attempt registry (node.inner registry) ledger methods) := by
  induction methods with
  | nil => exact fun _ _ _ => .ok rfl .noMethod
  | cons method rest inductionHypothesis =>
    intro ledger run ready
    by_cases void : method.returns = .void
    · cases inductionHypothesis ledger ready with
      | error ended stopped =>
        refine .error ?_ (.skipped void stopped)
        rw [overrides, if_pos void, Walk.bind_error ended]
      | ok ended walked =>
        refine .ok ?_ (.skipped void walked)
        rw [overrides, if_pos void, Walk.bind_ok ended]
        rfl
    · cases replied : heap.reply run.world node.object.identity method.name with
      | mk outcome allocated =>
        cases outcome with
        | error fault =>
          refine .error ?_ (.unanswered void replied)
          rw [overrides, if_neg void,
            Walk.bind_error (Walk.annotatedAfter_error (answer_error replied))]
          rfl
        | ok value =>
          obtain ⟨ledger', noted, recorded⟩ := record_ok ledger method value
            ((run.note ⟨node.object.identity, method.name, .ok value⟩ allocated).retain value)
          have kept : noted.session.IsReady :=
            ready.of_memo_eq (Ledger.memo_of_record recorded)
          cases express_traced follows node registry method.returns value kept with
          | error ended stopped =>
            refine .error ?_ (.unexpressed void replied recorded stopped)
            rw [overrides, if_neg void, Walk.bind_ok (Walk.annotatedAfter_ok (answer_ok replied)),
              Walk.bind_ok recorded, Walk.bind_error (Walk.annotatedAfter_error ended)]
          | ok ended walked =>
            cases inductionHypothesis ledger' (walked.ready kept).2 with
            | error later stopped =>
              refine .error ?_ (.laterMethod void replied recorded walked stopped)
              rw [overrides, if_neg void,
                Walk.bind_ok (Walk.annotatedAfter_ok (answer_ok replied)), Walk.bind_ok recorded,
                Walk.bind_ok (Walk.annotatedAfter_ok ended), Walk.bind_error later]
            | ok later others =>
              refine .ok ?_ (.method void replied recorded walked others)
              rw [overrides, if_neg void,
                Walk.bind_ok (Walk.annotatedAfter_ok (answer_ok replied)), Walk.bind_ok recorded,
                Walk.bind_ok (Walk.annotatedAfter_ok ended), Walk.bind_ok later]
              rfl

end Node

/-! ### Whole nodes -/

/-- Generating a finished statement is no walk at all. -/
theorem Deferred.generate_finished (attempt : Attempt) (registry : Registry) (run : Run)
    {statement : Deferred} (done : statement.finished?.isSome) :
    statement.generate attempt registry run = .ok statement.finished run := by
  cases statement with
  | text content => rfl
  | failing details => cases done
  | snapshot number => cases done
  | node planned =>
    obtain ⟨content, cached⟩ := Option.isSome_iff_exists.mp done
    have finished : planned.cached = some content := cached
    rw [generate, Deferred.finished, finished?, finished]
    rfl

/-- Printing a finished expression leaves everything as it is. -/
theorem Code.valueSource_eq_pure (attempt : Attempt) (registry : Registry) {code : Code}
    (done : code.IsFinished) :
    code.valueSource (Deferred.generate attempt registry) = pure code.written :=
  funext fun run => Expr.valueSource_ok code fun statement member =>
    Deferred.generate_finished attempt registry run (done statement member)

/-- So does printing it as a whole, with one `return` in front of it if it has any. -/
theorem Code.source_eq_pure (attempt : Attempt) (registry : Registry) {code : Code}
    (done : code.IsFinished) :
    code.source (Deferred.generate attempt registry) =
      pure (if code.isReturn then "return " ++ code.written ++ ";" else code.written) :=
  funext fun run => Expr.source_ok code fun statement member =>
    Deferred.generate_finished attempt registry run (done statement member)

namespace Node

/-- Once the overriding methods are there, the class is printed without another step. -/
theorem classSource_ok {heap : Heap} {attempt : Attempt} {ledger : Ledger} {node : Node}
    {registry : Registry}
    {overrides : List (Override Deferred)} {run after : Run}
    (ended : node.overrides heap attempt registry (node.inner registry) ledger node.accessors run =
      .ok overrides after)
    (finished : Code.IsFinished (.anonymous node.target.declaredType overrides)) :
    node.classSource heap attempt ledger registry run =
      .ok (Code.written (.anonymous node.target.declaredType overrides)) after := by
  rw [classSource]
  refine (Walk.bind_ok ended).trans ?_
  rw [Expr.source, if_neg (by simp [Expr.isReturn]), Code.valueSource_eq_pure _ _ finished]
  rfl

theorem attempt_follows (heap : Heap) (fuel : Nat) : (attempt heap fuel).Follows heap := by
  induction fuel with
  | zero => exact fun _ _ _ _ _ => .outOfFuel rfl
  | succ fuel inductionHypothesis =>
    intro ledger node registry run ready
    cases overrides_traced inductionHypothesis node registry node.accessors ledger ready with
    | error ended stopped =>
      have failed : node.classSource heap (attempt heap fuel) ledger registry run = _ :=
        Walk.bind_error ended
      refine .error ?_ stopped
      rw [attempt, Walk.annotated_error (Walk.bind_error (Walk.ensuring_error failed))]
      rfl
    | ok ended walked =>
      refine .ok ?_ walked
      rw [attempt]
      exact Walk.annotated_ok
        (Walk.bind_ok (Walk.ensuring_ok (classSource_ok ended (walked.ready ready).1)))

end Node

end FrozenGraph
