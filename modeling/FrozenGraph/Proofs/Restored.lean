/-
This file shows that a walk gives its session back. However a walk ends, with an answer or with a
failure at any depth, the objects in progress are those that were in progress before, in their
order, and every expression that was known is known still. Nothing is asked of the session: its
chain may hold anything, and so may its memo, statements that are still to be generated among it.

Printing is a part of the walk here. A statement that opens a session of its own comes back to the
session around it; every other one is an expression that is printed without touching the session.
Only a walk without fuel has no end, and nothing is said of it.
-/

import FrozenGraph.Proofs.Cyclic

namespace FrozenGraph

/-! ### Sessions that are given back -/

/-- A session is given back: the same objects are in progress, and what was known is known. -/
structure Session.Restored (before after : Session) : Prop where
  chain_eq : after.chain = before.chain
  known : ∀ {identity code}, before.memo.find? identity = some code →
    after.memo.find? identity = some code

namespace Session.Restored

variable {before between after : Session}

theorem refl (session : Session) : Restored session session :=
  ⟨rfl, id⟩

theorem trans (first : Restored before between) (second : Restored between after) :
    Restored before after where
  chain_eq := second.chain_eq.trans first.chain_eq
  known found := second.known (first.known found)

theorem retain (session : Session) (value : Value) : Restored session (session.retain value) := by
  unfold Session.retain
  split <;> exact ⟨rfl, id⟩

theorem record (session : Session) (identity : Identity) (code : Code) :
    Restored session (session.record identity code) :=
  ⟨rfl, Memo.find?_record_of_some⟩

/-- An object leaves both chains. -/
theorem leave (restored : Restored before after) (identity : Identity) :
    Restored (before.leave identity) (after.leave identity) where
  chain_eq := congrArg (·.leave identity) restored.chain_eq
  known := restored.known

/-- The object that was put on the chain last leaves it as it was before. -/
theorem of_enter {run : Run} {object : LiveObject} {target : Target}
    (restored : Restored ((run.enter object target).session.leave object.identity) after) :
    Restored run.session after where
  chain_eq := by
    have left : ((run.enter object target).leave object.identity).session.chain =
        run.session.chain := Run.leave_chain_of_enter rfl
    exact restored.chain_eq.trans left
  known := restored.known

end Session.Restored

/-! ### Walks that give sessions back -/

namespace Walk

variable {α β : Type}

/-- What holds of the session in which a walk ends, with an answer or with a failure. -/
structure Leaves (walk : Walk α) (run : Run) (holds : Session → Prop) : Prop where
  answered : ∀ {answer after}, walk run = .ok answer after → holds after.session
  failed : ∀ {report after}, walk run = .error (.failed report) after → holds after.session

/-- A walk gives every session back. -/
def Restores (walk : Walk α) : Prop :=
  ∀ run : Run, walk.Leaves run run.session.Restored

namespace Leaves

variable {walk : Walk α} {run after : Run} {holds between : Session → Prop}

theorem of_ok {answer : α} (ended : walk run = .ok answer after) (held : holds after.session) :
    walk.Leaves run holds where
  answered same := by
    rw [ended] at same
    cases same
    exact held
  failed same := by
    rw [ended] at same
    cases same

theorem of_error {stop : Stop} (ended : walk run = .error stop after)
    (held : holds after.session) : walk.Leaves run holds where
  answered same := by
    rw [ended] at same
    cases same
  failed same := by
    rw [ended] at same
    cases same
    exact held

theorem of_outOfFuel (ended : walk run = .error .outOfFuel after) : walk.Leaves run holds where
  answered same := by
    rw [ended] at same
    cases same
  failed same := by
    rw [ended] at same
    cases same

/-- What a walk leaves depends on what it does only. -/
theorem of_eq {other : Walk α} {start : Run} (same : walk run = other start)
    (leaves : other.Leaves start holds) : walk.Leaves run holds where
  answered ended := leaves.answered (same.symm.trans ended)
  failed ended := leaves.failed (same.symm.trans ended)

theorem mono (leaves : walk.Leaves run between) (implies : ∀ {session}, between session →
    holds session) : walk.Leaves run holds where
  answered ended := implies (leaves.answered ended)
  failed ended := implies (leaves.failed ended)

theorem bind {next : α → Walk β} (first : walk.Leaves run between)
    (stays : ∀ {session}, between session → holds session)
    (later : ∀ answer after, between after.session → (next answer).Leaves after holds) :
    (walk >>= next).Leaves run holds := by
  cases ended : walk run with
  | ok answer after => exact .of_eq (bind_ok ended) (later answer after (first.answered ended))
  | error stop after =>
    cases stop with
    | failed report => exact .of_error (bind_error ended) (stays (first.failed ended))
    | outOfFuel => exact .of_outOfFuel (bind_error ended)

theorem annotatedAfter (leaves : walk.Leaves run holds) (note : Run → Report → Report) :
    (annotatedAfter note walk).Leaves run holds := by
  cases ended : walk run with
  | ok answer after => exact .of_ok (annotatedAfter_ok ended) (leaves.answered ended)
  | error stop after =>
    cases stop with
    | failed report => exact .of_error (annotatedAfter_error ended) (leaves.failed ended)
    | outOfFuel => exact .of_outOfFuel (annotatedAfter_error ended)

theorem ensuring {cleanup : Run → Run} (leaves : walk.Leaves run between)
    (cleaned : ∀ {after : Run}, between after.session → holds (cleanup after).session) :
    (ensuring cleanup walk).Leaves run holds := by
  cases ended : walk run with
  | ok answer after => exact .of_ok (ensuring_ok ended) (cleaned (leaves.answered ended))
  | error stop after =>
    cases stop with
    | failed report => exact .of_error (ensuring_error ended) (cleaned (leaves.failed ended))
    | outOfFuel => exact .of_outOfFuel (ensuring_error ended)

/-- A failure is handled, and stays one. -/
theorem tryCatch {handle : Stop → Walk α} (leaves : walk.Leaves run holds)
    (again : ∀ stop after, holds after.session → (handle stop).Leaves after holds)
    (spent : ∀ after, ∃ last, handle .outOfFuel after = .error .outOfFuel last) :
    (tryCatch walk handle : Walk α).Leaves run holds := by
  cases ended : walk run with
  | ok answer after => exact .of_ok (tryCatch_ok ended) (leaves.answered ended)
  | error stop after =>
    cases stop with
    | failed report =>
      exact .of_eq (tryCatch_error ended) (again _ after (leaves.failed ended))
    | outOfFuel =>
      obtain ⟨last, same⟩ := spent after
      exact .of_outOfFuel ((tryCatch_error ended).trans same)

end Leaves

namespace Restores

variable {walk : Walk α} {next : α → Walk β}

theorem pure (answer : α) : (pure answer : Walk α).Restores :=
  fun run => .of_ok rfl (.refl run.session)

theorem fail (report : Report) : (fail report : Walk α).Restores :=
  fun run => .of_error rfl (.refl run.session)

theorem lift (result : Except Report α) : (lift result).Restores := by
  cases result with
  | ok answer => exact pure answer
  | error report => exact fail report

theorem bind (first : walk.Restores) (later : ∀ answer, (next answer).Restores) :
    (walk >>= next).Restores := fun run =>
  (first run).bind id fun answer after restored =>
    (later answer after).mono restored.trans

/-- A walk may look at the state that it begins in. -/
theorem get {next : Run → Walk β} (later : ∀ run, (next run).Restores) :
    (get >>= next).Restores := fun run => .of_eq (bind_get next run) (later run run)

theorem annotatedAfter (restores : walk.Restores) (note : Run → Report → Report) :
    (annotatedAfter note walk).Restores := fun run => (restores run).annotatedAfter note

theorem retain (value : Value) : (retain value).Restores :=
  fun run => .of_ok rfl (.retain run.session value)

theorem record (identity : Identity) (code : Code) : (record identity code).Restores :=
  fun run => .of_ok rfl (.record run.session identity code)

theorem onSnapshot (number : Nat) (change : Snapshot → Snapshot) :
    (onSnapshot number change).Restores := fun run => .of_ok rfl (.refl run.session)

/-- A walk in another session comes back to this one. -/
theorem inSession (session : Session) (walk : Walk α) : (inSession session walk).Restores := by
  intro run
  cases ended : walk { run with session } with
  | ok answer after =>
    have back : Walk.inSession session walk run =
        .ok answer { after with session := run.session } := by rw [Walk.inSession, ended]
    exact .of_ok back (.refl run.session)
  | error stop after =>
    have back : Walk.inSession session walk run =
        .error stop { after with session := run.session } := by rw [Walk.inSession, ended]
    exact .of_error back (.refl run.session)

end Restores

end Walk

/-! ### Printing -/

namespace Expr

variable {δ : Type} {m : Type → Type} [Monad m] {generate : δ → m String}
  {holds : m String → Prop}

mutual

/-- What is kept by every statement of an expression, and by putting texts together, is kept by
printing the expression. -/
theorem valueSource_induction (given : ∀ text, holds (pure text))
    (chained : ∀ {first next}, holds first → (∀ text, holds (next text)) →
      holds (first >>= next))
    (generated : ∀ statement, holds (generate statement)) :
    (expression : Expr δ) → holds (expression.valueSource generate)
  | .literal value => given value.source
  | .reference name => given name
  | .raw text => given text
  | .anonymous extended overrides => by
    rw [valueSource]
    exact chained (overridesSource_induction given chained generated overrides) fun _ => given _
  | .list items => by
    rw [valueSource]
    exact chained (additionsSource_induction given chained generated items) fun _ => given _
  | .ret inner => by
    rw [valueSource]
    exact valueSource_induction given chained generated inner
  | .deferred statement => generated statement

theorem overridesSource_induction (given : ∀ text, holds (pure text))
    (chained : ∀ {first next}, holds first → (∀ text, holds (next text)) →
      holds (first >>= next))
    (generated : ∀ statement, holds (generate statement)) :
    (overrides : List (Override δ)) → holds (overridesSource generate overrides)
  | [] => given ""
  | .empty name returns :: rest => by
    rw [overridesSource]
    exact chained (overridesSource_induction given chained generated rest) fun _ => given _
  | .returning name returns value :: rest => by
    rw [overridesSource]
    exact chained (valueSource_induction given chained generated value) fun _ =>
      chained (overridesSource_induction given chained generated rest) fun _ => given _

theorem additionsSource_induction (given : ∀ text, holds (pure text))
    (chained : ∀ {first next}, holds first → (∀ text, holds (next text)) →
      holds (first >>= next))
    (generated : ∀ statement, holds (generate statement)) :
    (items : List (Expr δ)) → holds (additionsSource generate items)
  | [] => given ""
  | item :: rest => by
    rw [additionsSource]
    exact chained (valueSource_induction given chained generated item) fun _ =>
      chained (additionsSource_induction given chained generated rest) fun _ => given _

end

/-- A whole expression is a value, or a value in a `return` statement. -/
theorem source_induction (holds : m String → Prop) (given : ∀ text, holds (pure text))
    (chained : ∀ {first next}, holds first → (∀ text, holds (next text)) →
      holds (first >>= next))
    (generated : ∀ statement, holds (generate statement)) (expression : Expr δ) :
    holds (expression.source generate) := by
  have value := valueSource_induction given chained generated expression
  unfold source
  split
  · exact chained value fun _ => given _
  · exact value

end Expr

/-- Printing gives the session back: statements that open one come back from it. -/
theorem Deferred.generate_restores (attempt : Attempt) (registry : Registry)
    (statement : Deferred) : (statement.generate attempt registry).Restores := by
  cases statement with
  | text content => exact .pure content
  | failing details => exact .fail _
  | node planned =>
    rw [generate]
    split
    · exact .pure _
    · exact .inSession _ _
  | snapshot number =>
    rw [generate, snapshotText]
    refine .get fun run => ?_
    split
    · exact .fail _
    · split
      · exact .pure _
      · exact .inSession _ _

theorem Code.source_restores (attempt : Attempt) (registry : Registry) (code : Code) :
    (code.source (Deferred.generate attempt registry)).Restores :=
  Expr.source_induction Walk.Restores .pure .bind
    (Deferred.generate_restores attempt registry) code

/-! ### Nodes that are met on the way -/

/-- A way to render nodes gives every session back, but for the object of the node: that is on the
chain before, and is taken off. -/
def Attempt.Restores (attempt : Attempt) : Prop :=
  ∀ ledger node registry (run : Run), (attempt ledger node registry).Leaves run
    (run.session.leave node.object.identity).Restored

/-- An object is put on the chain, and what comes after that takes it off again. -/
theorem Node.enter_restores {α : Type} {node : Node} {next : Unit → Walk α}
    (later : ∀ run : Run, (next ()).Leaves run
      (run.session.leave node.object.identity).Restored) : (node.enter >>= next).Restores := by
  intro run
  have entered := node.enter_run run
  split at entered
  · exact .of_error (Walk.bind_error entered) (.refl run.session)
  · exact .of_eq (Walk.bind_ok entered) ((later _).mono Session.Restored.of_enter)

/-- Noting the origins of an answer does not touch the session. -/
theorem Ledger.record_restores (ledger : Ledger) (method : Method) (value : Value) :
    (ledger.record method value).Restores := by
  cases ledger with
  | own origins => exact .pure _
  | ofSnapshot number => exact .bind (.onSnapshot number _) fun _ => .pure _

section Steps

variable {attempt : Attempt} (restores : attempt.Restores)

include restores

theorem Node.renderFresh_restores (node : Node) (registry : Registry) :
    (node.renderFresh attempt registry).Restores :=
  Node.enter_restores (restores .empty node registry)

theorem renderRoot_restores (number : Nat) (registry : Registry) :
    (renderRoot attempt number registry).Restores := by
  rw [renderRoot]
  refine .get fun run => ?_
  split
  · exact .fail _
  · rename_i snapshot _
    dsimp only
    split
    · exact .pure _
    · exact .fail _
    · refine Node.enter_restores fun run => .of_eq (Walk.bind_ok rfl) ?_
      -- Whether the attempt fails or not, what is left to do changes roots only.
      refine .bind (.tryCatch (restores _ _ _ _) (fun stop after restored => ?_) fun after => ?_)
        id fun text after restored => ?_
      · exact .of_error (Walk.bind_ok rfl) restored
      · exact ⟨_, Walk.bind_ok rfl⟩
      · exact .of_ok (Walk.bind_ok rfl) restored

theorem expandObject_restores (registry : Registry) (expansions : Expansions) (object : LiveObject)
    (target : Target) : (expandObject attempt registry expansions object target).Restores := by
  rw [expandObject]
  refine .get fun run => ?_
  split
  · exact .pure _
  · exact .bind (.lift _) fun node => .bind (Node.renderFresh_restores restores node registry)
      fun _ => .bind (.record _ _) fun _ => .pure _

namespace Encode

omit restores

variable {expand : LiveObject → Target → Walk Code}

mutual

/-- The encoder gives sessions back where the expansion of objects does. -/
theorem value_restores (expands : ∀ object target, (expand object target).Restores)
    (registry : Registry) (expansions : Expansions) (declared : Option DeclaredType) :
    (value : Value) → (Encode.value expand registry expansions declared value).Restores
  | .scalar scalar => .pure _
  | .list identity items => by
    rw [Encode.value]
    refine .get fun run => ?_
    split
    · exact .pure _
    · exact .bind (allItems_restores expands registry expansions items) fun _ =>
        .bind (.record _ _) fun _ => .pure _
  | .object live => by
    rw [Encode.value]
    refine .get fun run => ?_
    split
    · exact .pure _
    · split
      · exact .fail _
      · exact expands live _

theorem allItems_restores (expands : ∀ object target, (expand object target).Restores)
    (registry : Registry) (expansions : Expansions) :
    (items : List Value) → (Encode.allItems expand registry expansions items).Restores
  | [] => .pure _
  | first :: rest => by
    rw [Encode.allItems]
    exact .bind (.retain _) fun _ =>
      .bind (value_restores expands registry expansions none first) fun _ =>
        .bind (allItems_restores expands registry expansions rest) fun _ => .pure _

end

end Encode

/-! ### One node -/

namespace Node

theorem express_restores (node : Node) (registry inner : Registry) (declared : DeclaredType)
    (value : Value) : (node.express attempt registry inner declared value).Restores := by
  have recorded : ∀ code, (recording value code).Restores := by
    intro code
    unfold recording
    split
    · exact .bind (.record _ _) fun _ => .pure _
    · exact .pure _
  have expands := expandObject_restores restores inner node.expansions
  rw [express]
  refine .get fun run => .bind (.lift _) fun route => ?_
  dsimp only
  split
  · exact .bind (.pure _) recorded
  · exact .bind (.pure _) recorded
  · exact .bind (Encode.value_restores expands inner node.expansions _ _) recorded
  · exact .bind (expands _ _) recorded
  · exact .bind (.fail _) recorded

omit restores in
theorem answer_restores (heap : Heap) (node : Node) (method : Method) :
    (node.answer heap method).Restores := by
  intro run
  cases replied : heap.reply run.world node.object.identity method.name with
  | mk outcome allocated =>
    cases outcome with
    | error fault => exact .of_error (answer_error replied) (.refl run.session)
    | ok value => exact .of_ok (answer_ok replied) (.retain run.session value)

theorem overrides_restores (heap : Heap) (node : Node) (registry inner : Registry)
    (methods : List Method) : ∀ ledger,
    (node.overrides heap attempt registry inner ledger methods).Restores := by
  induction methods with
  | nil => exact fun _ => .pure _
  | cons method rest inductionHypothesis =>
    intro ledger
    rw [overrides]
    split
    · exact .bind (inductionHypothesis ledger) fun _ => .pure _
    · refine .bind ((answer_restores heap node method).annotatedAfter _) fun value => ?_
      refine .bind (Ledger.record_restores ledger method value) fun ledger => ?_
      refine .bind ((express_restores restores node registry inner _ value).annotatedAfter _)
        fun _ => ?_
      exact .bind (inductionHypothesis ledger) fun _ => .pure _

theorem classSource_restores (heap : Heap) (ledger : Ledger) (node : Node)
    (registry : Registry) : (node.classSource heap attempt ledger registry).Restores := by
  rw [classSource]
  exact .bind (overrides_restores restores heap node registry _ _ ledger) fun _ =>
    Code.source_restores attempt _ _

end Node

end Steps

/-- Whatever fuel there is, a node that ends is off the chain, and all else is given back. -/
theorem Node.attempt_restores (heap : Heap) (fuel : Nat) : (attempt heap fuel).Restores := by
  induction fuel with
  | zero => exact fun _ _ _ _ => .of_outOfFuel rfl
  | succ fuel inductionHypothesis =>
    intro ledger node registry run
    have source := classSource_restores inductionHypothesis heap ledger node registry run
    rw [attempt]
    refine .annotatedAfter (.bind (source.ensuring ?_) id fun source after restored => ?_) _
    · exact fun restored => restored.leave node.object.identity
    · exact .of_ok rfl restored

/-! ### Renderings that are refused -/

/-- A walk is refused as a cycle of all that is in progress, and leaves everything as it is. -/
def Walk.Refused {α : Type} (walk : Walk α) (run : Run) : Prop :=
  ∃ report, walk run = .error (.failed report) run ∧
    report.fault = .cycle run.session.chain.members

theorem Walk.Refused.bind {α β : Type} {walk : Walk α} {next : α → Walk β} {run : Run}
    (refused : walk.Refused run) : (walk >>= next).Refused run := by
  obtain ⟨report, ended, cycle⟩ := refused
  exact ⟨report, bind_error ended, cycle⟩

section Refusals

variable {attempt : Attempt} {registry : Registry} {run : Run}

theorem Node.enter_refused {node : Node}
    (busy : run.session.chain.contains node.object.identity) : node.enter.Refused run := by
  have entered := node.enter_run run
  rw [if_pos busy] at entered
  exact ⟨_, entered, rfl⟩

theorem Node.renderFresh_refused {node : Node}
    (busy : run.session.chain.contains node.object.identity) :
    (node.renderFresh attempt registry).Refused run :=
  (enter_refused busy).bind

/-- A root that is in progress is refused unless its text is there or it failed before. -/
theorem renderRoot_refused {number : Nat} {snapshot : Snapshot}
    (placed : run.world.snapshots[number]? = some snapshot)
    (uncached : snapshot.root.cached = none) (unfailed : snapshot.root.state ≠ .failed)
    (busy : run.session.chain.contains snapshot.root.object.identity) :
    (renderRoot attempt number registry).Refused run := by
  obtain ⟨report, ended, cycle⟩ := Node.enter_refused busy
  refine ⟨report, ?_, cycle⟩
  rw [renderRoot, Walk.bind_get, placed]
  simp only [uncached]
  cases state : snapshot.root.state with
  | failed => exact absurd state unfailed
  | pending | inProgress | complete => exact Walk.bind_error ended

theorem expandObject_refused {expansions : Expansions} {object : LiveObject} {target : Target}
    {node : Node} (unknown : run.session.memo.find? object.identity = none)
    (built : Node.build object target expansions = .ok node)
    (busy : run.session.chain.contains object.identity) :
    (expandObject attempt registry expansions object target).Refused run := by
  obtain ⟨rfl, _, _, _, _, _, _⟩ := Node.built_of_build built
  have refused : (node.renderFresh attempt registry).Refused run :=
    Node.renderFresh_refused busy
  obtain ⟨report, ended, cycle⟩ := refused
  refine ⟨report, ?_, cycle⟩
  rw [expandObject, Walk.bind_get, unknown, built]
  -- What is left after the node was built is what `ended` is about.
  exact (Walk.bind_lift_ok node _ run).trans (Walk.bind_error ended)

theorem Encode.value_refused {expansions : Expansions} {declared : Option DeclaredType}
    {object : LiveObject} {target : Target} {node : Node}
    (unknown : run.session.memo.find? object.identity = none)
    (fits : targetFor? registry expansions declared object.runtime = some target)
    (built : Node.build object target expansions = .ok node)
    (busy : run.session.chain.contains object.identity) :
    (Encode.value (expandObject attempt registry expansions) registry expansions declared
      (.object object)).Refused run := by
  have refused : (expandObject attempt registry expansions object target).Refused run :=
    expandObject_refused unknown built busy
  obtain ⟨report, ended, cycle⟩ := refused
  refine ⟨report, ?_, cycle⟩
  rw [Encode.value, Walk.bind_get, unknown, fits]
  exact ended

end Refusals

/-! ### Every walk -/

namespace Heap

/-- Roots, nodes, objects that are met and values that are written give the session back, whatever
it holds and however they end. What is in progress already is refused, and nothing changes then. -/
theorem walks_restore_sessions (heap : Heap) (fuel : Nat) (registry : Registry) :
    ((∀ number, (renderRoot (Node.attempt heap fuel) number registry).Restores) ∧
      ∀ number snapshot (run : Run), run.world.snapshots[number]? = some snapshot →
        snapshot.root.cached = none → snapshot.root.state ≠ .failed →
        run.session.chain.contains snapshot.root.object.identity →
        (renderRoot (Node.attempt heap fuel) number registry).Refused run) ∧
    ((∀ node : Node, (node.renderFresh (Node.attempt heap fuel) registry).Restores) ∧
      ∀ (node : Node) (run : Run), run.session.chain.contains node.object.identity →
        (node.renderFresh (Node.attempt heap fuel) registry).Refused run) ∧
    ((∀ expansions object target,
        (expandObject (Node.attempt heap fuel) registry expansions object target).Restores) ∧
      ∀ expansions object target node (run : Run),
        run.session.memo.find? object.identity = none →
        Node.build object target expansions = .ok node →
        run.session.chain.contains object.identity →
        (expandObject (Node.attempt heap fuel) registry expansions object target).Refused run) ∧
    ((∀ expansions declared value,
        (Encode.value (expandObject (Node.attempt heap fuel) registry expansions) registry
          expansions declared value).Restores) ∧
      ∀ expansions declared object target node (run : Run),
        run.session.memo.find? object.identity = none →
        Encode.targetFor? registry expansions declared object.runtime = some target →
        Node.build object target expansions = .ok node →
        run.session.chain.contains object.identity →
        (Encode.value (expandObject (Node.attempt heap fuel) registry expansions) registry
          expansions declared (.object object)).Refused run) := by
  have restores := Node.attempt_restores heap fuel
  have expands := expandObject_restores restores registry
  refine ⟨⟨?_, ?_⟩, ⟨?_, ?_⟩, ⟨expands, ?_⟩, ⟨?_, ?_⟩⟩
  · exact fun number => renderRoot_restores restores number registry
  · exact fun _ _ _ placed uncached unfailed busy =>
      renderRoot_refused placed uncached unfailed busy
  · exact fun node => node.renderFresh_restores restores registry
  · exact fun _ _ busy => Node.renderFresh_refused busy
  · exact fun _ _ _ _ _ unknown built busy => expandObject_refused unknown built busy
  · exact fun expansions declared value =>
      Encode.value_restores (expands expansions) registry expansions declared value
  · exact fun _ _ _ _ _ _ unknown fits built busy =>
      Encode.value_refused unknown fits built busy

end Heap

namespace Ring

/-- A stranger to the heap. -/
def stranger : Identity :=
  .entry "stranger"

/-- A session in the middle of something else: objects are in progress, and what is known of one of
them cannot even be generated. -/
def busySession (progress : List Identity) : Session where
  chain := ⟨progress.map (⟨·, "busy"⟩)⟩
  memo := ⟨[(stranger, .deferred (.failing "never there"))]⟩
  retained := []

theorem stopped_in_busySession :
    ∃ report after, renderRoot (Node.attempt heap 3) 0 .root ⟨world, busySession [stranger]⟩ =
        .error (.failed report) after ∧
      report.fault.cycleMembers? = some [stranger, first.identity, second.identity] := by
  have cycle : (match renderRoot (Node.attempt heap 3) 0 .root
        ⟨world, busySession [stranger]⟩ with
      | .ok _ _ => none
      | .error stop _ => stop.cycle?) = some [stranger, first.identity, second.identity] := by
    decide +kernel
  cases ended : renderRoot (Node.attempt heap 3) 0 .root ⟨world, busySession [stranger]⟩ with
  | ok text after =>
    rw [ended] at cycle
    cases cycle
  | error stop after =>
    rw [ended] at cycle
    cases stop with
    | failed report => exact ⟨report, after, rfl, cycle⟩
    | outOfFuel => cases cycle

theorem walks_restore_sessions_busy :
    (∃ report after, renderRoot (Node.attempt heap 3) 0 .root ⟨world, busySession [stranger]⟩ =
        .error (.failed report) after ∧
      report.fault.cycleMembers? = some [stranger, first.identity, second.identity] ∧
      (busySession [stranger]).Restored after.session) ∧
    (renderRoot (Node.attempt heap 3) 0 .root).Refused
      ⟨world, busySession [stranger, first.identity]⟩ := by
  obtain ⟨restores, refuses⟩ := (Heap.walks_restore_sessions heap 3 .root).1
  obtain ⟨report, after, ended, cycle⟩ := stopped_in_busySession
  refine ⟨⟨report, after, ended, cycle, (restores 0 _).failed ended⟩, ?_⟩
  exact refuses 0 snapshot ⟨world, busySession [stranger, first.identity]⟩ rfl rfl (by decide)
    (by decide)

end Ring

end FrozenGraph
