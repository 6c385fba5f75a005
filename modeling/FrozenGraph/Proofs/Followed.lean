/-
This file follows two walks side by side over heaps that are the same up to a renaming. A walk can
do three things with an identity: search a table for it, compare it with another one, and show it in
a message. Each step is shown to do the same on both sides, and what is put together of such steps
does so too; so the whole recursion does, fuel and failures and all. Nothing is assumed about the
statements in expressions: what they generate is followed as well.
-/

import FrozenGraph.Proofs.Paired

namespace FrozenGraph

variable (names : Renaming)

/-! ### Walks side by side -/

/-- Walks go side by side if their states are the same up to a renaming, and so is why they end. -/
def Pairing.renaming : Pairing where
  states := Run.Renamed names
  stops := Stop.Renamed names

/-- Two walks do the same wherever their states are the same up to a renaming. -/
abbrev Walk.Renamed {α α' : Type} (answers : α → α' → Prop) (walk : Walk α) (walk' : Walk α') :
    Prop :=
  (Pairing.renaming names).Walks answers walk walk'

theorem Stop.Renamed.annotate {names} {stop stop' : Stop} (reason : stop.Renamed names stop')
    {note note' : Report → Report}
    (noted : ∀ {report report'}, report.Renamed names report' →
      (note report).Renamed names (note' report')) :
    (stop.annotate note).Renamed names (stop'.annotate note') := by
  cases reason with
  | failed same => exact .failed (noted same)
  | outOfFuel => exact .outOfFuel

namespace Walk

variable {names}

section Ends

variable {α α' : Type} {answers : α → α' → Prop} {walk : Walk α} {walk' : Walk α'}

theorem fail_renamed {report report' : Report} (same : report.Renamed names report') :
    Walk.Renamed names answers (fail report) (fail report') :=
  .throw (.failed same)

theorem lift_renamed {result : Except Report α} {result' : Except Report α'}
    (same : Except.Lifted (Report.Renamed names) answers result result') :
    Walk.Renamed names answers (lift result) (lift result') :=
  .lift .failed same

theorem annotatedAfter_renamed {note note' : Run → Report → Report}
    (same : Walk.Renamed names answers walk walk')
    (noted : ∀ {run run'}, run.Renamed names run' → ∀ {report report'},
      report.Renamed names report' → (note run report).Renamed names (note' run' report')) :
    Walk.Renamed names answers (annotatedAfter note walk) (annotatedAfter note' walk') :=
  same.annotatedAfter fun state _ _ reason => Stop.Renamed.annotate reason (noted state)

theorem annotated_renamed {note note' : Report → Report}
    (same : Walk.Renamed names answers walk walk')
    (noted : ∀ {report report'}, report.Renamed names report' →
      (note report).Renamed names (note' report')) :
    Walk.Renamed names answers (annotated note walk) (annotated note' walk') :=
  annotatedAfter_renamed same fun _ => noted

/-- Walks in other sessions leave the sessions as they were. -/
theorem inSession_renamed {session session' : Session} (sessions : session.Renamed names session')
    (same : Walk.Renamed names answers walk walk') :
    Walk.Renamed names answers (inSession session walk) (inSession session' walk') :=
  same.inSession (fun state => ⟨state.world, sessions⟩) fun state after =>
    ⟨after.world, state.session⟩

end Ends

/-! ### Single steps -/

theorem onSession_renamed {change change' : Session → Session}
    (same : ∀ {session session'}, session.Renamed names session' →
      (change session).Renamed names (change' session')) :
    Walk.Renamed names Eq (onSession change) (onSession change') :=
  .modify fun state => ⟨state.world, same state.session⟩

theorem retain_renamed (value value' : Value) :
    Walk.Renamed names Eq (retain value) (retain value') :=
  onSession_renamed fun same => same.retain value value'

theorem record_renamed {identity identity' : Identity} (named : names identity identity')
    {code code' : Code} (written : code.Renamed names code') :
    Walk.Renamed names Eq (record identity code) (record identity' code') :=
  onSession_renamed fun same => same.record named written

theorem enter_renamed {identity identity' : Identity} (named : names identity identity')
    (description description' : String) :
    Walk.Renamed names Eq (enter identity description) (enter identity' description') :=
  .bind .get fun state =>
    .bind (lift_renamed (state.session.enter named description description')) fun entered =>
      onSession_renamed fun _ => entered

theorem onSnapshot_renamed {change change' : Snapshot → Snapshot}
    (changed : ∀ {snapshot snapshot'}, snapshot.Renamed names snapshot' →
      (change snapshot).Renamed names (change' snapshot')) (number : Nat) :
    Walk.Renamed names Eq (onSnapshot number change) (onSnapshot number change') :=
  .modify fun ⟨⟨history, renderings, allocated, snapshots⟩, session⟩ =>
    ⟨⟨history, renderings, allocated, modify_of_forall₂ snapshots changed number⟩, session⟩

theorem onRoot_renamed {change change' : Node → Node}
    (changed : ∀ {node node'}, node.Renamed names node' →
      (change node).Renamed names (change' node')) (number : Nat) :
    Walk.Renamed names Eq (onRoot number change) (onRoot number change') := by
  unfold onRoot
  refine onSnapshot_renamed ?_ number
  exact fun same => ⟨changed same.root, same.canned, same.origins⟩

theorem note_renamed {invocation invocation' : Invocation}
    (same : invocation.Renamed names invocation') :
    Walk.Renamed names Eq (note invocation) (note invocation') :=
  .modify fun ⟨⟨history, renderings, allocated, snapshots⟩, session⟩ =>
    ⟨⟨.cons same history, renderings, allocated, snapshots⟩, session⟩

theorem begin_renamed {rendering rendering' : Rendering}
    (same : rendering.Renamed names rendering') :
    Walk.Renamed names Eq (begin rendering) (begin rendering') :=
  .modify fun ⟨⟨history, renderings, allocated, snapshots⟩, session⟩ =>
    ⟨⟨history, .cons same renderings, allocated, snapshots⟩, session⟩

section Heaps

variable {heap heap' : Heap} (heaps : heap.Renamed names heap')

include heaps

theorem materialize_renamed {template template' : Template}
    (same : template.Renamed names template') :
    Walk.Renamed names (Value.Renamed names) (materialize heap template)
      (materialize heap' template') := by
  refine ⟨fun {run run'} state => ?_⟩
  obtain ⟨value, allocated⟩ := same.materialize heaps.supply template run.world.allocated
  refine .ok ?_ ⟨⟨state.world.history, state.world.renderings, ?_, state.world.snapshots⟩,
    state.session⟩
  · rw [state.world.allocated]
    exact value
  · rw [state.world.allocated]
    exact allocated

/-- An accessor answers the same on both sides, or fails in the same way. -/
theorem invoke_renamed {object object' : LiveObject} (same : object.Renamed names object')
    (accessor : String) :
    Walk.Renamed names (Except.Lifted names.faults (Value.Renamed names))
      (invoke heap object accessor) (invoke heap' object' accessor) := by
  have noted {outcome outcome' : Except AccessorFault Value}
      (related : Except.Lifted names.faults (Value.Renamed names) outcome outcome') :
      Walk.Renamed names (Except.Lifted names.faults (Value.Renamed names))
        (do note ⟨object.identity, accessor, outcome⟩; pure outcome)
        (do note ⟨object'.identity, accessor, outcome'⟩; pure outcome') :=
    .bind (note_renamed ⟨same.identity, rfl, related⟩) fun _ => .pure related
  refine .bind .get fun {run run'} state => ?_
  have answered := heaps.answer accessor state.world.history same.identity
  generalize heap.answer run.world.history object.identity accessor = answer at answered ⊢
  generalize heap'.answer run'.world.history object'.identity accessor = answer' at answered ⊢
  cases answered with
  | error alike => exact noted (.error alike)
  | ok template =>
    exact .bind (materialize_renamed heaps template) fun value => noted (.ok value)

end Heaps

end Walk

/-! ### Objects that are met on the way -/

variable {names}

namespace Node

/-- Objects that stand for each other can be planned as the same targets. -/
theorem build_renamed {object object' : LiveObject} (same : object.Renamed names object')
    (target : Target) (expansions : Expansions) :
    Except.Lifted (Report.Renamed names) (Node.Renamed names) (build object target expansions)
      (build object' target expansions) := by
  have extendable : Except.Lifted (Report.Renamed names) Eq (checkExtendable target)
      (checkExtendable target) := by
    unfold checkExtendable
    cases target.obstacle? with
    | none => exact .ok rfl
    | some obstacle => cases obstacle <;> exact .error (.ofFault (.invalid _))
  have listed : Except.Lifted (Report.Renamed names) Eq target.accessors target.accessors := by
    unfold Target.accessors
    split
    · exact .error ((Report.Renamed.ofFault (.invalid _)).addText _ _)
    · exact .ok rfl
  unfold build
  refine extendable.bind fun _ _ _ => ?_
  rw [same.runtime]
  split
  · refine listed.bind fun accessors accessors' equal => ?_
    exact .ok ⟨same, rfl, equal.symm, rfl, rfl, rfl⟩
  · exact .error ((Report.Renamed.ofFault (.invalid _)).addText _ _)

theorem noteOn_renamed (node node' : Node) {report report' : Report}
    (same : report.Renamed names report') :
    (node.noteOn report).Renamed names (node'.noteOn report') :=
  same.addText _ _

namespace Renamed

variable {node node' : Node} (same : node.Renamed names node')

include same

theorem start : node.start.Renamed names node'.start :=
  ⟨same.object, same.target, same.accessors, same.expansions, rfl, same.cached⟩

theorem fail : node.fail.Renamed names node'.fail :=
  ⟨same.object, same.target, same.accessors, same.expansions, rfl, same.cached⟩

theorem complete (text : String) : (node.complete text).Renamed names (node'.complete text) :=
  ⟨same.object, same.target, same.accessors, same.expansions, rfl,
    congrArg (fun cached : Option String => some (cached.getD text)) same.cached⟩

theorem enter : Walk.Renamed names Eq node.enter node'.enter :=
  .bind (Walk.annotated_renamed (Walk.enter_renamed same.object.identity _ _)
    (noteOn_renamed node node'))
    fun _ =>
    Walk.begin_renamed ⟨same.object.identity, same.target⟩

end Renamed

end Node

/-- Two places keep the same origins. -/
inductive Ledger.Renamed (names : Renaming) : Ledger → Ledger → Prop
  | own {origins origins'} (same : origins.Renamed names origins') :
    Renamed names (.own origins) (.own origins')
  | ofSnapshot (number : Nat) : Renamed names (.ofSnapshot number) (.ofSnapshot number)

theorem Ledger.Renamed.empty : Ledger.empty.Renamed names .empty :=
  .own .empty

/-- Two ways to render nodes do the same with nodes that stand for each other. -/
def Attempt.Renamed (names : Renaming) (attempt attempt' : Attempt) : Prop :=
  ∀ {ledger ledger' node node'} (registry : Registry), ledger.Renamed names ledger' →
    node.Renamed names node' →
    Walk.Renamed names Eq (attempt ledger node registry) (attempt' ledger' node' registry)

section Attempts

variable {attempt attempt' : Attempt} (attempts : Attempt.Renamed names attempt attempt')

include attempts

theorem Node.Renamed.renderFresh {node node' : Node} (same : node.Renamed names node')
    (registry : Registry) :
    Walk.Renamed names Eq (node.renderFresh attempt registry)
      (node'.renderFresh attempt' registry) :=
  .bind same.enter fun _ => attempts registry .empty same

theorem expandObject_renamed {object object' : LiveObject} (same : object.Renamed names object')
    (registry : Registry) (expansions : Expansions) (target : Target) :
    Walk.Renamed names (Code.Renamed names)
      (expandObject attempt registry expansions object target)
      (expandObject attempt' registry expansions object' target) := by
  refine .bind .get fun {run run'} state => ?_
  have found := state.session.memo.find? same.identity
  generalize run.session.memo.find? object.identity = known at found ⊢
  generalize run'.session.memo.find? object'.identity = known' at found ⊢
  cases found with
  | some code => exact .pure code
  | none =>
    refine .bind (Walk.lift_renamed (Node.build_renamed same target expansions)) fun node => ?_
    refine .bind (node.renderFresh attempts registry) fun {text text'} equal => ?_
    subst equal
    have code : Code.Renamed names _ _ := .deferred (.node (node.complete text))
    exact .bind (Walk.record_renamed same.identity code) fun _ => .pure code

end Attempts

/-! ### Values -/

namespace Route

/-- Two ways to write an answer are the same. -/
inductive Renamed (names : Renaming) : Route → Route → Prop
  | null : Renamed names .null .null
  | known {code code'} (same : Code.Renamed names code code') :
    Renamed names (.known code) (.known code')
  | literal : Renamed names .literal .literal
  | expand (target : Target) : Renamed names (.expand target) (.expand target)

variable {value value' : Value} {session session' : Session}

theorem notLiteralReport_renamed (same : value.Renamed names value') :
    (notLiteralReport value).Renamed names (notLiteralReport value') := by
  rw [notLiteralReport, notLiteralReport, same.typeName_eq]
  exact .ofFault (.notLiteral _ same.identity?)

theorem known?_renamed (same : value.Renamed names value')
    (sessions : session.Renamed names session') :
    Option.Rel (Code.Renamed names) (known? session value) (known? session' value') := by
  cases same with
  | scalar _ => exact .none
  | list named _ => exact sessions.memo.find? named
  | object same => exact sessions.memo.find? same.identity

theorem isInProgress_eq (same : value.Renamed names value')
    (sessions : session.Renamed names session') :
    isInProgress session'.chain value' = isInProgress session.chain value := by
  cases same with
  | scalar _ => rfl
  | list named _ => exact sessions.chain.contains_eq named
  | object same => exact sessions.chain.contains_eq same.identity

/-- The way to write an answer is the same, and so is the reason why there is none. -/
theorem choose_renamed (registry : Registry) (expansions : Expansions) (declared : DeclaredType)
    (same : value.Renamed names value') (sessions : session.Renamed names session') :
    Except.Lifted (Report.Renamed names) (Renamed names)
      (choose registry expansions session declared value)
      (choose registry expansions session' declared value') := by
  have found := known?_renamed same sessions
  rw [choose, choose, same.isNull_eq, isInProgress_eq same sessions]
  split
  · exact .ok .null
  · generalize known? session value = known at found ⊢
    generalize known? session' value' = known' at found ⊢
    cases found with
    | some code => exact .ok (.known code)
    | none =>
      show Except.Lifted _ _ (ite _ _ _) (ite _ _ _)
      split
      · exact .ok .literal
      · cases expansions.byDeclared? declared with
        | some target =>
          show Except.Lifted _ _ (ite _ _ _) (ite _ _ _)
          split
          · exact .error sessions.chain.cycleReport
          · exact .ok (.expand target)
        | none => exact .error ((notLiteralReport_renamed same).addText _ _)

end Route

namespace Encode

variable {expand expand' : LiveObject → Target → Walk Code} (registry : Registry)
  (expansions : Expansions)

mutual

/-- Values that are built alike are written alike, if objects are expanded alike. -/
theorem value_renamed (expands : ∀ ⦃object object'⦄, object.Renamed names object' → ∀ target,
      Walk.Renamed names (Code.Renamed names) (expand object target) (expand' object' target))
    (declared : Option DeclaredType) : (content : Value) → {content' : Value} →
    content.Renamed names content' →
    Walk.Renamed names (Code.Renamed names)
      (Encode.value expand registry expansions declared content)
      (Encode.value expand' registry expansions declared content')
  | .scalar scalar, _, .scalar _ => .pure (.literal scalar)
  | .list identity items, .list identity' _, .list named all => by
    rw [Encode.value, Encode.value]
    refine .bind .get fun {run run'} state => ?_
    have found := state.session.memo.find? named
    generalize run.session.memo.find? identity = known at found ⊢
    generalize run'.session.memo.find? identity' = known' at found ⊢
    cases found with
    | some code => exact .pure code
    | none =>
      refine .bind (allItems_renamed expands items all) fun elements => ?_
      exact .bind (Walk.record_renamed named (.list elements)) fun _ => .pure (.list elements)
  | .object live, .object live', .object same => by
    rw [Encode.value, Encode.value, same.runtime]
    refine .bind .get fun {run run'} state => ?_
    have found := state.session.memo.find? same.identity
    generalize run.session.memo.find? live.identity = known at found ⊢
    generalize run'.session.memo.find? live'.identity = known' at found ⊢
    cases found with
    | some code => exact .pure code
    | none =>
      cases targetFor? registry expansions declared live.runtime with
      | some target => exact expands same target
      | none =>
        exact Walk.fail_renamed ((Route.notLiteralReport_renamed (.object same)).addText _ _)

theorem allItems_renamed (expands : ∀ ⦃object object'⦄, object.Renamed names object' → ∀ target,
      Walk.Renamed names (Code.Renamed names) (expand object target) (expand' object' target)) :
    (items : List Value) → {items' : List Value} → Value.AllRenamed names items items' →
    Walk.Renamed names (Expr.ItemsLifted (Deferred.Renamed names))
      (Encode.allItems expand registry expansions items)
      (Encode.allItems expand' registry expansions items')
  | [], _, .nil => .pure .nil
  | first :: rest, _, .cons head tail => by
    rw [Encode.allItems, Encode.allItems]
    refine .bind (Walk.retain_renamed _ _) fun _ => ?_
    refine .bind (value_renamed expands none first head) fun code => ?_
    exact .bind (allItems_renamed expands rest tail) fun codes => .pure (.cons code codes)

end

end Encode

/-! ### Snapshots and statements -/

/-- The roots under a number have the same text, if any. -/
theorem World.Renamed.cached_eq {world world' : World} (same : world.Renamed names world')
    (number : Nat) :
    world'.snapshots[number]?.bind (·.root.cached) =
      world.snapshots[number]?.bind (·.root.cached) := by
  have found := getElem?_of_forall₂ same.snapshots number
  generalize world.snapshots[number]? = placed at found ⊢
  generalize world'.snapshots[number]? = placed' at found ⊢
  cases found with
  | none => rfl
  | some same => exact same.root.cached

section Attempts

variable {attempt attempt' : Attempt} (attempts : Attempt.Renamed names attempt attempt')
  (registry : Registry)

include attempts

theorem renderRoot_renamed (number : Nat) :
    Walk.Renamed names Eq (renderRoot attempt number registry)
      (renderRoot attempt' number registry) := by
  refine .bind .get fun {run run'} state => ?_
  have found := getElem?_of_forall₂ state.world.snapshots number
  generalize run.world.snapshots[number]? = placed at found ⊢
  generalize run'.world.snapshots[number]? = placed' at found ⊢
  cases found with
  | none => exact Walk.fail_renamed (.ofFault (.failed _))
  | @some snapshot snapshot' same =>
    have root := same.root
    dsimp only
    rw [root.cached, root.state]
    split
    · exact .pure rfl
    · exact Walk.fail_renamed (.ofFault (.failed _))
    · refine .bind root.enter fun _ => ?_
      refine .bind (Walk.onRoot_renamed Node.Renamed.start number) fun _ => ?_
      have tried := attempts registry (.ofSnapshot number) root
      refine .bind (tried.tryCatch fun reason => ?_) fun {text text'} equal => ?_
      · exact .bind (Walk.onRoot_renamed Node.Renamed.fail number) fun _ => .throw reason
      · subst equal
        refine .bind (Walk.onRoot_renamed (fun node => node.complete text) number) fun _ => ?_
        exact .bind .get fun state => .pure (by rw [state.world.cached_eq])

theorem snapshotText_renamed (number : Nat) :
    Walk.Renamed names Eq (snapshotText attempt number registry)
      (snapshotText attempt' number registry) := by
  refine .bind .get fun {run run'} state => ?_
  have found := getElem?_of_forall₂ state.world.snapshots number
  generalize run.world.snapshots[number]? = placed at found ⊢
  generalize run'.world.snapshots[number]? = placed' at found ⊢
  cases found with
  | none => exact Walk.fail_renamed (.ofFault (.failed _))
  | some same =>
    dsimp only
    rw [same.root.cached]
    split
    · exact .pure rfl
    · exact Walk.inSession_renamed (.opening same.canned)
        (renderRoot_renamed attempts registry number)

theorem Deferred.generate_renamed ⦃statement statement' : Deferred⦄
    (same : statement.Renamed names statement') :
    Walk.Renamed names Eq (statement.generate attempt registry)
      (statement'.generate attempt' registry) := by
  cases same with
  | text content => exact .pure rfl
  | failing details => exact Walk.fail_renamed (.ofFault (.failed _))
  | snapshot number => exact snapshotText_renamed attempts registry number
  | @node node node' same =>
    rw [generate, generate, same.cached]
    split
    · exact .pure rfl
    · exact Walk.inSession_renamed .empty (same.renderFresh attempts registry)

end Attempts

/-! ### Answers and methods -/

namespace Ledger.Renamed

variable {ledger ledger' : Ledger} (same : ledger.Renamed names ledger')

include same

theorem origins {run run' : Run} (state : run.Renamed names run') :
    (ledger.origins run).Renamed names (ledger'.origins run') := by
  cases same with
  | own same => exact same
  | ofSnapshot number =>
    have found := getElem?_of_forall₂ state.world.snapshots number
    rw [Ledger.origins, Ledger.origins]
    generalize run.world.snapshots[number]? = placed at found ⊢
    generalize run'.world.snapshots[number]? = placed' at found ⊢
    cases found with
    | none => exact .empty
    | some same => exact same.origins

theorem record (method : Method) {value value' : Value} (values : value.Renamed names value') :
    Walk.Renamed names (Ledger.Renamed names) (ledger.record method value)
      (ledger'.record method value') := by
  cases same with
  | own same => exact .pure (.own (Origins.Renamed.recordValue method value values same))
  | ofSnapshot number =>
    refine .bind (Walk.onSnapshot_renamed ?_ number) fun _ => .pure (.ofSnapshot number)
    exact fun same => ⟨same.root, same.canned,
      Origins.Renamed.recordValue method value values same.origins⟩

end Ledger.Renamed

namespace Node

/-- The same accessor is blamed. -/
theorem blame_renamed {origins origins' : Origins} (same : origins.Renamed names origins')
    (method : Method) {report report' : Report} (reports : report.Renamed names report') :
    (blame origins method report).Renamed names (blame origins' method report') := by
  have named := reports.origin?_eq
  have fault := reports.fault
  rw [blame, blame, named]
  generalize report.origin? = origin
  generalize report.fault = own at fault ⊢
  generalize report'.fault = own' at fault ⊢
  cases fault with
  | invalid _ | cycle _ | failed _ => exact reports
  | notLiteral typeName identity =>
    cases origin with
    | some _ => exact reports
    | none =>
      cases identity with
      | none => exact reports.add (.origin _)
      | some identity =>
        refine reports.add ?_
        rw [Option.bind_some, Option.bind_some, same.find? identity]
        exact .origin _

theorem noteAccessor_renamed {ledger ledger' : Ledger} (same : ledger.Renamed names ledger')
    (method : Method) {run run' : Run} (state : run.Renamed names run') {report report' : Report}
    (reports : report.Renamed names report') :
    (noteAccessor ledger method run report).Renamed names
      (noteAccessor ledger' method run' report') :=
  (blame_renamed (same.origins state) method reports).addText _ _

theorem extractionReport_renamed (method : Method) {fault fault' : AccessorFault}
    (alike : names.faults fault fault') :
    (extractionReport method fault).Renamed names (extractionReport method fault') :=
  ⟨.failed _, .nil, .some alike⟩

theorem recording_renamed {value value' : Value} (same : value.Renamed names value')
    {code code' : Code} (written : code.Renamed names code') :
    Walk.Renamed names (Code.Renamed names) (recording value code) (recording value' code') := by
  cases same with
  | scalar _ => exact .pure written
  | list named _ => exact .bind (Walk.record_renamed named written) fun _ => .pure written
  | object same => exact .bind (Walk.record_renamed same.identity written) fun _ => .pure written

section Answers

variable {node node' : Node} (same : node.Renamed names node')

include same

theorem answer_renamed {heap heap' : Heap} (heaps : heap.Renamed names heap') (method : Method) :
    Walk.Renamed names (Value.Renamed names) (node.answer heap method)
      (node'.answer heap' method) := by
  refine .bind (Walk.invoke_renamed heaps same.object method.name) fun outcome => ?_
  cases outcome with
  | error alike => exact Walk.fail_renamed (extractionReport_renamed method alike)
  | ok value => exact .bind (Walk.retain_renamed _ _) fun _ => .pure value

variable {attempt attempt' : Attempt} (attempts : Attempt.Renamed names attempt attempt')

include attempts

theorem express_renamed (registry inner : Registry) (declared : DeclaredType)
    {value value' : Value} (values : value.Renamed names value') :
    Walk.Renamed names (Code.Renamed names)
      (node.express attempt registry inner declared value)
      (node'.express attempt' registry inner declared value') := by
  have expands := fun ⦃object object'⦄ (live : LiveObject.Renamed names object object') =>
    expandObject_renamed attempts live inner node.expansions
  rw [express, express, same.expansions]
  refine .bind .get fun state => ?_
  refine .bind (Walk.lift_renamed (Route.choose_renamed _ _ _ values state.session)) fun route => ?_
  have recorded {code code' : Code} (written : code.Renamed names code') :=
    recording_renamed values written
  cases route with
  | null => exact recorded (.literal .null)
  | known code => exact recorded code
  | literal =>
    exact .bind (Encode.value_renamed inner node.expansions expands (some declared) value values)
      fun code => recorded code
  | expand target =>
    cases values with
    | scalar _ => exact Walk.fail_renamed (Route.notLiteralReport_renamed (.scalar _))
    | list named all => exact Walk.fail_renamed (Route.notLiteralReport_renamed (.list named all))
    | object live => exact .bind (expands live target) fun code => recorded code

theorem overrides_renamed {heap heap' : Heap} (heaps : heap.Renamed names heap')
    (registry inner : Registry) (methods : List Method) {ledger ledger' : Ledger}
    (ledgers : ledger.Renamed names ledger') :
    Walk.Renamed names (Expr.OverridesLifted (Deferred.Renamed names))
      (node.overrides heap attempt registry inner ledger methods)
      (node'.overrides heap' attempt' registry inner ledger' methods) := by
  induction methods generalizing ledger ledger' with
  | nil => exact .pure .nil
  | cons method rest inductionHypothesis =>
    rw [overrides, overrides]
    split
    · exact .bind (inductionHypothesis ledgers) fun others => .pure (.empty _ _ others)
    · refine .bind (Walk.annotatedAfter_renamed (answer_renamed same heaps method)
        (noteAccessor_renamed ledgers method)) fun value => ?_
      refine .bind (ledgers.record method value) fun ledgers => ?_
      refine .bind (Walk.annotatedAfter_renamed
        (express_renamed same attempts registry inner _ value)
        (noteAccessor_renamed ledgers method)) fun code => ?_
      exact .bind (inductionHypothesis ledgers) fun others =>
        .pure (.returning _ _ code others)

theorem classSource_renamed {heap heap' : Heap} (heaps : heap.Renamed names heap')
    (registry : Registry) {ledger ledger' : Ledger} (ledgers : ledger.Renamed names ledger') :
    Walk.Renamed names Eq (node.classSource heap attempt ledger registry)
      (node'.classSource heap' attempt' ledger' registry) := by
  rw [classSource, classSource, same.expansions, same.target, same.accessors]
  refine .bind (overrides_renamed same attempts heaps _ _ node.accessors ledgers) fun methods => ?_
  have generates := Deferred.generate_renamed attempts
    (registry.withTargets node.expansions.targets)
  exact Expr.valueSource_walks generates _ (.anonymous node.target.declaredType methods)

end Answers

/-- Every node is rendered alike, with the same fuel. -/
theorem attempt_renamed {heap heap' : Heap} (heaps : heap.Renamed names heap') (fuel : Nat) :
    Attempt.Renamed names (attempt heap fuel) (attempt heap' fuel) := by
  induction fuel with
  | zero => exact fun _ _ _ => .throw .outOfFuel
  | succ fuel inductionHypothesis =>
    intro ledger ledger' node node' registry ledgers same
    rw [attempt, attempt]
    refine Walk.annotated_renamed ?_ (noteOn_renamed node node')
    refine .bind (.ensuring (classSource_renamed same inductionHypothesis heaps registry ledgers)
      fun state => ?_) fun equal => .pure (by rw [equal])
    exact ⟨state.world, state.session.leave same.object.identity⟩

end Node

end FrozenGraph
