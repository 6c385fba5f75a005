/-
This file shows that the order in which targets declare their methods leaves no trace in what comes
of a snapshot. A walk asks a target for its name, for what prevents its extension, and for its
accessors, which come in an order of their own. So two walks with targets that differ in the order
of declaration go side by side to their ends: the same accessors are invoked, in the same order, and
the texts are the same. Which of several methods with parameters is reported first is all that may
be different, and no walk looks into a report.
-/

import FrozenGraph.Proofs.Frozen
import FrozenGraph.Proofs.Paired
import FrozenGraph.Proofs.Reordered

namespace FrozenGraph

/-! ### Walks side by side -/

/-- Two walks ended early in the same way; the reports are not compared. -/
inductive Stop.Alike : Stop → Stop → Prop
  | failed (report report' : Report) : Alike (.failed report) (.failed report')
  | outOfFuel : Alike .outOfFuel .outOfFuel

/-- Walks go side by side if their states are the same but for the targets in them. -/
def Pairing.reordering : Pairing where
  states := Run.Reordered
  stops := Stop.Alike

/-- Two walks do the same but for the targets in what they keep. -/
abbrev Walk.Reordered {α α' : Type} (answers : α → α' → Prop) (walk : Walk α) (walk' : Walk α') :
    Prop :=
  Pairing.reordering.Walks answers walk walk'

namespace Walk

variable {α α' : Type} {answers : α → α' → Prop} {walk : Walk α} {walk' : Walk α'}

theorem fail_reordered (report report' : Report) :
    Walk.Reordered answers (fail report) (fail report') :=
  .throw (.failed report report')

theorem lift_reordered {result : Except Report α} {result' : Except Report α'}
    (same : Except.Lifted (fun _ _ => True) answers result result') :
    Walk.Reordered answers (lift result) (lift result') :=
  .lift (fun _ => .failed _ _) same

theorem annotatedAfter_reordered (same : Walk.Reordered answers walk walk')
    (note note' : Run → Report → Report) :
    Walk.Reordered answers (annotatedAfter note walk) (annotatedAfter note' walk') :=
  same.annotatedAfter fun _ _ _ reason =>
    match reason with
    | .failed _ _ => .failed _ _
    | .outOfFuel => .outOfFuel

theorem annotated_reordered (same : Walk.Reordered answers walk walk')
    (note note' : Report → Report) :
    Walk.Reordered answers (annotated note walk) (annotated note' walk') :=
  annotatedAfter_reordered same _ _

theorem inSession_reordered {session session' : Session} (sessions : session.Reordered session')
    (same : Walk.Reordered answers walk walk') :
    Walk.Reordered answers (inSession session walk) (inSession session' walk') :=
  same.inSession (fun state => ⟨state.world, sessions⟩) fun state after =>
    ⟨after.world, state.session⟩

/-! ### Single steps -/

theorem onSession_reordered {change change' : Session → Session}
    (same : ∀ {session session'}, session.Reordered session' →
      (change session).Reordered (change' session')) :
    Walk.Reordered Eq (onSession change) (onSession change') :=
  .modify fun state => ⟨state.world, same state.session⟩

theorem retain_reordered (value : Value) : Walk.Reordered Eq (retain value) (retain value) :=
  onSession_reordered fun same => same.retain value

theorem record_reordered (identity : Identity) {code code' : Code}
    (written : code.Reordered code') :
    Walk.Reordered Eq (record identity code) (record identity code') :=
  onSession_reordered fun same => same.record identity written

theorem enter_reordered (identity : Identity) (description : String) :
    Walk.Reordered Eq (enter identity description) (enter identity description) :=
  .bind .get fun state =>
    .bind (lift_reordered (state.session.enter identity description)) fun entered =>
      onSession_reordered fun _ => entered

theorem onSnapshot_reordered {change change' : Snapshot → Snapshot}
    (changed : ∀ {snapshot snapshot'}, snapshot.Reordered snapshot' →
      (change snapshot).Reordered (change' snapshot')) (number : Nat) :
    Walk.Reordered Eq (onSnapshot number change) (onSnapshot number change') :=
  .modify fun ⟨⟨history, renderings, allocated, snapshots⟩, session⟩ =>
    ⟨⟨history, renderings, allocated, modify_of_forall₂ snapshots changed number⟩, session⟩

theorem onRoot_reordered {change change' : Node → Node}
    (changed : ∀ {node node'}, node.Reordered node' → (change node).Reordered (change' node'))
    (number : Nat) : Walk.Reordered Eq (onRoot number change) (onRoot number change') := by
  unfold onRoot
  refine onSnapshot_reordered ?_ number
  exact fun same => ⟨changed same.root, same.canned, same.origins⟩

theorem note_reordered (invocation : Invocation) :
    Walk.Reordered Eq (note invocation) (note invocation) :=
  .modify fun ⟨⟨history, renderings, allocated, snapshots⟩, session⟩ =>
    ⟨⟨congrArg (invocation :: ·) history, renderings, allocated, snapshots⟩, session⟩

theorem begin_reordered {rendering rendering' : Rendering}
    (same : rendering.Reordered rendering') :
    Walk.Reordered Eq (begin rendering) (begin rendering') :=
  .modify fun ⟨⟨history, renderings, allocated, snapshots⟩, session⟩ =>
    ⟨⟨history, .cons same renderings, allocated, snapshots⟩, session⟩

theorem materialize_reordered (heap : Heap) (template : Template) :
    Walk.Reordered Eq (materialize heap template) (materialize heap template) := by
  refine ⟨fun {run run'} state => ?_⟩
  have allocated := state.world.allocated
  refine .ok ?_ ⟨⟨state.world.history, state.world.renderings, ?_, state.world.snapshots⟩,
    state.session⟩
  · rw [allocated]
  · rw [allocated]

/-- An accessor answers the same, since the same was invoked before. -/
theorem invoke_reordered (heap : Heap) (object : LiveObject) (accessor : String) :
    Walk.Reordered Eq (invoke heap object accessor) (invoke heap object accessor) := by
  have noted (outcome : Except AccessorFault Value) :
      Walk.Reordered Eq (do note ⟨object.identity, accessor, outcome⟩; pure outcome)
        (do note ⟨object.identity, accessor, outcome⟩; pure outcome) :=
    .bind (note_reordered _) fun _ => .pure rfl
  refine .bind .get fun {run run'} state => ?_
  rw [state.world.history]
  cases heap.answer run.world.history object.identity accessor with
  | error fault => exact noted (.error fault)
  | ok template =>
    exact .bind (materialize_reordered heap template) fun same => same ▸ noted (.ok _)

end Walk

/-! ### Objects that are met on the way -/

namespace Node

/-- An object can be planned as either target, or as neither. -/
theorem build_reordered (object : LiveObject) {target target' : Target}
    (targets : target.Reordered target') {expansions expansions' : Expansions}
    (all : expansions.Reordered expansions') :
    Except.Lifted (fun _ _ => True) Node.Reordered (build object target expansions)
      (build object target' expansions') := by
  have extendable : Except.Lifted (fun _ _ => True) Eq (checkExtendable target)
      (checkExtendable target') := by
    rw [checkExtendable, checkExtendable, targets.obstacle?_eq]
    cases target.obstacle? with
    | none => exact .ok rfl
    | some obstacle => exact .error trivial
  rw [build, build]
  refine extendable.bind fun _ _ _ => ?_
  rw [targets.accepts_eq]
  split
  · refine targets.accessors.bind fun accessors accessors' equal => ?_
    exact .ok ⟨rfl, targets, equal.symm, all, rfl, rfl⟩
  · exact .error trivial

namespace Reordered

variable {node node' : Node} (same : node.Reordered node')

include same

theorem start : node.start.Reordered node'.start :=
  ⟨same.object, same.target, same.accessors, same.expansions, rfl, same.cached⟩

theorem fail : node.fail.Reordered node'.fail :=
  ⟨same.object, same.target, same.accessors, same.expansions, rfl, same.cached⟩

theorem complete (text : String) : (node.complete text).Reordered (node'.complete text) :=
  ⟨same.object, same.target, same.accessors, same.expansions, rfl,
    congrArg (fun cached : Option String => some (cached.getD text)) same.cached⟩

theorem enter : Walk.Reordered Eq node.enter node'.enter := by
  rw [Node.enter, Node.enter, same.object]
  exact .bind (Walk.annotated_reordered (Walk.enter_reordered _ _) _ _) fun _ =>
    Walk.begin_reordered ⟨rfl, same.target⟩

end Reordered

end Node

/-- Two ways to render nodes do the same with nodes that are the same but for their targets. -/
def Attempt.Reordered (attempt attempt' : Attempt) : Prop :=
  ∀ {node node' registry registry'} (ledger : Ledger), node.Reordered node' →
    registry.Reordered registry' →
    Walk.Reordered Eq (attempt ledger node registry) (attempt' ledger node' registry')

section Attempts

variable {attempt attempt' : Attempt} (attempts : attempt.Reordered attempt')
  {registry registry' : Registry} (registries : registry.Reordered registry')

include attempts registries

theorem Node.Reordered.renderFresh {node node' : Node} (same : node.Reordered node') :
    Walk.Reordered Eq (node.renderFresh attempt registry) (node'.renderFresh attempt' registry') :=
  .bind same.enter fun _ => attempts .empty same registries

theorem expandObject_reordered {expansions expansions' : Expansions}
    (all : expansions.Reordered expansions') (object : LiveObject) {target target' : Target}
    (targets : target.Reordered target') :
    Walk.Reordered Code.Reordered (expandObject attempt registry expansions object target)
      (expandObject attempt' registry' expansions' object target') := by
  refine .bind .get fun {run run'} state => ?_
  have found := state.session.memo.find? object.identity
  generalize run.session.memo.find? object.identity = known at found ⊢
  generalize run'.session.memo.find? object.identity = known' at found ⊢
  cases found with
  | some code => exact .pure code
  | none =>
    refine .bind (Walk.lift_reordered (Node.build_reordered object targets all)) fun node => ?_
    refine .bind (node.renderFresh attempts registries) fun {text text'} equal => ?_
    subst equal
    have code : Code.Reordered _ _ := .deferred (.node (node.complete text))
    exact .bind (Walk.record_reordered object.identity code) fun _ => .pure code

end Attempts

/-! ### Values -/

namespace Encode

variable {expand expand' : LiveObject → Target → Walk Code} {registry registry' : Registry}
  {expansions expansions' : Expansions}

mutual

/-- A value is written the same, if objects are expanded the same. -/
theorem value_reordered (registries : registry.Reordered registry')
    (all : expansions.Reordered expansions')
    (expands : ∀ object ⦃target target'⦄, target.Reordered target' →
      Walk.Reordered Code.Reordered (expand object target) (expand' object target'))
    (declared : Option DeclaredType) : (content : Value) →
    Walk.Reordered Code.Reordered (value expand registry expansions declared content)
      (value expand' registry' expansions' declared content)
  | .scalar scalar => .pure (.literal scalar)
  | .list identity items => by
    rw [value, value]
    refine .bind .get fun {run run'} state => ?_
    have found := state.session.memo.find? identity
    generalize run.session.memo.find? identity = known at found ⊢
    generalize run'.session.memo.find? identity = known' at found ⊢
    cases found with
    | some code => exact .pure code
    | none =>
      refine .bind (allItems_reordered registries all expands items) fun elements => ?_
      exact .bind (Walk.record_reordered identity (.list elements)) fun _ => .pure (.list elements)
  | .object live => by
    rw [value, value]
    refine .bind .get fun {run run'} state => ?_
    have found := state.session.memo.find? live.identity
    have target := targetFor?_reordered registries all declared live.runtime
    generalize run.session.memo.find? live.identity = known at found ⊢
    generalize run'.session.memo.find? live.identity = known' at found ⊢
    generalize targetFor? registry expansions declared live.runtime = own at target ⊢
    generalize targetFor? registry' expansions' declared live.runtime = own' at target ⊢
    cases found with
    | some code => exact .pure code
    | none =>
      cases target with
      | none => exact Walk.fail_reordered _ _
      | some target => exact expands live target

theorem allItems_reordered (registries : registry.Reordered registry')
    (all : expansions.Reordered expansions')
    (expands : ∀ object ⦃target target'⦄, target.Reordered target' →
      Walk.Reordered Code.Reordered (expand object target) (expand' object target')) :
    (items : List Value) →
    Walk.Reordered (Expr.ItemsLifted Deferred.Reordered) (allItems expand registry expansions items)
      (allItems expand' registry' expansions' items)
  | [] => .pure .nil
  | first :: rest => by
    rw [allItems, allItems]
    refine .bind (Walk.retain_reordered first) fun _ => ?_
    refine .bind (value_reordered registries all expands none first) fun code => ?_
    exact .bind (allItems_reordered registries all expands rest) fun codes =>
      .pure (.cons code codes)

end

end Encode

/-! ### Snapshots and statements -/

section Attempts

variable {attempt attempt' : Attempt} (attempts : attempt.Reordered attempt')
  {registry registry' : Registry} (registries : registry.Reordered registry')

include attempts registries

theorem renderRoot_reordered (number : Nat) :
    Walk.Reordered Eq (renderRoot attempt number registry)
      (renderRoot attempt' number registry') := by
  refine .bind .get fun {run run'} state => ?_
  have found := getElem?_of_forall₂ state.world.snapshots number
  generalize run.world.snapshots[number]? = placed at found ⊢
  generalize run'.world.snapshots[number]? = placed' at found ⊢
  cases found with
  | none => exact Walk.fail_reordered _ _
  | @some snapshot snapshot' same =>
    have root := same.root
    dsimp only
    rw [root.cached, root.state]
    split
    · exact .pure rfl
    · exact Walk.fail_reordered _ _
    · refine .bind root.enter fun _ => ?_
      refine .bind (Walk.onRoot_reordered Node.Reordered.start number) fun _ => ?_
      have tried := attempts (.ofSnapshot number) root registries
      refine .bind (tried.tryCatch fun reason => ?_) fun {text text'} equal => ?_
      · exact .bind (Walk.onRoot_reordered Node.Reordered.fail number) fun _ => .throw reason
      · subst equal
        refine .bind (Walk.onRoot_reordered (fun node => node.complete text) number) fun _ => ?_
        refine .bind .get fun {run run'} state => ?_
        have kept := getElem?_of_forall₂ state.world.snapshots number
        generalize run.world.snapshots[number]? = placed at kept ⊢
        generalize run'.world.snapshots[number]? = placed' at kept ⊢
        cases kept with
        | none => exact .pure rfl
        | some same => exact .pure (congrArg (·.getD text) same.root.cached.symm)

theorem snapshotText_reordered (number : Nat) :
    Walk.Reordered Eq (snapshotText attempt number registry)
      (snapshotText attempt' number registry') := by
  refine .bind .get fun {run run'} state => ?_
  have found := getElem?_of_forall₂ state.world.snapshots number
  generalize run.world.snapshots[number]? = placed at found ⊢
  generalize run'.world.snapshots[number]? = placed' at found ⊢
  cases found with
  | none => exact Walk.fail_reordered _ _
  | some same =>
    dsimp only
    rw [same.root.cached]
    split
    · exact .pure rfl
    · exact Walk.inSession_reordered (.opening same.canned)
        (renderRoot_reordered attempts registries number)

theorem Deferred.generate_reordered ⦃statement statement' : Deferred⦄
    (same : statement.Reordered statement') :
    Walk.Reordered Eq (statement.generate attempt registry)
      (statement'.generate attempt' registry') := by
  cases same with
  | text content => exact .pure rfl
  | failing details => exact Walk.fail_reordered _ _
  | snapshot number => exact snapshotText_reordered attempts registries number
  | @node node node' same =>
    rw [generate, generate, same.cached]
    split
    · exact .pure rfl
    · exact Walk.inSession_reordered .empty (same.renderFresh attempts registries)

end Attempts

/-! ### Answers and methods -/

theorem Ledger.record_reordered (ledger : Ledger) (method : Method) (value : Value) :
    Walk.Reordered Eq (ledger.record method value) (ledger.record method value) := by
  cases ledger with
  | own origins => exact .pure rfl
  | ofSnapshot number =>
    refine .bind (Walk.onSnapshot_reordered ?_ number) fun _ => .pure rfl
    exact fun same => ⟨same.root, same.canned, congrArg (·.recordValue method value) same.origins⟩

namespace Node

variable {node node' : Node} (same : node.Reordered node')

include same

theorem answer_reordered (heap : Heap) (method : Method) :
    Walk.Reordered Eq (node.answer heap method) (node'.answer heap method) := by
  rw [answer, answer, same.object]
  refine .bind (Walk.invoke_reordered heap node.object method.name) fun {outcome _} equal => ?_
  subst equal
  cases outcome with
  | error fault => exact Walk.fail_reordered _ _
  | ok value => exact .bind (Walk.retain_reordered value) fun _ => .pure rfl

variable {attempt attempt' : Attempt} (attempts : attempt.Reordered attempt')
  {registry registry' inner inner' : Registry} (registries : registry.Reordered registry')
  (inners : inner.Reordered inner')

include attempts registries inners

theorem express_reordered (declared : DeclaredType) (value : Value) :
    Walk.Reordered Code.Reordered (node.express attempt registry inner declared value)
      (node'.express attempt' registry' inner' declared value) := by
  have expands := fun object ⦃target target'⦄ (targets : Target.Reordered target target') =>
    expandObject_reordered attempts inners same.expansions object targets
  have recorded {code code' : Code} (written : code.Reordered code') :
      Walk.Reordered Code.Reordered (recording value code) (recording value code') := by
    rw [recording, recording]
    cases value.identity? with
    | none => exact .pure written
    | some identity => exact .bind (Walk.record_reordered identity written) fun _ => .pure written
  rw [express, express]
  refine .bind .get fun state => ?_
  refine .bind (Walk.lift_reordered (Route.choose_reordered registries same.expansions
    state.session declared value)) fun route => ?_
  cases route with
  | null => exact recorded (.literal .null)
  | known code => exact recorded code
  | literal =>
    exact .bind (Encode.value_reordered inners same.expansions expands (some declared) value)
      fun code => recorded code
  | expand target =>
    cases value with
    | scalar _ | list _ _ => exact Walk.fail_reordered _ _
    | object live => exact .bind (expands live target) fun code => recorded code

theorem overrides_reordered (heap : Heap) (methods : List Method) (ledger : Ledger) :
    Walk.Reordered (Expr.OverridesLifted Deferred.Reordered)
      (node.overrides heap attempt registry inner ledger methods)
      (node'.overrides heap attempt' registry' inner' ledger methods) := by
  induction methods generalizing ledger with
  | nil => exact .pure .nil
  | cons method rest inductionHypothesis =>
    rw [overrides, overrides]
    split
    · exact .bind (inductionHypothesis ledger) fun others => .pure (.empty _ _ others)
    · refine .bind (Walk.annotatedAfter_reordered (answer_reordered same heap method) _ _)
        fun {value _} equal => ?_
      subst equal
      refine .bind (ledger.record_reordered method value) fun {ledger _} equal => ?_
      subst equal
      refine .bind (Walk.annotatedAfter_reordered
        (express_reordered same attempts registries inners _ value) _ _) fun code => ?_
      exact .bind (inductionHypothesis ledger) fun others =>
        .pure (.returning _ _ code others)

omit inners in
theorem classSource_reordered (heap : Heap) (ledger : Ledger) :
    Walk.Reordered Eq (node.classSource heap attempt ledger registry)
      (node'.classSource heap attempt' ledger registry') := by
  have inners := registries.withTargets same.expansions
  rw [classSource, classSource, same.accessors, same.target.declaredType_eq]
  refine .bind (overrides_reordered same attempts registries inners heap node.accessors ledger)
    fun methods => ?_
  exact Expr.valueSource_walks (Deferred.generate_reordered attempts inners)
    (.anonymous node.target.declaredType _) (.anonymous _ methods)

end Node

/-- Every node is rendered the same, with the same fuel. -/
theorem Node.attempt_reordered (heap : Heap) (fuel : Nat) :
    Attempt.Reordered (attempt heap fuel) (attempt heap fuel) := by
  induction fuel with
  | zero => exact fun _ _ _ => .throw .outOfFuel
  | succ fuel inductionHypothesis =>
    -- The nodes that are met on the way have one unit of fuel less.
    intro node node' registry registry' ledger same registries
    rw [attempt, attempt, registries.options, same.object]
    refine Walk.annotated_reordered ?_ _ _
    refine .bind ((classSource_reordered same inductionHypothesis registries heap ledger).ensuring
      fun state => ?_) fun equal => .pure (by rw [equal])
    exact ⟨state.world, state.session.leave node.object.identity⟩

/-! ### Renderings -/

namespace Heap

/-- Two walks ended in the same way, with the same text if with any. -/
structure Ended.Reordered (ended ended' : Ended String) : Prop where
  text : ended'.result.toOption = ended.result.toOption
  world : ended.world.Reordered ended'.world

/-- Two outcomes are the same but for reports: the same text or none, and the same invocations. -/
structure Outcome.Reordered (outcome outcome' : Outcome) : Prop where
  text : outcome'.result.toOption = outcome.result.toOption
  invocations : outcome'.invocations = outcome.invocations

variable {world world' : World} {registry registry' : Registry}

theorem perform_reordered (worlds : world.Reordered world') {walk walk' : Walk String}
    (walks : Walk.Reordered Eq walk walk') :
    (perform world .empty walk).Reordered (perform world' .empty walk') := by
  have before : Run.Reordered ⟨world, .empty⟩ ⟨world', .empty⟩ := ⟨worlds, .empty⟩
  have ended := walks.ends before
  rw [perform, perform]
  generalize walk _ = result at ended ⊢
  generalize walk' _ = result' at ended ⊢
  cases ended with
  | ok equal after => exact ⟨congrArg some equal.symm, after.world⟩
  | error _ after => exact ⟨rfl, after.world⟩

theorem Ended.Reordered.outcome {ended ended' : Ended String} (same : ended.Reordered ended')
    (worlds : world.Reordered world') :
    (ended.outcome world).Reordered (ended'.outcome world') :=
  ⟨same.text, worlds.since_eq same.world⟩

/-- A snapshot is rendered the same, whatever state it is in. -/
theorem render_reordered (heap : Heap) (worlds : world.Reordered world')
    (registries : registry.Reordered registry') (number : Nat) :
    (heap.render world number registry).Reordered (heap.render world' number registry') := by
  have fuel : heap.fuel world' = heap.fuel world := by
    rw [Heap.fuel, Heap.fuel, worlds.snapshots.length_eq]
  rw [render, render, attempt, attempt, fuel]
  exact perform_reordered worlds
    (snapshotText_reordered (Node.attempt_reordered heap _) registries number)

/-- A value is planned as either target, or as neither. -/
theorem plan_reordered (value : Value) {target target' : Target}
    (targets : target.Reordered target') {canned canned' : Canned}
    (tables : canned.Reordered canned') {expanded expanded' : List Target}
    (all : List.Forall₂ Target.Reordered expanded expanded') :
    Except.Lifted (fun _ _ => True) Snapshot.Reordered (Snapshot.plan value target canned expanded)
      (Snapshot.plan value target' canned' expanded') := by
  cases value with
  | scalar _ | list _ _ => exact .error trivial
  | object live =>
    refine (Node.build_reordered live targets (Expansions.reordered_ofList all)).bind
      fun root root' same => ?_
    exact .ok ⟨same, tables, rfl⟩

/-- What comes of a value that is planned and rendered at once is the same. -/
theorem frozen_reordered (heap : Heap) (worlds : world.Reordered world')
    (registries : registry.Reordered registry') (value : Value) {target target' : Target}
    (targets : target.Reordered target') {canned canned' : Canned}
    (tables : canned.Reordered canned') {expanded expanded' : List Target}
    (all : List.Forall₂ Target.Reordered expanded expanded') :
    (heap.frozen world value target canned expanded registry).Reordered
      (heap.frozen world' value target' canned' expanded' registry') := by
  have planned := plan_reordered value targets tables all
  rw [frozen, frozen]
  generalize Snapshot.plan value target canned expanded = plan at planned ⊢
  generalize Snapshot.plan value target' canned' expanded' = plan' at planned ⊢
  cases planned with
  | error _ => exact ⟨rfl, rfl⟩
  | ok snapshot =>
    obtain ⟨added, number⟩ := worlds.add snapshot
    dsimp only
    rw [number]
    exact (render_reordered heap added registries _).outcome added

end Heap

/-! ### The order of accessors -/

/-- Which accessors a target has, and in which order, depends on nothing but the methods of each
name. They can be listed exactly if no method has parameters, but for those that define equality;
else the first one with parameters is reported. They ascend by name, and no method is lost or added.
So where the names are distinct, methods may be declared in any order: whatever targets stand in the
world, in the registry, among the canned representations, among the expanded types or for the
value, a rendering succeeds or not as before, its text is the same, and so are the invocations. -/
theorem Target.accessors_canonical (heap : Heap) {world world' : World}
    {registry registry' : Registry} (worlds : world.Reordered world')
    (registries : registry.Reordered registry') :
    (∀ target : Target,
      ((∃ accessors, target.accessors = .ok accessors) ↔
        ∀ method ∈ target.methods, method.isOrdinary → method.parameters = []) ∧
      (∀ report, target.accessors = .error report ↔
        ∃ before method after, target.methods = before ++ method :: after ∧
          (∀ earlier ∈ before, earlier.isOrdinary → earlier.parameters = []) ∧
          method.isOrdinary ∧ method.parameters ≠ [] ∧
          report = target.parametersReport method) ∧
      ∀ accessors, target.accessors = .ok accessors → target.Resolves accessors) ∧
    (∀ name kind methods methods', (methods.map Method.name).Nodup → methods.Perm methods' →
      Target.Reordered ⟨name, kind, methods⟩ ⟨name, kind, methods'⟩) ∧
    (∀ number, ((heap.render world number registry).outcome world).Reordered
      ((heap.render world' number registry').outcome world')) ∧
    ∀ (value : Value) (target target' : Target) (canned canned' : Canned)
      (expanded expanded' : List Target), target.Reordered target' → canned.Reordered canned' →
      List.Forall₂ Target.Reordered expanded expanded' →
      (heap.frozen world value target canned expanded registry).Reordered
        (heap.frozen world' value target' canned' expanded' registry') := by
  refine ⟨fun target => ⟨⟨?_, fun plain => ?_⟩, fun report => accessors_error_iff,
    fun accessors listed => (accessors_ok_iff.mp listed).2⟩,
    fun name kind methods methods' distinct permuted => .of_perm distinct permuted name kind,
    fun number => (Heap.render_reordered heap worlds registries number).outcome worlds,
    fun value target target' canned canned' expanded expanded' targets tables all =>
      Heap.frozen_reordered heap worlds registries value targets tables all⟩
  · rintro ⟨accessors, listed⟩
    exact (accessors_ok_iff.mp listed).1
  · exact ⟨_, accessors_ok_iff.mpr ⟨plain, target.resolves_sortByName⟩⟩

namespace Nest

/-- An egg has a name. -/
def egg : Target :=
  (Target.interface "Egg").accessor "getName" .string

/-- A nest has a name and an egg. -/
def nest : Target :=
  ((Target.interface "Nest").accessor "getName" .string).accessor "getEgg" egg.declaredType

/-- The same, with the egg first. -/
def turned : Target :=
  ((Target.interface "Nest").accessor "getEgg" egg.declaredType).accessor "getName" .string

/-- The only egg. -/
def eggObject : LiveObject :=
  ⟨.entry "egg", ⟨egg.name, []⟩, none⟩

/-- The nest that the egg is in. -/
def nestObject : LiveObject :=
  ⟨.entry "nest", ⟨nest.name, []⟩, none⟩

/-- Both have names. -/
def heap : Heap :=
  Script.heap
    [⟨nestObject, [("getName", .value (.existing (.scalar (.string "nest")))),
        ("getEgg", .value (.existing (.object eggObject)))]⟩,
      ⟨eggObject, [("getName", .value (.existing (.scalar (.string "egg"))))]⟩]

/-- The nest as it is planned, with its accessors in their order. -/
def root : Node :=
  ⟨nestObject, nest, turned.methods, .ofList [egg], .pending, none⟩

theorem built : Node.build nestObject nest (.ofList [egg]) = .ok root := by
  have sorted : Target.sortByName nest.methods = turned.methods := by
    have descending : ¬ "getName" ≤ "getEgg" := by decide +kernel
    simp [Target.sortByName, List.mergeSort, nest, turned, Target.interface, Target.accessor,
      Target.method, descending]
  rw [root, ← sorted]
  rfl

/-- The nest is written the same, whichever way it is declared. -/
theorem accessors_canonical_turned :
    World.initial.Reordered .initial ∧ Registry.root.Reordered .root ∧
    (heap.frozen .initial (.object nestObject) nest .empty [egg] .root).result.isOk ∧
    (heap.frozen .initial (.object nestObject) nest .empty [egg] .root).Reordered
      (heap.frozen .initial (.object nestObject) turned .empty [egg] .root) := by
  have succeeds : ((heap.render (World.initial.add ⟨root, .empty, .empty⟩).1 0 .root).outcome
      .initial).result.isOk := by
    decide +kernel
  obtain ⟨_, permuted, _, frozen⟩ :=
    Target.accessors_canonical heap (.refl .initial) (.refl .root)
  have targets : nest.Reordered turned :=
    permuted nest.name nest.kind _ _ (by decide) (by decide)
  exact ⟨.refl _, .refl _, Heap.frozen_of_built built ▸ succeeds,
    frozen _ _ _ _ _ _ _ targets (.refl .empty) (Target.forall₂_reordered_refl _)⟩

end Nest

end FrozenGraph
