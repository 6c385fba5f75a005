/-
This file lists the moments of a walk. A walk only shows the state that it ends in; watched, it
lists every state that it goes through on the way, together with the sessions that wait while one
inside them is open. What is watched is the walk of the library itself: each watched walk does the
same as the walk that it watches, and that is shown here for all of them.
-/

import FrozenGraph.Proofs.Noted

namespace FrozenGraph

/-! ### Moments -/

/-- A state that a walk goes through, and the sessions that wait for the one at hand, the nearest
first. -/
structure Moment where
  run : Run
  waiting : List Session

namespace Moment

/-- A moment at which no session waits. -/
def only (run : Run) : Moment :=
  ⟨run, []⟩

/-- All sessions that are open, the one at hand first. -/
def sessions (moment : Moment) : List Session :=
  moment.run.session :: moment.waiting

/-- The same moment while one session more waits for all of them. -/
def inside (outer : Session) (moment : Moment) : Moment :=
  { moment with waiting := moment.waiting ++ [outer] }

end Moment

/-! ### Watched walks -/

/-- A walk, and the moments that it goes through after the one in which it begins. -/
structure Watched (α : Type) where
  walk : Walk α
  moments : Run → List Moment

namespace Watched

variable {α β : Type}

/-- A walk that leaves its state as it is. -/
def still (walk : Walk α) : Watched α :=
  ⟨walk, fun _ => []⟩

/-- A walk of a single step. -/
def step (walk : Walk α) : Watched α :=
  ⟨walk, fun run => [.only (walk.last run)]⟩

/-- The moments of what comes after a walk that has ended. -/
def following (next : α → Watched β) : EStateM.Result Stop Run α → List Moment
  | .ok answer after => (next answer).moments after
  | .error .. => []

instance : Monad Watched where
  pure answer := still (pure answer)
  bind watched next :=
    { walk := watched.walk >>= fun answer => (next answer).walk
      moments := fun run => watched.moments run ++ following next (watched.walk run) }

/-- The state at hand. -/
def look : Watched Run :=
  still get

/-- Fails with a report. -/
def fail (report : Report) : Watched α :=
  still (Walk.fail report)

/-- Goes on with a result, or fails with its report. -/
def lift (result : Except Report α) : Watched α :=
  still (Walk.lift result)

/-- Adds to the report of a walk that fails. -/
def annotatedAfter (note : Run → Report → Report) (watched : Watched α) : Watched α :=
  ⟨Walk.annotatedAfter note watched.walk, watched.moments⟩

/-- Changes the state after a walk, whether it failed or not. -/
def ensuring (cleanup : Run → Run) (watched : Watched α) : Watched α where
  walk := Walk.ensuring cleanup watched.walk
  moments run := watched.moments run ++ [.only (cleanup (watched.walk.last run))]

/-- Handles the end of a walk that failed. -/
def handling (watched : Watched α) (handle : Stop → Watched α) : Watched α where
  walk := tryCatch watched.walk fun stop => (handle stop).walk
  moments run := watched.moments run ++
    match watched.walk run with
    | .ok .. => []
    | .error stop after => (handle stop).moments after

/-- Walks in another session, for which the one at hand waits. -/
def inSession (session : Session) (watched : Watched α) : Watched α where
  walk := Walk.inSession session watched.walk
  moments run :=
    ⟨{ run with session }, [run.session]⟩ ::
      ((watched.moments { run with session }).map (.inside run.session) ++
        [.only ((Walk.inSession session watched.walk).last run)])

end Watched

/-- A way to render nodes, watched. -/
abbrev WatchedAttempt := Ledger → Node → Registry → Watched String

/-- The way to render nodes that is watched. -/
def WatchedAttempt.walk (attempt : WatchedAttempt) : Attempt :=
  fun ledger node registry => (attempt ledger node registry).walk

namespace Watched

/-! ### The walks of the library, watched -/

/-- `Node.renderFresh`, watched. -/
def renderFresh (attempt : WatchedAttempt) (node : Node) (registry : Registry) :
    Watched String := do
  step node.enter
  attempt .empty node registry

/-- `FrozenGraph.expandObject`, watched. -/
def expandObject (attempt : WatchedAttempt) (registry : Registry) (expansions : Expansions)
    (object : LiveObject) (target : Target) : Watched Code := do
  match (← look).session.memo.find? object.identity with
  | some code => pure code
  | none =>
    let node ← lift (Node.build object target expansions)
    let text ← renderFresh attempt node registry
    let code : Code := .deferred (.node (node.complete text))
    step (Walk.record object.identity code)
    pure code

section Values

variable (expand : LiveObject → Target → Watched Code) (registry : Registry)
  (expansions : Expansions)

mutual

/-- `Encode.value`, watched. -/
def value (declared : Option DeclaredType) : Value → Watched Code
  | .scalar scalar => pure (.literal scalar)
  | .list identity items => do
    match (← look).session.memo.find? identity with
    | some code => pure code
    | none =>
      let elements ← allItems items
      step (Walk.record identity (.list elements))
      pure (.list elements)
  | .object live => do
    match (← look).session.memo.find? live.identity with
    | some code => pure code
    | none =>
      match Encode.targetFor? registry expansions declared live.runtime with
      | none => fail (Encode.noTargetReport live)
      | some target => expand live target

/-- `Encode.allItems`, watched. -/
def allItems : List Value → Watched (List Code)
  | [] => pure []
  | first :: rest => do
    step (Walk.retain first)
    let head ← value none first
    let tail ← allItems rest
    pure (head :: tail)

end

end Values

/-- `FrozenGraph.renderRoot`, watched. -/
def renderRoot (attempt : WatchedAttempt) (number : Nat) (registry : Registry) :
    Watched String := do
  match (← look).world.snapshots[number]? with
  | none => fail (.ofFault (.failed "render snapshot" "there is no such snapshot"))
  | some snapshot =>
    let root := snapshot.root
    match root.cached, root.state with
    | some text, _ => pure text
    | none, .failed => fail root.retryReport
    | none, _ =>
      step root.enter
      step (Walk.onRoot number Node.start)
      let text ← handling (attempt (.ofSnapshot number) root registry) fun stop => do
        step (Walk.onRoot number Node.fail)
        still (throw stop)
      step (Walk.onRoot number (·.complete text))
      pure ((((← look).world.snapshots[number]?).bind (·.root.cached)).getD text)

/-- `FrozenGraph.snapshotText`, watched. -/
def snapshotText (attempt : WatchedAttempt) (number : Nat) (registry : Registry) :
    Watched String := do
  match (← look).world.snapshots[number]? with
  | none => fail (.ofFault (.failed "render snapshot" "there is no such snapshot"))
  | some snapshot =>
    match snapshot.root.cached with
    | some text => pure text
    | none => inSession (.opening snapshot.canned) (renderRoot attempt number registry)

/-- `Deferred.generate`, watched. -/
def generate (attempt : WatchedAttempt) (registry : Registry) : Deferred → Watched String
  | .text content => pure content
  | .failing details => fail (.ofFault (.failed "generate statement" details))
  | .node planned =>
    match planned.cached with
    | some content => pure content
    | none => inSession .empty (renderFresh attempt planned registry)
  | .snapshot number => snapshotText attempt number registry

/-- `Node.answer`, watched. -/
def answer (heap : Heap) (node : Node) (method : Method) : Watched Value := do
  match ← step (Walk.invoke heap node.object method.name) with
  | .error fault => fail (Node.extractionReport method fault)
  | .ok value =>
    step (Walk.retain value)
    pure value

/-- Records an expression for a value, if that has an identity. -/
def recordFor (value : Value) (code : Code) : Watched Code :=
  match value.identity? with
  | some identity => do
    step (Walk.record identity code)
    pure code
  | none => pure code

/-- `Node.express`, watched. -/
def express (attempt : WatchedAttempt) (node : Node) (registry inner : Registry)
    (declared : DeclaredType) (value : Value) : Watched Code := do
  let route ← lift (Route.choose registry node.expansions (← look).session declared value)
  let expand := expandObject attempt inner node.expansions
  let code ← match route, value with
    | .null, _ => pure Expr.null
    | .known code, _ => pure code
    | .literal, _ => Watched.value expand inner node.expansions (some declared) value
    | .expand target, .object live => expand live target
    | .expand _, other => fail (Route.notLiteralReport other)
  recordFor value code

/-- `Node.overrides`, watched. -/
def overrides (heap : Heap) (attempt : WatchedAttempt) (node : Node) (registry inner : Registry) :
    Ledger → List Method → Watched (List (Override Deferred))
  | _, [] => pure []
  | ledger, method :: rest =>
    if method.returns = .void then do
      let others ← overrides heap attempt node registry inner ledger rest
      pure (.empty method.name method.returns :: others)
    else do
      let value ← annotatedAfter (Node.noteAccessor ledger method) (answer heap node method)
      let ledger ← step (ledger.record method value)
      let code ← annotatedAfter (Node.noteAccessor ledger method)
        (express attempt node registry inner method.returns value)
      let others ← overrides heap attempt node registry inner ledger rest
      pure (.returning method.name method.returns code :: others)

/-- `Node.classSource`, watched. -/
def classSource (heap : Heap) (attempt : WatchedAttempt) (ledger : Ledger) (node : Node)
    (registry : Registry) : Watched String := do
  let inner := registry.withTargets node.expansions.targets
  let methods ← overrides heap attempt node registry inner ledger node.accessors
  Expr.source (generate attempt inner) (.anonymous node.target.declaredType methods)

/-- `Node.attempt`, watched. -/
def attempt (heap : Heap) : (fuel : Nat) → WatchedAttempt
  | 0, _, _, _ => still (throw .outOfFuel)
  | fuel + 1, ledger, node, registry =>
    annotatedAfter (fun _ => node.noteOn) do
      let source ← ensuring
        (fun run => { run with session := run.session.leave node.object.identity })
        (classSource heap (attempt heap fuel) ledger node registry)
      pure (Layout.format registry.options source)

/-- `FrozenGraph.literalText`, watched. -/
def literalText (attempt : WatchedAttempt) (value : Value) (registry : Registry) :
    Watched String := do
  step (Walk.retain value)
  let code ← Watched.value (expandObject attempt registry .none) registry .none none value
  let source ← Expr.source (generate attempt registry) code
  pure (Layout.format registry.options source)

/-! ### What is watched -/

theorem bind_walk (watched : Watched α) (next : α → Watched β) :
    (watched >>= next).walk = watched.walk >>= fun answer => (next answer).walk := rfl

theorem lift_ok (answer : α) (next : α → Watched β) :
    (lift (.ok answer) >>= next) = next answer := rfl

theorem look_walk (next : Run → Watched β) (run : Run) :
    (look >>= next).walk run = (next run).walk run := rfl

section Walks

variable (attempt : WatchedAttempt) (registry : Registry)

theorem expandObject_walk (expansions : Expansions) (object : LiveObject) (target : Target) :
    (expandObject attempt registry expansions object target).walk =
      FrozenGraph.expandObject attempt.walk registry expansions object target := by
  funext run
  rw [expandObject, look_walk, FrozenGraph.expandObject, Walk.bind_get]
  cases run.session.memo.find? object.identity <;> rfl

section Values

variable (expansions : Expansions)

mutual

theorem value_walk (declared : Option DeclaredType) : (value : Value) →
    (Watched.value (expandObject attempt registry expansions) registry expansions declared
        value).walk =
      Encode.value (FrozenGraph.expandObject attempt.walk registry expansions) registry expansions
        declared value
  | .scalar _ => rfl
  | .list identity items => by
    funext run
    rw [Watched.value, look_walk, Encode.value, Walk.bind_get]
    cases run.session.memo.find? identity with
    | some code => rfl
    | none =>
      simp only [bind_walk, allItems_walk items]
      rfl
  | .object live => by
    funext run
    rw [Watched.value, look_walk, Encode.value, Walk.bind_get]
    cases run.session.memo.find? live.identity with
    | some code => rfl
    | none =>
      cases Encode.targetFor? registry expansions declared live.runtime with
      | none => rfl
      | some target =>
        exact congrFun (expandObject_walk attempt registry expansions live target) run

theorem allItems_walk : (items : List Value) →
    (allItems (expandObject attempt registry expansions) registry expansions items).walk =
      Encode.allItems (FrozenGraph.expandObject attempt.walk registry expansions) registry
        expansions items
  | [] => rfl
  | first :: rest => by
    rw [Watched.allItems, Encode.allItems]
    simp only [bind_walk, value_walk none first, allItems_walk rest]
    rfl

end

end Values

theorem renderRoot_walk (number : Nat) :
    (renderRoot attempt number registry).walk =
      FrozenGraph.renderRoot attempt.walk number registry := by
  funext run
  rw [renderRoot, look_walk, FrozenGraph.renderRoot, Walk.bind_get]
  cases run.world.snapshots[number]? with
  | none => rfl
  | some snapshot =>
    dsimp only
    cases snapshot.root.cached <;> cases snapshot.root.state <;> rfl

theorem snapshotText_walk (number : Nat) :
    (snapshotText attempt number registry).walk =
      FrozenGraph.snapshotText attempt.walk number registry := by
  funext run
  rw [snapshotText, look_walk, FrozenGraph.snapshotText, Walk.bind_get]
  cases run.world.snapshots[number]? with
  | none => rfl
  | some snapshot =>
    dsimp only
    cases snapshot.root.cached with
    | some text => rfl
    | none =>
      show Walk.inSession _ (renderRoot attempt number registry).walk run = _
      rw [renderRoot_walk]

theorem generate_walk (statement : Deferred) :
    (generate attempt registry statement).walk = statement.generate attempt.walk registry := by
  cases statement with
  | text content => rfl
  | failing details => rfl
  | snapshot number => exact snapshotText_walk attempt registry number
  | node planned =>
    rw [generate, Deferred.generate]
    cases planned.cached <;> rfl

mutual

theorem valueSource_walk : (code : Code) →
    (code.valueSource (generate attempt registry)).walk =
      code.valueSource (Deferred.generate attempt.walk registry)
  | .literal _ => rfl
  | .reference _ => rfl
  | .raw _ => rfl
  | .anonymous _ overrides => by
    rw [Expr.valueSource, Expr.valueSource, bind_walk, overridesSource_walk overrides]
    rfl
  | .list items => by
    rw [Expr.valueSource, Expr.valueSource, bind_walk, additionsSource_walk items]
    rfl
  | .ret inner => by
    rw [Expr.valueSource, Expr.valueSource, valueSource_walk inner]
  | .deferred statement => generate_walk attempt registry statement

theorem overridesSource_walk : (overrides : List (Override Deferred)) →
    (Expr.overridesSource (generate attempt registry) overrides).walk =
      Expr.overridesSource (Deferred.generate attempt.walk registry) overrides
  | [] => rfl
  | .empty _ _ :: rest => by
    rw [Expr.overridesSource, Expr.overridesSource, bind_walk, overridesSource_walk rest]
    rfl
  | .returning _ _ value :: rest => by
    rw [Expr.overridesSource, Expr.overridesSource, bind_walk, valueSource_walk value]
    simp only [bind_walk, overridesSource_walk rest]
    rfl

theorem additionsSource_walk : (items : List Code) →
    (Expr.additionsSource (generate attempt registry) items).walk =
      Expr.additionsSource (Deferred.generate attempt.walk registry) items
  | [] => rfl
  | item :: rest => by
    rw [Expr.additionsSource, Expr.additionsSource, bind_walk, valueSource_walk item]
    simp only [bind_walk, additionsSource_walk rest]
    rfl

end

/-- Printing is watched as the statements are that are printed. -/
theorem source_walk (code : Code) :
    (code.source (generate attempt registry)).walk =
      code.source (Deferred.generate attempt.walk registry) := by
  unfold Expr.source
  split
  · rw [Expr.bodySource, Expr.bodySource, bind_walk, valueSource_walk]
    rfl
  · exact valueSource_walk attempt registry code

/-! ### Nodes -/

theorem answer_walk (heap : Heap) (node : Node) (method : Method) :
    (answer heap node method).walk = node.answer heap method := by
  rw [answer, Node.answer, bind_walk]
  refine congrArg (Walk.invoke heap node.object method.name >>= ·) (funext fun outcome => ?_)
  cases outcome <;> rfl

theorem express_walk (node : Node) (inner : Registry) (declared : DeclaredType) (value : Value) :
    (express attempt node registry inner declared value).walk =
      node.express attempt.walk registry inner declared value := by
  funext run
  unfold express recordFor
  rw [look_walk, Node.express, Walk.bind_get]
  cases Route.choose registry node.expansions run.session declared value with
  | error report => rfl
  | ok route =>
    cases route with
    | null | known code => cases value.identity? <;> rfl
    | literal =>
      show (Watched.value _ inner _ _ value >>= fun code => _).walk run =
        (Encode.value _ inner _ _ value >>= fun code => _) run
      rw [bind_walk, value_walk]
      cases value.identity? <;> rfl
    | expand target =>
      cases value with
      | scalar scalar => rfl
      | list identity items => rfl
      | object live =>
        show (expandObject _ inner _ live target >>= fun code => _).walk run =
          (FrozenGraph.expandObject _ inner _ live target >>= fun code => _) run
        rw [bind_walk, expandObject_walk]
        rfl

theorem overrides_walk (heap : Heap) (node : Node) (inner : Registry) (methods : List Method) :
    (ledger : Ledger) → (overrides heap attempt node registry inner ledger methods).walk =
      node.overrides heap attempt.walk registry inner ledger methods := by
  induction methods with
  | nil => exact fun _ => rfl
  | cons method rest inductionHypothesis =>
    intro ledger
    rw [overrides, Node.overrides]
    split
    · rw [bind_walk, inductionHypothesis]
      rfl
    · simp only [bind_walk, inductionHypothesis, annotatedAfter, answer_walk, express_walk]
      rfl

theorem classSource_walk (heap : Heap) (ledger : Ledger) (node : Node) :
    (classSource heap attempt ledger node registry).walk =
      node.classSource heap attempt.walk ledger registry := by
  rw [classSource, Node.classSource]
  simp only [bind_walk, overrides_walk, source_walk]

end Walks

theorem attempt_walk (heap : Heap) (fuel : Nat) :
    WatchedAttempt.walk (attempt heap fuel) = Node.attempt heap fuel := by
  induction fuel with
  | zero => rfl
  | succ fuel inductionHypothesis =>
    funext ledger node registry
    rw [WatchedAttempt.walk, attempt, Node.attempt]
    simp only [annotatedAfter, bind_walk, ensuring, classSource_walk, inductionHypothesis]
    rfl

theorem literalText_walk (attempt : WatchedAttempt) (value : Value) (registry : Registry) :
    (literalText attempt value registry).walk =
      FrozenGraph.literalText attempt.walk value registry := by
  rw [literalText, FrozenGraph.literalText]
  simp only [bind_walk, value_walk, source_walk]
  rfl

end Watched

/-! ### Whole runs -/

namespace Heap

/-- The rendering of a snapshot, watched. -/
def watchedRender (heap : Heap) (world : World) (number : Nat) (registry : Registry) :
    Watched String :=
  Watched.snapshotText (Watched.attempt heap (heap.fuel world)) number registry

/-- The writing of a value as a literal of its own, watched. -/
def watchedLoad (heap : Heap) (world : World) (value : Value) (registry : Registry) :
    Watched String :=
  Watched.literalText (Watched.attempt heap (heap.fuel world)) value registry

theorem render_eq_watched (heap : Heap) (world : World) (number : Nat) (registry : Registry) :
    heap.render world number registry =
      perform world .empty (heap.watchedRender world number registry).walk := by
  rw [watchedRender, Watched.snapshotText_walk, Watched.attempt_walk]
  rfl

theorem load_eq_watched (heap : Heap) (world : World) (value : Value) (registry : Registry) :
    heap.load world value registry =
      perform world .empty (heap.watchedLoad world value registry).walk := by
  rw [watchedLoad, Watched.literalText_walk, Watched.attempt_walk]
  rfl

end Heap

end FrozenGraph
