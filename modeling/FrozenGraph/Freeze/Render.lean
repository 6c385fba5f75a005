/-
This file renders nodes. The accessors of a node are invoked in order, each answer is written as
an expression, and the anonymous class made of them is printed and laid out. Objects met on the
way are nodes of their own; they are rendered by a walk that is a parameter here, so that fuel is
spent only from one object to the next.
-/

import FrozenGraph.Freeze.Encode
import FrozenGraph.Freeze.Ledger

namespace FrozenGraph

/-- A walk that renders a node whose object is on the chain, and takes it off. -/
abbrev Attempt := Ledger → Node → Registry → Walk String

/-! ### Nodes that are met on the way -/

namespace Node

/-- Puts the object of a node on the chain, and with that begins to render the node. -/
def enter (node : Node) : Walk Unit := do
  Walk.annotated node.noteOn (Walk.enter node.object.identity node.object.describe)
  Walk.begin ⟨node.object.identity, node.target⟩

/-- Renders a node that was never tried. -/
def renderFresh (attempt : Attempt) (node : Node) (registry : Registry) : Walk String := do
  node.enter
  attempt .empty node registry

end Node

/-- An object written as a target, or as it is known already. -/
def expandObject (attempt : Attempt) (registry : Registry) (expansions : Expansions)
    (object : LiveObject) (target : Target) : Walk Code := do
  match (← get).session.memo.find? object.identity with
  | some code => pure code
  | none =>
    let node ← Walk.lift (Node.build object target expansions)
    let text ← node.renderFresh attempt registry
    let code : Code := .deferred (.node (node.complete text))
    Walk.record object.identity code
    pure code

/-! ### Snapshots and statements -/

/-- Renders the root of a snapshot in the session at hand: a text that is there is used again, and
a root that failed is not tried again. -/
def renderRoot (attempt : Attempt) (number : Nat) (registry : Registry) : Walk String := do
  match (← get).world.snapshots[number]? with
  | none => Walk.fail (.ofFault (.failed "render snapshot" "there is no such snapshot"))
  | some snapshot =>
    let root := snapshot.root
    match root.cached, root.state with
    | some text, _ => pure text
    | none, .failed => Walk.fail root.retryReport
    | none, _ =>
      root.enter
      Walk.onRoot number Node.start
      let text ← tryCatch (attempt (.ofSnapshot number) root registry) fun stop => do
        Walk.onRoot number Node.fail
        throw stop
      Walk.onRoot number (·.complete text)
      pure ((((← get).world.snapshots[number]?).bind (·.root.cached)).getD text)

/-- The text of a snapshot: the one that is there, or one from a session of its own that knows the
canned representations. -/
def snapshotText (attempt : Attempt) (number : Nat) (registry : Registry) : Walk String := do
  match (← get).world.snapshots[number]? with
  | none => Walk.fail (.ofFault (.failed "render snapshot" "there is no such snapshot"))
  | some snapshot =>
    match snapshot.root.cached with
    | some text => pure text
    | none => Walk.inSession (.opening snapshot.canned) (renderRoot attempt number registry)

/-- The text of a statement. -/
def Deferred.generate (attempt : Attempt) (registry : Registry) : Deferred → Walk String
  | .text content => pure content
  | .failing details => Walk.fail (.ofFault (.failed "generate statement" details))
  | .node planned =>
    match planned.cached with
    | some content => pure content
    | none => Walk.inSession .empty (planned.renderFresh attempt registry)
  | .snapshot number => snapshotText attempt number registry

/-! ### One node -/

namespace Node

/-- The report of an accessor without an answer. -/
def extractionReport (method : Method) (fault : AccessorFault) : Report :=
  { Report.ofFault (.failed "extract value for snapshot" method.qualifiedName) with
    cause := some fault }

/-- The accessor that a value without a literal came from: the one that its identity was answered
by, else the one that is worked on. -/
def blame (origins : Origins) (method : Method) (report : Report) : Report :=
  match report.fault, report.origin? with
  | .notLiteral _ _ identity, none =>
    report.add (.origin ((identity.bind origins.find?).getD (.ofMethod method)))
  | _, _ => report

/-- Notes the accessor that is worked on in a report. -/
def noteAccessor (ledger : Ledger) (method : Method) (run : Run) (report : Report) : Report :=
  (blame (ledger.origins run) method report).addText
    ("In attempt to snapshot return value of " ++ method.qualifiedName)

/-- Invokes an accessor and keeps its answer. -/
def answer (heap : Heap) (node : Node) (method : Method) : Walk Value := do
  match ← Walk.invoke heap node.object method.name with
  | .error fault => Walk.fail (extractionReport method fault)
  | .ok value =>
    Walk.retain value
    pure value

/-- An answer as an expression, recorded under its identity. The way is chosen in the registry
around the node; values inside the answer are written in the registry of its expansions. -/
def express (attempt : Attempt) (node : Node) (registry inner : Registry)
    (declared : DeclaredType) (value : Value) : Walk Code := do
  let route ← Walk.lift (Route.choose registry node.expansions (← get).session declared value)
  let expand := expandObject attempt inner node.expansions
  let code ← match route, value with
    | .null, _ => pure Expr.null
    | .known code, _ => pure code
    | .literal, _ => Encode.value expand inner node.expansions (some declared) value
    | .expand target, .object live => expand live target
    | .expand _, other => Walk.fail (Route.notLiteralReport other)
  match value.identity? with
  | some identity =>
    Walk.record identity code
    pure code
  | none => pure code

/-- The overriding methods for a list of accessors. A method that answers nothing is overridden
with an empty body and never invoked. -/
def overrides (heap : Heap) (attempt : Attempt) (node : Node) (registry inner : Registry) :
    Ledger → List Method → Walk (List (Override Deferred))
  | _, [] => pure []
  | ledger, method :: rest =>
    if method.returns = .void then do
      let others ← overrides heap attempt node registry inner ledger rest
      pure (.empty method.name method.returns :: others)
    else do
      let value ← Walk.annotatedAfter (noteAccessor ledger method) (node.answer heap method)
      let ledger ← ledger.record method value
      let code ← Walk.annotatedAfter (noteAccessor ledger method)
        (node.express attempt registry inner method.returns value)
      let others ← overrides heap attempt node registry inner ledger rest
      pure (.returning method.name method.returns code :: others)

/-- The anonymous class for a node as source text without layout. -/
def classSource (heap : Heap) (attempt : Attempt) (ledger : Ledger) (node : Node)
    (registry : Registry) : Walk String := do
  let inner := registry.withTargets node.expansions.targets
  let methods ← node.overrides heap attempt registry inner ledger node.accessors
  Expr.source (Deferred.generate attempt inner)
    (.anonymous node.target.declaredType methods)

/-- Renders a node whose object is on the chain. Every object that is met costs one unit of fuel
while it is in progress. -/
def attempt (heap : Heap) : (fuel : Nat) → Attempt
  | 0, _, _, _ => throw .outOfFuel
  | fuel + 1, ledger, node, registry =>
    Walk.annotated node.noteOn do
      let source ← Walk.ensuring
        (fun run => { run with session := run.session.leave node.object.identity })
        (node.classSource heap (attempt heap fuel) ledger registry)
      pure (Layout.format registry.options source)

end Node

end FrozenGraph
