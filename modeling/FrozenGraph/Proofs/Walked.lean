/-
This file tells the course of a walk without its monad: two relations say how a part of a walk leads
from one state to the next, and through which events. `Walked` holds of the parts that ended with
an answer, and `Stopped` of those that failed. Every later statement about walks is an induction on
these relations; that the walks of the library follow them is shown in `Proofs/Traced`.

The relations are about sessions whose expressions can be printed at once, so that printing is no
part of them: a session that starts without embedded statements stays such a session.
-/

import FrozenGraph.Proofs.Printed

namespace FrozenGraph

/-! ### Events -/

/-- What a walk does to the world: the rendering of a node begins, or a method of an object is
invoked. -/
inductive Event where
  | rendering (rendering : Rendering)
  | call (object : Identity) (method : Method) (outcome : Except AccessorFault Value)

namespace Event

/-- The rendering that an event begins. -/
def rendering? : Event → Option Rendering
  | .rendering begun => some begun
  | .call .. => none

/-- The invocation that is noted with an event. -/
def invocation? : Event → Option Invocation
  | .rendering _ => none
  | .call object method outcome => some ⟨object, method.name, outcome⟩

/-- The renderings that began with some events, in their order. -/
def renderings (events : List Event) : List Rendering :=
  events.filterMap rendering?

/-- The invocations that are noted with some events, in their order. -/
def invocations (events : List Event) : List Invocation :=
  events.filterMap invocation?

@[simp] theorem renderings_cons_call (object : Identity) (method : Method)
    (outcome : Except AccessorFault Value) (events : List Event) :
    renderings (.call object method outcome :: events) = renderings events := rfl

@[simp] theorem renderings_append (first second : List Event) :
    renderings (first ++ second) = renderings first ++ renderings second :=
  List.filterMap_append

@[simp] theorem invocations_cons_call (object : Identity) (method : Method)
    (outcome : Except AccessorFault Value) (events : List Event) :
    invocations (.call object method outcome :: events) =
      ⟨object, method.name, outcome⟩ :: invocations events := rfl

@[simp] theorem invocations_append (first second : List Event) :
    invocations (first ++ second) = invocations first ++ invocations second :=
  List.filterMap_append

end Event

/-! ### Single changes of the state -/

/-- What an accessor answers now, and how many lists there are after that. -/
def Heap.reply (heap : Heap) (world : World) (object : Identity) (accessor : String) :
    Except AccessorFault Value × Nat :=
  match heap.answer world.history object accessor with
  | .error fault => (.error fault, world.allocated)
  | .ok template =>
    let (value, allocated) := template.materialize heap.supply world.allocated
    (.ok value, allocated)

namespace Run

/-- The state once a value is kept. -/
def retain (run : Run) (value : Value) : Run :=
  { run with session := run.session.retain value }

/-- The state once an expression is recorded. -/
def record (run : Run) (identity : Identity) (code : Code) : Run :=
  { run with session := run.session.record identity code }

/-- The state once the expression of a value is recorded under its identity, if it has one. -/
def recordFor (run : Run) (value : Value) (code : Code) : Run :=
  match value.identity? with
  | some identity => run.record identity code
  | none => run

/-- The state once an object is on the chain and its rendering begins. -/
def enter (run : Run) (object : LiveObject) (target : Target) : Run where
  world := { run.world with renderings := ⟨object.identity, target⟩ :: run.world.renderings }
  session := { run.session with
    chain := ⟨run.session.chain.members ++ [⟨object.identity, object.describe⟩]⟩ }

/-- The state once an object is off the chain. -/
def leave (run : Run) (identity : Identity) : Run :=
  { run with session := run.session.leave identity }

/-- The state once an invocation is noted. -/
def note (run : Run) (invocation : Invocation) (allocated : Nat) : Run :=
  { run with world := { run.world with
      history := invocation :: run.world.history
      allocated } }

end Run

/-- The same end with something added to its report, if it has one. -/
def Stop.annotate (note : Report → Report) : Stop → Stop
  | .failed report => .failed (note report)
  | .outOfFuel => .outOfFuel

namespace Node

/-- The registry in which the values inside the answers of a node are written. -/
def inner (node : Node) (registry : Registry) : Registry :=
  registry.withTargets node.expansions.targets

end Node

/-! ### Finished statements -/

/-- The text of a statement for which nothing has to be done any more. -/
def Deferred.finished? : Deferred → Option String
  | .text content => some content
  | .node planned => planned.cached
  | .failing _ | .snapshot _ => none

/-- The text of a finished statement. -/
def Deferred.finished (statement : Deferred) : String :=
  statement.finished?.getD ""

/-- Whether all statements of an expression are finished. -/
def Code.IsFinished (code : Code) : Prop :=
  ∀ statement ∈ code.statements, statement.finished?.isSome

/-- An expression whose statements are finished as source text. -/
def Code.written (code : Code) : String :=
  code.text Deferred.finished

/-- The text of a node with overriding methods whose statements are finished. -/
def Node.classText (node : Node) (registry : Registry) (overrides : List (Override Deferred)) :
    String :=
  Layout.format registry.options
    (Code.written (.anonymous node.target.declaredType overrides))

/-! ### Parts of a walk that end with an answer -/

/-- A part of a walk together with what came of it. -/
inductive Part where
  | value (registry : Registry) (expansions : Expansions) (declared : Option DeclaredType)
    (value : Value) (code : Code)
  | items (registry : Registry) (expansions : Expansions) (items : List Value)
    (codes : List Code)
  | object (registry : Registry) (expansions : Expansions) (object : LiveObject)
    (target : Target) (code : Code)
  | answer (node : Node) (registry : Registry) (declared : DeclaredType) (value : Value)
    (code : Code)
  | methods (node : Node) (registry : Registry) (ledger : Ledger) (methods : List Method)
    (overrides : List (Override Deferred))

/-- A part of a walk leads from one state to another through some events. -/
inductive Walked (heap : Heap) : Part → Run → List Event → Run → Prop
  | scalar {registry expansions declared scalar run} :
    Walked heap (.value registry expansions declared (.scalar scalar) (.literal scalar)) run [] run
  | known {registry expansions declared value code identity run}
    (identified : value.identity? = some identity)
    (found : run.session.memo.find? identity = some code) :
    Walked heap (.value registry expansions declared value code) run [] run
  | list {registry expansions declared identity items codes before events after}
    (unknown : before.session.memo.find? identity = none)
    (written : Walked heap (.items registry expansions items codes) before events after) :
    Walked heap (.value registry expansions declared (.list identity items) (.list codes)) before
      events (after.record identity (.list codes))
  | literalObject {registry expansions declared live target code before events after}
    (unknown : before.session.memo.find? live.identity = none)
    (fits : Encode.targetFor? registry expansions declared live.runtime = some target)
    (expanded : Walked heap (.object registry expansions live target code) before events after) :
    Walked heap (.value registry expansions declared (.object live) code) before events after
  | noItem {registry expansions run} :
    Walked heap (.items registry expansions [] []) run [] run
  | item {registry expansions value rest code codes before between first second after}
    (head : Walked heap (.value registry expansions none value code) (before.retain value) first
      between)
    (tail : Walked heap (.items registry expansions rest codes) between second after) :
    Walked heap (.items registry expansions (value :: rest) (code :: codes)) before
      (first ++ second) after
  | reused {registry expansions object target code run}
    (found : run.session.memo.find? object.identity = some code) :
    Walked heap (.object registry expansions object target code) run [] run
  | rendered {registry expansions object target node overrides before events after}
    (unknown : before.session.memo.find? object.identity = none)
    (built : Node.build object target expansions = .ok node)
    (free : before.session.chain.contains object.identity = false)
    (overridden : Walked heap (.methods node registry .empty node.accessors overrides)
      (before.enter object target) events after) :
    Walked heap
      (.object registry expansions object target
        (.deferred (.node (node.complete (node.classText registry overrides)))))
      before (.rendering ⟨object.identity, target⟩ :: events)
      ((after.leave object.identity).record object.identity
        (.deferred (.node (node.complete (node.classText registry overrides)))))
  | null {node registry declared run} :
    Walked heap (.answer node registry declared .null .null) run [] run
  | recalled {node registry declared value code run}
    (routed : Route.choose registry node.expansions run.session declared value =
      .ok (.known code)) :
    Walked heap (.answer node registry declared value code) run [] (run.recordFor value code)
  | literal {node registry declared value code before events after}
    (routed : Route.choose registry node.expansions before.session declared value = .ok .literal)
    (written : Walked heap
      (.value (node.inner registry) node.expansions (some declared) value code) before events
      after) :
    Walked heap (.answer node registry declared value code) before events
      (after.recordFor value code)
  | expanded {node registry declared live target code before events after}
    (routed : Route.choose registry node.expansions before.session declared (.object live) =
      .ok (.expand target))
    (written : Walked heap (.object (node.inner registry) node.expansions live target code) before
      events after) :
    Walked heap (.answer node registry declared (.object live) code) before events
      (after.record live.identity code)
  | noMethod {node registry ledger run} :
    Walked heap (.methods node registry ledger [] []) run [] run
  | skipped {node registry ledger method rest overrides before events after}
    (void : method.returns = .void)
    (later : Walked heap (.methods node registry ledger rest overrides) before events after) :
    Walked heap
      (.methods node registry ledger (method :: rest)
        (.empty method.name method.returns :: overrides))
      before events after
  | method {node registry ledger ledger' method rest value allocated code overrides before noted
      between first second after}
    (answers : method.returns ≠ .void)
    (replied : heap.reply before.world node.object.identity method.name = (.ok value, allocated))
    (recorded : ledger.record method value
      ((before.note ⟨node.object.identity, method.name, .ok value⟩ allocated).retain value) =
      .ok ledger' noted)
    (expressed : Walked heap (.answer node registry method.returns value code) noted first between)
    (later : Walked heap (.methods node registry ledger' rest overrides) between second after) :
    Walked heap
      (.methods node registry ledger (method :: rest)
        (.returning method.name method.returns code :: overrides))
      before
      (.call node.object.identity method (.ok value) :: (first ++ second)) after

/-! ### Parts of a walk that fail -/

/-- A part of a walk, whatever comes of it. -/
inductive Task where
  | value (registry : Registry) (expansions : Expansions) (declared : Option DeclaredType)
    (value : Value)
  | items (registry : Registry) (expansions : Expansions) (items : List Value)
  | object (registry : Registry) (expansions : Expansions) (object : LiveObject)
    (target : Target)
  | answer (node : Node) (registry : Registry) (declared : DeclaredType) (value : Value)
  | methods (node : Node) (registry : Registry) (ledger : Ledger) (methods : List Method)

/-- A part of a walk fails in a state, after some events and for a reason. -/
inductive Stopped (heap : Heap) : Task → Run → List Event → Stop → Run → Prop
  | list {registry expansions declared identity items before events stop after}
    (unknown : before.session.memo.find? identity = none)
    (failed : Stopped heap (.items registry expansions items) before events stop after) :
    Stopped heap (.value registry expansions declared (.list identity items)) before events stop
      after
  | untargeted {registry expansions declared live run}
    (unknown : run.session.memo.find? live.identity = none)
    (unfit : Encode.targetFor? registry expansions declared live.runtime = none) :
    Stopped heap (.value registry expansions declared (.object live)) run []
      (.failed (Encode.noTargetReport live)) run
  | literalObject {registry expansions declared live target before events stop after}
    (unknown : before.session.memo.find? live.identity = none)
    (fits : Encode.targetFor? registry expansions declared live.runtime = some target)
    (failed : Stopped heap (.object registry expansions live target) before events stop after) :
    Stopped heap (.value registry expansions declared (.object live)) before events stop after
  | item {registry expansions value rest before events stop after}
    (failed : Stopped heap (.value registry expansions none value) (before.retain value) events
      stop after) :
    Stopped heap (.items registry expansions (value :: rest)) before events stop after
  | laterItem {registry expansions value rest code before between first second stop after}
    (head : Walked heap (.value registry expansions none value code) (before.retain value) first
      between)
    (failed : Stopped heap (.items registry expansions rest) between second stop after) :
    Stopped heap (.items registry expansions (value :: rest)) before (first ++ second) stop after
  | unbuilt {registry expansions object target report run}
    (unknown : run.session.memo.find? object.identity = none)
    (refused : Node.build object target expansions = .error report) :
    Stopped heap (.object registry expansions object target) run [] (.failed report) run
  | reentered {registry expansions object target node run}
    (unknown : run.session.memo.find? object.identity = none)
    (built : Node.build object target expansions = .ok node)
    (busy : run.session.chain.contains object.identity = true) :
    Stopped heap (.object registry expansions object target) run []
      (.failed (node.noteOn run.session.chain.cycleReport)) run
  | exhausted {registry expansions object target node run}
    (unknown : run.session.memo.find? object.identity = none)
    (built : Node.build object target expansions = .ok node)
    (free : run.session.chain.contains object.identity = false) :
    Stopped heap (.object registry expansions object target) run
      [.rendering ⟨object.identity, target⟩] .outOfFuel (run.enter object target)
  | unrendered {registry expansions object target node before events stop after}
    (unknown : before.session.memo.find? object.identity = none)
    (built : Node.build object target expansions = .ok node)
    (free : before.session.chain.contains object.identity = false)
    (failed : Stopped heap (.methods node registry .empty node.accessors)
      (before.enter object target) events stop after) :
    Stopped heap (.object registry expansions object target) before
      (.rendering ⟨object.identity, target⟩ :: events) (stop.annotate node.noteOn)
      (after.leave object.identity)
  | unrouted {node registry declared value report run}
    (refused : Route.choose registry node.expansions run.session declared value =
      .error report) :
    Stopped heap (.answer node registry declared value) run [] (.failed report) run
  | literal {node registry declared value before events stop after}
    (routed : Route.choose registry node.expansions before.session declared value = .ok .literal)
    (failed : Stopped heap (.value (node.inner registry) node.expansions (some declared) value)
      before events stop after) :
    Stopped heap (.answer node registry declared value) before events stop after
  | expanded {node registry declared live target before events stop after}
    (routed : Route.choose registry node.expansions before.session declared (.object live) =
      .ok (.expand target))
    (failed : Stopped heap (.object (node.inner registry) node.expansions live target) before
      events stop after) :
    Stopped heap (.answer node registry declared (.object live)) before events stop after
  | shapeless {node registry declared value target run}
    (routed : Route.choose registry node.expansions run.session declared value =
      .ok (.expand target))
    (shape : ∀ live, value ≠ .object live) :
    Stopped heap (.answer node registry declared value) run []
      (.failed (Route.notLiteralReport value)) run
  | skipped {node registry ledger method rest before events stop after}
    (void : method.returns = .void)
    (failed : Stopped heap (.methods node registry ledger rest) before events stop after) :
    Stopped heap (.methods node registry ledger (method :: rest)) before events stop after
  | unanswered {node registry ledger method rest fault allocated before}
    (answers : method.returns ≠ .void)
    (replied : heap.reply before.world node.object.identity method.name =
      (.error fault, allocated)) :
    Stopped heap (.methods node registry ledger (method :: rest)) before
      [.call node.object.identity method (.error fault)]
      (.failed (Node.noteAccessor ledger method
        (before.note ⟨node.object.identity, method.name, .error fault⟩ allocated)
        (Node.extractionReport method fault)))
      (before.note ⟨node.object.identity, method.name, .error fault⟩ allocated)
  | unexpressed {node registry ledger ledger' method rest value allocated before noted events stop
      after}
    (answers : method.returns ≠ .void)
    (replied : heap.reply before.world node.object.identity method.name = (.ok value, allocated))
    (recorded : ledger.record method value
      ((before.note ⟨node.object.identity, method.name, .ok value⟩ allocated).retain value) =
      .ok ledger' noted)
    (failed : Stopped heap (.answer node registry method.returns value) noted events stop after) :
    Stopped heap (.methods node registry ledger (method :: rest)) before
      (.call node.object.identity method (.ok value) :: events)
      (stop.annotate (Node.noteAccessor ledger' method after)) after
  | laterMethod {node registry ledger ledger' method rest value allocated code before noted between
      first second stop after}
    (answers : method.returns ≠ .void)
    (replied : heap.reply before.world node.object.identity method.name = (.ok value, allocated))
    (recorded : ledger.record method value
      ((before.note ⟨node.object.identity, method.name, .ok value⟩ allocated).retain value) =
      .ok ledger' noted)
    (expressed : Walked heap (.answer node registry method.returns value code) noted first between)
    (failed : Stopped heap (.methods node registry ledger' rest) between second stop after) :
    Stopped heap (.methods node registry ledger (method :: rest)) before
      (.call node.object.identity method (.ok value) :: (first ++ second)) stop after

end FrozenGraph
