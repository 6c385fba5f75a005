/-
This file holds the steps of a walk over a heap. A walk changes the world (which accessors were
invoked, which lists came into being, how far the snapshots are) and its session, and keeps these
changes when it fails. Running out of fuel is told apart from every failure.
-/

import FrozenGraph.Freeze.Origins
import FrozenGraph.Freeze.Route
import FrozenGraph.Graph.Heap

namespace FrozenGraph

/-! ### State -/

/-- A snapshot: the node of its object, and what stands in for other objects. -/
structure Snapshot where
  root : Node
  canned : Canned
  /-- Where the answers of the root's accessors came from, over all its runs. -/
  origins : Origins

/-- One node whose rendering began: its object and its target. -/
structure Rendering where
  object : Identity
  target : Target
deriving DecidableEq, Repr

/-- What outlives a walk. -/
structure World where
  /-- Every accessor invoked so far, the latest first. -/
  history : List Invocation
  /-- Every node whose rendering began so far, the latest first. -/
  renderings : List Rendering
  /-- The number of lists that came into being. -/
  allocated : Nat
  /-- All snapshots, each at its number. -/
  snapshots : List Snapshot

/-- Nothing has happened yet. -/
def World.initial : World :=
  ⟨[], [], 0, []⟩

/-- The invocations that came after an earlier world, in their order. -/
def World.since (later earlier : World) : List Invocation :=
  (later.history.take (later.history.length - earlier.history.length)).reverse

/-- The renderings that began after an earlier world, in their order. -/
def World.renderingsSince (later earlier : World) : List Rendering :=
  (later.renderings.take (later.renderings.length - earlier.renderings.length)).reverse

/-- What a walk changes. -/
structure Run where
  world : World
  session : Session

/-- Why a walk ended early. -/
inductive Stop where
  | failed (report : Report)
  | outOfFuel
deriving DecidableEq, Repr

/-- A walk: it ends with an answer or a reason, and with the changed state either way. -/
abbrev Walk := EStateM Stop Run

namespace Walk

/-! ### Failures -/

/-- Fails with a report. -/
def fail {α : Type} (report : Report) : Walk α :=
  throw (.failed report)

/-- Goes on with a result, or fails with its report. -/
def lift {α : Type} : Except Report α → Walk α
  | .ok answer => pure answer
  | .error report => fail report

/-- Adds to the report of a walk that fails what the state says when it has failed. -/
def annotatedAfter {α : Type} (note : Run → Report → Report) (walk : Walk α) : Walk α := fun run =>
  match walk run with
  | .error (.failed report) after => .error (.failed (note after report)) after
  | .error .outOfFuel after => .error .outOfFuel after
  | .ok answer after => .ok answer after

/-- Adds to the report of a walk that fails. -/
def annotated {α : Type} (note : Report → Report) : Walk α → Walk α :=
  annotatedAfter fun _ => note

/-- Changes the state after a walk, whether it failed or not. -/
def ensuring {α : Type} (cleanup : Run → Run) (walk : Walk α) : Walk α := fun run =>
  match walk run with
  | .error stop after => .error stop (cleanup after)
  | .ok answer after => .ok answer (cleanup after)

/-- Walks in another session and comes back to this one afterwards. -/
def inSession {α : Type} (session : Session) (walk : Walk α) : Walk α := fun run =>
  match walk { run with session } with
  | .error stop after => .error stop { after with session := run.session }
  | .ok answer after => .ok answer { after with session := run.session }

/-! ### The session -/

/-- Changes the session. -/
def onSession (change : Session → Session) : Walk Unit :=
  modify fun run => { run with session := change run.session }

/-- Keeps a value. -/
def retain (value : Value) : Walk Unit :=
  onSession (·.retain value)

/-- Records an expression for an identity. -/
def record (identity : Identity) (code : Code) : Walk Unit :=
  onSession (·.record identity code)

/-- Puts an object on the chain. -/
def enter (identity : Identity) (description : String) : Walk Unit := do
  let session ← lift ((← get).session.enter identity description)
  onSession fun _ => session

/-! ### The world -/

/-- Changes a snapshot. -/
def onSnapshot (number : Nat) (change : Snapshot → Snapshot) : Walk Unit :=
  modify fun run =>
    { run with world := { run.world with
        snapshots := run.world.snapshots.modify number change } }

/-- Changes the root of a snapshot. -/
def onRoot (number : Nat) (change : Node → Node) : Walk Unit :=
  onSnapshot number fun snapshot => { snapshot with root := change snapshot.root }

/-- Notes an invocation. -/
def note (invocation : Invocation) : Walk Unit :=
  modify fun run =>
    { run with world := { run.world with history := invocation :: run.world.history } }

/-- Notes that the rendering of a node begins. -/
def begin (rendering : Rendering) : Walk Unit :=
  modify fun run =>
    { run with world := { run.world with renderings := rendering :: run.world.renderings } }

/-- Brings the new lists of a template into being. -/
def materialize (heap : Heap) (template : Template) : Walk Value :=
  modifyGet fun run =>
    let (value, allocated) := template.materialize heap.supply run.world.allocated
    (value, { run with world := { run.world with allocated } })

/-- Invokes an accessor and notes what came of it. -/
def invoke (heap : Heap) (object : LiveObject) (accessor : String) :
    Walk (Except AccessorFault Value) := do
  let outcome ← match heap.answer (← get).world.history object.identity accessor with
    | .error fault => pure (.error fault)
    | .ok template => do
      let value ← materialize heap template
      pure (.ok value)
  note ⟨object.identity, accessor, outcome⟩
  pure outcome

end Walk

end FrozenGraph
