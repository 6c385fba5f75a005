/-
This file holds what a caller does with snapshots: plan one, render it, write a value as a literal,
and print an expression. Each of these finds enough fuel on its own: in one session an object is in
progress at most once, and a session is opened inside another only for a snapshot that was planned
before the one around it.
-/

import FrozenGraph.Freeze.Render

namespace FrozenGraph

/-! ### Planning -/

namespace Snapshot

/-- The report on a value that has no accessors. -/
def valueReport (value : Value) : Report :=
  .ofFault (.invalid "object to snapshot"
    (if value.isNull then "cannot snapshot null"
      else value.describe ++ " of type " ++ value.typeName.text ++ " has no accessors"))

/-- Plans a value, which has to be an object, as an anonymous subclass of a target. No accessor is
invoked before the snapshot is rendered. -/
def plan (value : Value) (target : Target) (canned : Canned) (expanded : List Target) :
    Except Report Snapshot :=
  match value with
  | .object live => do
    let root ← Node.build live target (.ofList expanded)
    pure ⟨root, canned, .empty⟩
  | .scalar _ | .list .. => .error (valueReport value)

/-- A snapshot in a diagnostic. -/
def summary (snapshot : Snapshot) : String :=
  "Snapshot \x7b root: " ++ snapshot.root.summary ++ ", canned: " ++
    toString snapshot.canned.size ++ " \x7d"

end Snapshot

namespace World

/-- Adds a snapshot under the next number. -/
def add (world : World) (snapshot : Snapshot) : World × Nat :=
  ({ world with snapshots := world.snapshots ++ [snapshot] }, world.snapshots.length)

/-- A value of a template, its new lists brought into being. -/
def materialize (heap : Heap) (world : World) (template : Template) : World × Value :=
  let (value, allocated) := template.materialize heap.supply world.allocated
  ({ world with allocated }, value)

end World

/-! ### Running -/

/-- Writes a value as a literal of its own, laid out like a snapshot. -/
def literalText (attempt : Attempt) (value : Value) (registry : Registry) : Walk String := do
  Walk.retain value
  let code ← Encode.value (expandObject attempt registry .none) registry .none none value
  let source ← code.source (Deferred.generate attempt registry)
  pure (Layout.format registry.options source)

namespace Heap

/-- Fuel for the longest chain of objects in every session that can be open at once. -/
def fuel (heap : Heap) (world : World) : Nat :=
  (heap.objects.length + 1) * (world.snapshots.length + 2)

/-- Renders a node in a world, with enough fuel. -/
def attempt (heap : Heap) (world : World) : Attempt :=
  Node.attempt heap (heap.fuel world)

/-- How a walk ended, with the world and the session after it. -/
structure Ended (α : Type) where
  result : Except Stop α
  world : World
  session : Session

/-- Walks in a session. -/
def perform {α : Type} (world : World) (session : Session) (walk : Walk α) : Ended α :=
  match walk ⟨world, session⟩ with
  | .ok answer run => ⟨.ok answer, run.world, run.session⟩
  | .error stop run => ⟨.error stop, run.world, run.session⟩

/-- Renders a snapshot. -/
def render (heap : Heap) (world : World) (number : Nat) (registry : Registry) : Ended String :=
  perform world .empty (snapshotText (heap.attempt world) number registry)

/-- Renders the root of a snapshot in a session. -/
def renderIn (heap : Heap) (world : World) (session : Session) (number : Nat)
    (registry : Registry) : Ended String :=
  perform world session (renderRoot (heap.attempt world) number registry)

/-- Writes a value as a literal in a session of its own. -/
def load (heap : Heap) (world : World) (value : Value) (registry : Registry) : Ended String :=
  perform world .empty (literalText (heap.attempt world) value registry)

/-- The whole expression as source text. -/
def source (heap : Heap) (world : World) (code : Code) (registry : Registry) : Ended String :=
  perform world .empty (code.source (Deferred.generate (heap.attempt world) registry))

/-- The body of a method that returns the expression. -/
def bodySource (heap : Heap) (world : World) (code : Code) (registry : Registry) : Ended String :=
  perform world .empty (code.bodySource (Deferred.generate (heap.attempt world) registry))

end Heap

end FrozenGraph
