/-
This file holds nodes: the plan to write one object as an anonymous subclass of one target. A node
is built without invoking anything, is worked off at most once, and keeps its text from then on.
-/

import FrozenGraph.Freeze.Accessors
import FrozenGraph.Graph.Value
import FrozenGraph.Registry.Expansions

namespace FrozenGraph

/-- How far a node has come. -/
inductive NodeState where
  | pending
  | inProgress
  | complete
  | failed
deriving DecidableEq, Repr

namespace NodeState

/-- The state in a status line. -/
def text : NodeState → String
  | .pending => "pending"
  | .inProgress => "in_progress"
  | .complete => "complete"
  | .failed => "failed"

/-- The state in a summary. -/
def title : NodeState → String
  | .pending => "Pending"
  | .inProgress => "InProgress"
  | .complete => "Complete"
  | .failed => "Failed"

end NodeState

/-- One object, the target it is written as, and the accessors that are overridden. -/
structure Node where
  object : LiveObject
  target : Target
  accessors : List Method
  expansions : Expansions
  state : NodeState
  cached : Option String
deriving DecidableEq, Repr

namespace Node

/-- The report on a target that no anonymous class can extend. -/
def obstacleReport (target : Target) : Obstacle → Report
  | .final => .ofFault (.invalid "type to extend" (target.name.text ++ " is final"))
  | .noConstructor =>
    .ofFault (.invalid "type to extend"
      (target.name.text ++ " has no public no-argument constructor"))

/-- The report on an object that does not satisfy a target. -/
def mismatchReport (object : LiveObject) (target : Target) : Report :=
  (Report.ofFault (.invalid "type to extend"
      (target.name.text ++ " is not assignable from runtime type " ++
        object.runtime.name.text))).addText
    ("Object: " ++ object.describe)

/-- Whether a target can be extended. -/
def checkExtendable (target : Target) : Except Report Unit :=
  match target.obstacle? with
  | some obstacle => .error (obstacleReport target obstacle)
  | none => .ok ()

/-- Plans an object as a target: the target has to be extendable, then to accept the object, and
then to have accessors only. -/
def build (object : LiveObject) (target : Target) (expansions : Expansions) :
    Except Report Node := do
  checkExtendable target
  if target.accepts object.runtime then
    let accessors ← target.accessors
    pure ⟨object, target, accessors, expansions, .pending, none⟩
  else .error (mismatchReport object target)

/-- Notes the object and the target of a node in a report. -/
def noteOn (node : Node) (report : Report) : Report :=
  report.addText
    ("While generating a snapshot of " ++ node.object.describe ++ " (actual type: " ++
      node.object.runtime.name.text ++ "; type to extend: " ++ node.target.name.text ++ ")")

/-- The report on a node that failed before. -/
def retryReport (node : Node) : Report :=
  .ofFault (.failed "render snapshot"
    ("an earlier attempt for " ++ node.object.describe ++ " failed"))

/-- The node after a successful attempt. The first text that a node gets is the one it keeps. -/
def complete (node : Node) (text : String) : Node :=
  { node with state := .complete, cached := some (node.cached.getD text) }

/-- The node after a failed attempt. -/
def fail (node : Node) : Node :=
  { node with state := .failed }

/-- The node once its object is in progress. -/
def start (node : Node) : Node :=
  { node with state := .inProgress }

/-- A node in a diagnostic. -/
def summary (node : Node) : String :=
  "SnapshotNode \x7b source: " ++ Text.quoted node.object.describe ++ ", target: TypeName(" ++
    Text.quoted node.target.name.text ++ "), accessors: " ++ toString node.accessors.length ++
    ", state: " ++ node.state.title ++ ", .. \x7d"

end Node

end FrozenGraph
