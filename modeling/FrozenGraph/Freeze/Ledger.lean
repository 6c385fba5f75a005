/-
This file holds ledgers: where a run of a node keeps the origins of the answers that it got. The
root of a snapshot can run again inside a run of its own, in another session; the two runs share
the origins that are kept with the snapshot. Every other node runs once and keeps its own.
-/

import FrozenGraph.Freeze.Walk

namespace FrozenGraph

/-- The place of a node's origins. -/
inductive Ledger where
  | own (origins : Origins)
  /-- With the snapshot of this number, whose root the node is. -/
  | ofSnapshot (number : Nat)

namespace Ledger

/-- The ledger of a node that runs once. -/
def empty : Ledger :=
  .own .empty

/-- The origins that a ledger holds. -/
def origins (ledger : Ledger) (run : Run) : Origins :=
  match ledger with
  | .own origins => origins
  | .ofSnapshot number =>
    match run.world.snapshots[number]? with
    | some snapshot => snapshot.origins
    | none => .empty

/-- Notes the accessor for a value and for everything that it holds in lists. -/
def record (ledger : Ledger) (method : Method) (value : Value) : Walk Ledger :=
  match ledger with
  | .own origins => pure (.own (origins.recordValue method value))
  | .ofSnapshot number => do
    Walk.onSnapshot number fun snapshot =>
      { snapshot with origins := snapshot.origins.recordValue method value }
    pure ledger

end Ledger

end FrozenGraph
