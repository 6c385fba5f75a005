/-
This file holds the source text that snapshots are assembled from: expressions whose embedded
statements are finished text, statements that fail, and snapshots.
-/

import FrozenGraph.Freeze.Node
import FrozenGraph.Source.Expr

namespace FrozenGraph

/-- A statement that is generated when the expression around it is printed. -/
inductive Deferred where
  | text (text : String)
  | failing (details : String)
  /-- An object that was expanded where it was met. -/
  | node (node : Node)
  /-- A snapshot by its number. -/
  | snapshot (number : Nat)
deriving DecidableEq, Repr

/-- An expression of a snapshot. -/
abbrev Code := Expr Deferred

end FrozenGraph
