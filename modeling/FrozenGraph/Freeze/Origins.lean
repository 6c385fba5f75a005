/-
This file remembers which accessor answered each list and object that one object handed out. The
items of a list count as answered by the accessor that answered the list.
-/

import FrozenGraph.Graph.Value
import FrozenGraph.Report

namespace FrozenGraph

/-- The latest accessor for each identity, one entry for each. -/
structure Origins where
  entries : List (Identity × Method)

namespace Origins

/-- Nothing was answered yet. -/
def empty : Origins :=
  ⟨[]⟩

/-- Notes the accessor that answered an identity, in place of an earlier one. -/
def record (origins : Origins) (identity : Identity) (method : Method) : Origins :=
  ⟨(identity, method) :: origins.entries.filter (·.1 ≠ identity)⟩

mutual

/-- Notes the accessor for a value and for everything that it holds in lists. -/
def recordValue (method : Method) (origins : Origins) : Value → Origins
  | .scalar _ => origins
  | .object live => origins.record live.identity method
  | .list identity items => recordAll method (origins.record identity method) items

/-- Notes the accessor for several values. -/
def recordAll (method : Method) (origins : Origins) : List Value → Origins
  | [] => origins
  | first :: rest => recordAll method (recordValue method origins first) rest

end

/-- The origin of the value with an identity. -/
def find? (origins : Origins) (identity : Identity) : Option Origin :=
  (origins.entries.lookup identity).map Origin.ofMethod

/-- The number of identities with an origin. -/
def size (origins : Origins) : Nat :=
  origins.entries.length

end Origins

end FrozenGraph
