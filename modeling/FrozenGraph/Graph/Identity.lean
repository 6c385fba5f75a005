/-
This file holds reference identities. Two references are the same exactly when their identities
are equal; nothing else about an identity matters but how a diagnostic writes it.
-/

import FrozenGraph.Text.Hex

namespace FrozenGraph

/-- The identity of an object or a list. -/
inductive Identity where
  /-- An entry of a heap, by its name there. -/
  | entry (name : String)
  /-- A list that came into being while a program ran, by its serial number. -/
  | fresh (serial : Nat)
  /-- A place in memory. -/
  | address (location : Nat)
deriving DecidableEq, Repr

/-- The identity as a diagnostic writes it; lists without a name all look alike. -/
def Identity.label : Identity → String
  | .entry name => "#" ++ name
  | .fresh _ => "?"
  | .address location => String.ofList (Text.hex location)

end FrozenGraph
