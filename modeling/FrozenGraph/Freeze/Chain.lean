/-
This file holds the chain of objects in progress: every object is entered when its expansion
starts and left when it ends, and entering one that is on the chain is a reference cycle.
-/

import FrozenGraph.Report

namespace FrozenGraph

/-- The objects in progress, the outermost first. -/
structure Chain where
  members : List Member
deriving DecidableEq, Repr

namespace Chain

/-- Nothing is in progress. -/
def empty : Chain :=
  ⟨[]⟩

/-- Whether an object is in progress. -/
def contains (chain : Chain) (identity : Identity) : Bool :=
  chain.members.any (·.identity == identity)

/-- The number of objects in progress. -/
def depth (chain : Chain) : Nat :=
  chain.members.length

/-- The report that names every object in progress. -/
def cycleReport (chain : Chain) : Report :=
  (Report.ofFault (.cycle chain.members)).addText
    "Supplying a canned representation for one of these objects breaks the cycle"

/-- Puts an object on the chain, unless it is there. -/
def enter (chain : Chain) (identity : Identity) (description : String) : Except Report Chain :=
  if chain.contains identity then .error chain.cycleReport
  else .ok ⟨chain.members ++ [⟨identity, description⟩]⟩

/-- Removes the last of the members with an identity. -/
def removeLast (identity : Identity) : List Member → List Member
  | [] => []
  | first :: rest =>
    if first.identity = identity ∧ ¬ rest.any (·.identity == identity) then rest
    else first :: removeLast identity rest

/-- Takes an object off the chain; an object that is not there changes nothing. -/
def leave (chain : Chain) (identity : Identity) : Chain :=
  ⟨removeLast identity chain.members⟩

end Chain

end FrozenGraph
