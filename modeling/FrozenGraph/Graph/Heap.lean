/-
This file holds heaps: the objects that a snapshot can reach and how their accessors answer. An
answer may depend on everything that was invoked before it, and may contain lists that come into
being with it.
-/

import FrozenGraph.Graph.Value
import FrozenGraph.Report

namespace FrozenGraph

/-! ### Answers -/

/-- A value whose new lists have no identity yet. -/
inductive Template where
  | existing (value : Value)
  | fresh (items : List Template)

namespace Template

mutual

/-- Gives an identity to every new list, counting them from `allocated` on. -/
def materialize (supply : Nat → Identity) : Template → Nat → Value × Nat
  | .existing value, allocated => (value, allocated)
  | .fresh items, allocated =>
    let (values, next) := materializeAll supply items allocated
    (.list (supply next) values, next + 1)

/-- Gives an identity to every new list in a list of templates. -/
def materializeAll (supply : Nat → Identity) : List Template → Nat → List Value × Nat
  | [], allocated => ([], allocated)
  | first :: rest, allocated =>
    let (value, next) := materialize supply first allocated
    let (values, last) := materializeAll supply rest next
    (value :: values, last)

end

end Template

/-! ### Heaps -/

/-- One call of an accessor, with its outcome. -/
structure Invocation where
  object : Identity
  accessor : String
  outcome : Except AccessorFault Value

/-- Whether an invocation was one of an accessor of an object. -/
def Invocation.isOf (invocation : Invocation) (object : Identity) (accessor : String) : Bool :=
  invocation.object == object && invocation.accessor == accessor

/-- A finite set of objects with the behaviour of their accessors. -/
structure Heap where
  objects : List LiveObject
  /-- What an accessor answers after earlier invocations, the latest of them first. -/
  answer : (history : List Invocation) → (object : Identity) → (accessor : String) →
    Except AccessorFault Template
  /-- The identities of the lists that come into being. -/
  supply : Nat → Identity

end FrozenGraph
