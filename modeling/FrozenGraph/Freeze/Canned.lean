/-
This file holds canned representations: expressions that stand in for objects and lists, found by
identity and never by contents.
-/

import FrozenGraph.Freeze.Code

namespace FrozenGraph

/-- One entry for each key, with the value that the key was taken from. -/
structure Canned where
  entries : List (Identity × Value × Code)

namespace Canned

/-- No entry. -/
def empty : Canned :=
  ⟨[]⟩

/-- Puts an expression in the place of an identity, instead of an earlier one. -/
def put (canned : Canned) (identity : Identity) (key : Value) (code : Code) : Canned :=
  ⟨canned.entries.filter (·.1 ≠ identity) ++ [(identity, key, code)]⟩

/-- Puts an expression in the place of an object. -/
def insert (canned : Canned) (object : LiveObject) (code : Code) : Canned :=
  canned.put object.identity (.object object) code

/-- The report on a key that is compared by value. -/
def keyReport (key : Value) : Report :=
  .ofFault (.invalid "canned representation key" (key.describe ++ " has no reference identity"))

/-- Puts an expression in the place of a value, which has to have an identity. -/
def insertValue (canned : Canned) (key : Value) (code : Code) : Except Report Canned :=
  match key.identity? with
  | some identity => .ok (canned.put identity key code)
  | none => .error (keyReport key)

/-- The expression for an identity. -/
def find? (canned : Canned) (identity : Identity) : Option Code :=
  (canned.entries.lookup identity).map (·.2)

/-- The number of entries. -/
def size (canned : Canned) : Nat :=
  canned.entries.length

end Canned

end FrozenGraph
