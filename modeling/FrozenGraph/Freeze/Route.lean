/-
This file decides how the answer of an accessor is written: as `null`, by an expression that is
known already, as a literal, or by expanding the object.
-/

import FrozenGraph.Freeze.Session
import FrozenGraph.Registry.Scope

namespace FrozenGraph

/-- The ways to write an answer. -/
inductive Route where
  | null
  | known (code : Code)
  | literal
  | expand (target : Target)

namespace Route

/-- The report on a value that cannot be written. -/
def notLiteralReport (value : Value) : Report :=
  .ofFault (.notLiteral value.describe value.typeName value.identity?)

/-- The report on an answer whose declared type is not registered anywhere. -/
def unregisteredReport (value : Value) (declared : DeclaredType) : Report :=
  (notLiteralReport value).addText
    ("Declared type " ++ declared.display ++ " is neither literalizable nor a recursion type")

/-- Whether a value is an object or a list in progress. -/
def isInProgress (chain : Chain) (value : Value) : Bool :=
  match value.identity? with
  | some identity => chain.contains identity
  | none => false

/-- The expression that is known for a value. -/
def known? (session : Session) (value : Value) : Option Code :=
  value.identity?.bind session.memo.find?

/-- The way to write an answer of a declared type. Absence comes first, then what is known, then
literals; only an expansion can close a cycle. -/
def choose (registry : Registry) (expansions : Expansions) (session : Session)
    (declared : DeclaredType) (value : Value) : Except Report Route :=
  if value.isNull then .ok .null
  else match known? session value with
    | some code => .ok (.known code)
    | none =>
      if registry.hasLiteral declared then .ok .literal
      else match expansions.byDeclared? declared with
        | some target =>
          if isInProgress session.chain value then .error session.chain.cycleReport
          else .ok (.expand target)
        | none => .error (unregisteredReport value declared)

end Route

end FrozenGraph
