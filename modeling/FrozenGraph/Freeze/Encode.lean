/-
This file writes values as expressions. A value that is known already is written as before; a list
is written item by item; an object is expanded as the target that fits it best. How an object is
expanded is a parameter here.
-/

import FrozenGraph.Freeze.Walk

namespace FrozenGraph

namespace Encode

/-- The target that a declared type is registered for, the registry before the expansions. -/
def declaredTarget? (registry : Registry) (expansions : Expansions)
    (declared : DeclaredType) : Option Target :=
  declared.erasedName.bind fun name =>
    (registry.byName? name).or (expansions.byName? name)

/-- The target to write an object as: the one of the declared type if it accepts the object, else
the first expansion that does, else the first target of the registry that does. -/
def targetFor? (registry : Registry) (expansions : Expansions) (declared : Option DeclaredType)
    (runtime : RuntimeType) : Option Target :=
  let byDeclared := (declared.bind (declaredTarget? registry expansions)).filter (·.accepts runtime)
  (byDeclared.or (expansions.accepting? runtime)).or (registry.accepting? runtime)

/-- The report on an object that no registered target accepts. -/
def noTargetReport (object : LiveObject) : Report :=
  (Route.notLiteralReport (.object object)).addText
    ("No registered type can be extended by runtime type " ++ object.runtime.name.text)

variable (expand : LiveObject → Target → Walk Code) (registry : Registry) (expansions : Expansions)

mutual

/-- A value as an expression; the declared type is known for a whole answer only. -/
def value (declared : Option DeclaredType) : Value → Walk Code
  | .scalar scalar => pure (.literal scalar)
  | .list identity items => do
    match (← get).session.memo.find? identity with
    | some code => pure code
    | none =>
      let elements ← allItems items
      Walk.record identity (.list elements)
      pure (.list elements)
  | .object live => do
    match (← get).session.memo.find? live.identity with
    | some code => pure code
    | none =>
      match targetFor? registry expansions declared live.runtime with
      | none => Walk.fail (noTargetReport live)
      | some target => expand live target

/-- The items of a list as expressions; every item is kept before it is written. -/
def allItems : List Value → Walk (List Code)
  | [] => pure []
  | first :: rest => do
    Walk.retain first
    let head ← value none first
    let tail ← allItems rest
    pure (head :: tail)

end

end Encode

end FrozenGraph
