/-
This file holds type names: dotted names that may carry type arguments in angle brackets. Two
names denote the same type in the registries when they agree after erasure, which cuts the
arguments off.
-/

import FrozenGraph.Unicode.Blank

namespace FrozenGraph

/-- The name of a type, as it was given. -/
structure TypeName where
  text : String
deriving DecidableEq, Repr

namespace TypeName

/-- The part of a name in front of its type arguments. -/
def head (name : TypeName) : List Char :=
  name.text.toList.takeWhile (· ≠ '<')

/-- The name without type arguments and without the white space around it. -/
def erased (name : TypeName) : TypeName :=
  ⟨String.ofList (Unicode.trim name.head)⟩

/-- The last segment of a name. -/
def short (name : TypeName) : String :=
  String.ofList (name.head.reverse.takeWhile (· ≠ '.')).reverse

/-- The package whose own types need no qualification in source text. -/
def implicitPackage : List Char :=
  "java.lang.".toList

/-- The name as source text: types directly in the implicit package lose their qualification. -/
def source (name : TypeName) : String :=
  let qualified := name.erased.text.toList
  if implicitPackage.isPrefixOf qualified then
    let simple := qualified.drop implicitPackage.length
    if simple.contains '.' then String.ofList qualified else String.ofList simple
  else String.ofList qualified

end TypeName

end FrozenGraph
