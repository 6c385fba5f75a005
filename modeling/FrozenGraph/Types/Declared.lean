/-
This file holds declared types: what the declaration of an accessor promises of its answers.
-/

import FrozenGraph.Types.Name

namespace FrozenGraph

/-! ### Primitive types -/

/-- The types whose values have no identity and are never absent. -/
inductive Primitive where
  | boolean
  | byte
  | short
  | int
  | long
  | float
  | double
  | char
deriving DecidableEq, Repr

namespace Primitive

/-- All primitive types. -/
def all : List Primitive :=
  [.boolean, .byte, .short, .int, .long, .float, .double, .char]

/-- The keyword of a primitive type. -/
def keyword : Primitive → String
  | .boolean => "boolean"
  | .byte => "byte"
  | .short => "short"
  | .int => "int"
  | .long => "long"
  | .float => "float"
  | .double => "double"
  | .char => "char"

/-- The name of a primitive type, spelled like the name of a class. -/
def title : Primitive → String
  | .boolean => "Boolean"
  | .byte => "Byte"
  | .short => "Short"
  | .int => "Int"
  | .long => "Long"
  | .float => "Float"
  | .double => "Double"
  | .char => "Char"

/-- The primitive type that a keyword stands for. -/
def ofKeyword? (text : String) : Option Primitive :=
  all.find? (·.keyword == text)

theorem ofKeyword?_keyword (primitive : Primitive) :
    ofKeyword? primitive.keyword = some primitive := by
  cases primitive <;> decide

end Primitive

/-! ### Declared types -/

/-- The declared type of an answer; only named types take arguments. -/
inductive DeclaredType where
  | void
  | primitive (kind : Primitive)
  | named (name : TypeName) (arguments : List DeclaredType)
deriving Repr

namespace DeclaredType

mutual

/-- Declared types are compared with all their arguments, nothing erased. -/
def decideEq : (first second : DeclaredType) → Decidable (first = second)
  | .void, .void => isTrue rfl
  | .primitive first, .primitive second =>
    if same : first = second then isTrue (same ▸ rfl)
    else isFalse fun equal => same (DeclaredType.primitive.inj equal)
  | .named first firstArguments, .named second secondArguments =>
    if same : first = second then
      match decideEqAll firstArguments secondArguments with
      | isTrue sameArguments => isTrue (same ▸ sameArguments ▸ rfl)
      | isFalse differ => isFalse fun equal => differ (DeclaredType.named.inj equal).2
    else isFalse fun equal => same (DeclaredType.named.inj equal).1
  | .void, .primitive _ => isFalse nofun
  | .void, .named .. => isFalse nofun
  | .primitive _, .void => isFalse nofun
  | .primitive _, .named .. => isFalse nofun
  | .named .., .void => isFalse nofun
  | .named .., .primitive _ => isFalse nofun

/-- Argument lists are compared position by position. -/
def decideEqAll : (first second : List DeclaredType) → Decidable (first = second)
  | [], [] => isTrue rfl
  | [], _ :: _ => isFalse nofun
  | _ :: _, [] => isFalse nofun
  | first :: firstRest, second :: secondRest =>
    match decideEq first second, decideEqAll firstRest secondRest with
    | isTrue sameHead, isTrue sameTail => isTrue (sameHead ▸ sameTail ▸ rfl)
    | isFalse differ, _ => isFalse fun equal => differ (List.cons.inj equal).1
    | _, isFalse differ => isFalse fun equal => differ (List.cons.inj equal).2

end

instance : DecidableEq DeclaredType := decideEq

/-- A named type without arguments. -/
def plain (name : String) : DeclaredType :=
  .named ⟨name⟩ []

/-- The type of strings. -/
def string : DeclaredType :=
  plain "java.lang.String"

/-- The type of lists of a type. -/
def listOf (element : DeclaredType) : DeclaredType :=
  .named ⟨"java.util.List"⟩ [element]

/-- The type that admits everything. -/
def object : DeclaredType :=
  plain "java.lang.Object"

/-- The type of a text: a keyword stands for itself, and all else is a name. -/
def ofText (text : String) : DeclaredType :=
  if text = "void" then .void
  else match Primitive.ofKeyword? text with
    | some kind => .primitive kind
    | none => plain text

/-- The name under which a registry knows the type; only named types have one. -/
def erasedName : DeclaredType → Option TypeName
  | .named name _ => some name.erased
  | .void | .primitive _ => none

/-- The type as source text, its arguments left out. -/
def source : DeclaredType → String
  | .void => "void"
  | .primitive kind => kind.keyword
  | .named name _ => name.source

mutual

/-- The type as a diagnostic writes it, with its arguments. -/
def display : DeclaredType → String
  | .void => "void"
  | .primitive kind => kind.keyword
  | .named name [] => name.text
  | .named name (first :: rest) =>
    name.text ++ "<" ++ ", ".intercalate (first.display :: displayAll rest) ++ ">"

/-- The texts of several types. -/
def displayAll : List DeclaredType → List String
  | [] => []
  | first :: rest => first.display :: displayAll rest

end

end DeclaredType

end FrozenGraph
