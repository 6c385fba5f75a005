/-
This file holds values: what an accessor answers. A value is a scalar, a list, or an object; lists
and objects carry an identity, and their contents do not take part in it.
-/

import FrozenGraph.Graph.Identity
import FrozenGraph.Graph.Scalar
import FrozenGraph.Types.Runtime

namespace FrozenGraph

/-- What can be seen of an object without invoking any of its accessors. -/
structure LiveObject where
  identity : Identity
  runtime : RuntimeType
  /-- The object's own text, if it has one. -/
  text : Option String
deriving DecidableEq, Repr

/-- An object as a diagnostic writes it: its own text, else its type and identity. -/
def LiveObject.describe (object : LiveObject) : String :=
  object.text.getD (object.runtime.name.text ++ "@" ++ object.identity.label)

/-- A value that an accessor answers. -/
inductive Value where
  | scalar (scalar : Scalar)
  | list (identity : Identity) (items : List Value)
  | object (live : LiveObject)
deriving Repr

namespace Value

/-- The absent value. -/
def null : Value :=
  .scalar .null

/-- Whether a value is absent. -/
def isNull : Value → Bool
  | .scalar .null => true
  | _ => false

/-- The identity of a list or an object. -/
def identity? : Value → Option Identity
  | .scalar _ => none
  | .list identity _ => some identity
  | .object live => some live.identity

/-- The scalar that a value is, if it is one. -/
def scalar? : Value → Option Scalar
  | .scalar value => some value
  | .list .. | .object _ => none

/-- The name of the type of a value. -/
def typeName : Value → TypeName
  | .scalar value => value.typeName
  | .list .. => ⟨"java.util.ArrayList"⟩
  | .object live => live.runtime.name

mutual

/-- A value as a diagnostic writes it, lists with all their items. -/
def describe : Value → String
  | .scalar value => value.describe
  | .list _ items => "[" ++ ", ".intercalate (describeAll items) ++ "]"
  | .object live => live.describe

/-- The descriptions of several values. -/
def describeAll : List Value → List String
  | [] => []
  | first :: rest => first.describe :: describeAll rest

end

/-- A short form: lists and objects by what distinguishes them from others. -/
def summary : Value → String
  | .scalar value => value.describe
  | .list identity items =>
    "List(ObjectId(" ++ identity.label ++ "), " ++ toString items.length ++ ")"
  | .object live => "Object(" ++ Text.quoted live.describe ++ ")"

end Value

end FrozenGraph
