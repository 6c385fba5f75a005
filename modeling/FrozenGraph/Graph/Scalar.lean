/-
This file holds scalars: the values without identity, `null` among them. They are compared by
value, and each has a literal in source text.
-/

import FrozenGraph.Decimal.Style
import FrozenGraph.Text.Quoted
import FrozenGraph.Types.Name

namespace FrozenGraph

/-- A value without identity; floating-point numbers are kept as their bit patterns. -/
inductive Scalar where
  | null
  | bool (value : Bool)
  | byte (value : Int8)
  | short (value : Int16)
  | int (value : Int32)
  | long (value : Int64)
  | float (bits : UInt32)
  | double (bits : UInt64)
  | char (value : Char)
  | string (value : String)
deriving DecidableEq, Repr

namespace Scalar

/-- The name of the type of a scalar, the boxed one for a primitive. -/
def typeName : Scalar → TypeName
  | .null => ⟨"null"⟩
  | .bool _ => ⟨"java.lang.Boolean"⟩
  | .byte _ => ⟨"java.lang.Byte"⟩
  | .short _ => ⟨"java.lang.Short"⟩
  | .int _ => ⟨"java.lang.Integer"⟩
  | .long _ => ⟨"java.lang.Long"⟩
  | .float _ => ⟨"java.lang.Float"⟩
  | .double _ => ⟨"java.lang.Double"⟩
  | .char _ => ⟨"java.lang.Character"⟩
  | .string _ => ⟨"java.lang.String"⟩

/-- The texts `true` and `false`. -/
def boolText (value : Bool) : String :=
  if value then "true" else "false"

/-- A floating-point number in a diagnostic: all its places, and the special values by name. -/
def plainFloat (format : Decimal.Format) (bits : Nat) : String :=
  match format.read bits with
  | .nan => "NaN"
  | .infinite => if format.isNegative bits then "-inf" else "inf"
  | .finite magnitude => Decimal.Style.plain.text (format.isNegative bits) magnitude.shortest

/-- A scalar as a diagnostic writes it. -/
def describe : Scalar → String
  | .null => "null"
  | .bool value => boolText value
  | .byte value => toString value.toInt
  | .short value => toString value.toInt
  | .int value => toString value.toInt
  | .long value => toString value.toInt
  | .float bits => plainFloat .single bits.toNat
  | .double bits => plainFloat .double bits.toNat
  | .char value => String.ofList ['\x27', value, '\x27']
  | .string value => Text.quoted value

end Scalar

end FrozenGraph
