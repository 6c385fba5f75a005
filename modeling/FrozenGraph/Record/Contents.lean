/-
This file holds the types of fields and their contents. The declared type of a field and the value
that its accessor answers are made from the field's type side by side; an optional field answers
`null` when it is empty, and declares the type of what it may hold.
-/

import FrozenGraph.Graph.Heap

namespace FrozenGraph.Record

/-- The type of a field. -/
inductive FieldType where
  | primitive (kind : Primitive)
  | text
  | optional (content : FieldType)
  | sequence (element : FieldType)
  /-- A shared instance of a derived record. -/
  | shared (name : TypeName)
  /-- Contents that can be replaced. -/
  | cell (content : FieldType)
  | any

namespace FieldType

/-- The contents of a primitive field. -/
abbrev Scalars : Primitive → Type
  | .boolean => Bool
  | .byte => Int8
  | .short => Int16
  | .int => Int32
  | .long => Int64
  | .float => UInt32
  | .double => UInt64
  | .char => Char

/-- The contents of a field of a type. -/
abbrev Contents : FieldType → Type
  | .primitive kind => Scalars kind
  | .text => String
  | .optional content => Option content.Contents
  | .sequence element => List element.Contents
  | .shared name => { object : LiveObject // object.runtime.name = name }
  | .cell content => content.Contents
  | .any => Value

/-- The contents of a primitive field as a scalar. -/
def scalar : (kind : Primitive) → Scalars kind → Scalar
  | .boolean, value => .bool value
  | .byte, value => .byte value
  | .short, value => .short value
  | .int, value => .int value
  | .long, value => .long value
  | .float, bits => .float bits
  | .double, bits => .double bits
  | .char, value => .char value

/-- What the accessor of a field answers; every answer of a sequence is a new list. -/
def answer : (type : FieldType) → type.Contents → Template
  | .primitive kind, value => .existing (.scalar (scalar kind value))
  | .text, value => .existing (.scalar (.string value))
  | .optional _, none => .existing .null
  | .optional content, some value => answer content value
  | .sequence element, values => .fresh (values.map (answer element))
  | .shared _, instance' => .existing (.object instance'.val)
  | .cell content, value => answer content value
  | .any, value => .existing value

/-- What the accessor of a field declares to answer. -/
def declared : FieldType → DeclaredType
  | .primitive kind => .primitive kind
  | .text => .string
  | .optional content => content.declared
  | .sequence element => .listOf element.declared
  | .shared name => .named name []
  | .cell content => content.declared
  | .any => .object

end FieldType

/-- A field's type together with its contents. -/
structure Slot where
  type : FieldType
  contents : type.Contents

/-- What the accessor of a slot answers. -/
def Slot.answer (slot : Slot) : Template :=
  slot.type.answer slot.contents

end FrozenGraph.Record
