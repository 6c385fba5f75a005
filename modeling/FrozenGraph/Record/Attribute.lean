/-
This file reads the attributes that turn a record into a live object: one on the record, which
names its type, and one on each field that becomes an accessor.
-/

import FrozenGraph.Record.Token

namespace FrozenGraph.Record

/-! ### Written attributes -/

/-- One item of an attribute. -/
inductive Item where
  | word (key : String)
  | text (key value : String)
  | texts (key : String) (values : List String)
deriving DecidableEq, Repr

/-- The key of an item, without the gaps around it. -/
def Item.key : Item → String
  | .word key | .text key _ | .texts key _ => Token.ofText key

/-- An attribute as it is written: not at all, without parentheses, or with items. -/
inductive Attribute where
  | absent
  | bare
  | items (items : List Item)
deriving DecidableEq, Repr

/-- What an attribute or a record is refused for. -/
inductive Complaint where
  | notRecord
  | notNamedFields
  | noAttribute
  | bareAttribute
  | unknownRecordItem
  | noTypeName
  | unknownFieldItem
  | equalsExpected
  | parenthesesExpected (atEnd : Bool)
  | commaExpected
  | duplicateName (name : String)
deriving DecidableEq, Repr

/-- The wording of a complaint. -/
def Complaint.message : Complaint → String
  | .notRecord => "LiveObject can only be derived for structs"
  | .notNamedFields => "LiveObject can only be derived for structs with named fields"
  | .noAttribute => "LiveObject requires #[live_object(type_name = \"...\")]"
  | .bareAttribute => "expected attribute arguments in parentheses: #[live_object(...)]"
  | .unknownRecordItem => "unsupported live_object attribute"
  | .noTypeName => "live_object attribute requires type_name = \"...\""
  | .unknownFieldItem => "unsupported accessor attribute"
  | .equalsExpected => "expected `=`"
  | .parenthesesExpected false => "expected parentheses"
  | .parenthesesExpected true => "unexpected end of input, expected parentheses"
  | .commaExpected => "expected `,`"
  | .duplicateName name => "duplicate accessor name " ++ name

/-! ### The forms of an item -/

/-- The text of an item `key = "text"`. -/
def Item.value : Item → Except Complaint String
  | .text _ value => .ok value
  | .word _ | .texts .. => .error .equalsExpected

/-- The texts of an item `key("text", …)`. -/
def Item.values (isLast : Bool) : Item → Except Complaint (List String)
  | .texts _ values => .ok values
  | .word _ => .error (.parenthesesExpected isLast)
  | .text .. => .error (.parenthesesExpected false)

/-- An item that is a flag ends after its key. -/
def Item.flag : Item → Except Complaint Unit
  | .word _ => .ok ()
  | .text .. | .texts .. => .error .commaExpected

/-! ### The attribute of a record -/

/-- What the type of a record is for those who snapshot it. -/
inductive Kind where
  | extendable
  | final
  | interface
deriving DecidableEq, Repr

/-- The items that were read so far. -/
structure RecordItems where
  typeName : Option String
  implements : List String
  kind : Kind
deriving DecidableEq, Repr

/-- Nothing was read yet. -/
def RecordItems.none : RecordItems :=
  ⟨.none, [], .extendable⟩

/-- Reads one item. A later item replaces an earlier one of its kind, and supertypes add up. -/
def RecordItems.read (items : RecordItems) (isLast : Bool) (item : Item) :
    Except Complaint RecordItems :=
  if item.key = "type_name" then do
    let value ← item.value
    pure { items with typeName := value }
  else if item.key = "implements" then do
    let values ← item.values isLast
    pure { items with implements := items.implements ++ values }
  else if item.key = "final_class" then do
    item.flag
    pure { items with kind := .final }
  else if item.key = "interface" then do
    item.flag
    pure { items with kind := .interface }
  else .error .unknownRecordItem

/-- Reads items in order. -/
def RecordItems.readAll (items : RecordItems) : List Item → Except Complaint RecordItems
  | [] => .ok items
  | item :: rest => do
    let next ← items.read rest.isEmpty item
    next.readAll rest

/-- What the attribute of a record says. -/
structure RecordOptions where
  typeName : String
  implements : List String
  kind : Kind
deriving DecidableEq, Repr

/-- Reads the attribute of a record, which has to name its type. -/
def RecordOptions.ofWritten : Attribute → Except Complaint RecordOptions
  | .absent => .error .noAttribute
  | .bare => .error .bareAttribute
  | .items items => do
    let read ← RecordItems.none.readAll items
    match read.typeName with
    | some typeName => pure ⟨typeName, read.implements, read.kind⟩
    | none => .error .noTypeName

/-! ### The attribute of a field -/

/-- What the attribute of a field says. -/
structure FieldOptions where
  name : Option String
  returns : Option String
deriving DecidableEq, Repr

/-- Reads one item; a later one replaces an earlier one with its key. -/
def FieldOptions.read (options : FieldOptions) (item : Item) :
    Except Complaint FieldOptions :=
  if item.key = "name" then do
    let value ← item.value
    pure { options with name := value }
  else if item.key = "returns" then do
    let value ← item.value
    pure { options with returns := value }
  else .error .unknownFieldItem

/-- Reads the attribute of a field; a field without one is no accessor. -/
def FieldOptions.ofWritten : Attribute → Except Complaint (Option FieldOptions)
  | .absent => .ok none
  | .bare => .ok (some ⟨none, none⟩)
  | .items items => do
    let options ← items.foldlM FieldOptions.read ⟨none, none⟩
    pure (some options)

end FrozenGraph.Record
