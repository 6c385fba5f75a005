/-
This file holds two derived records that between them use every kind of field: a leaf, which is a
final class, and an interface with a field of each type.
-/

import FrozenGraph.Record.Instance

namespace FrozenGraph.Everything

open Record

/-! ### Leaves -/

/-- A leaf has a size. -/
def leafDescription : Description where
  shape := .namedFields
  mark := .items
    [.text "type_name" "com.example.Leaf", .word "final_class",
      .texts "implements" ["com.example.Shape", "com.example.Named<T>"]]
  fields := [⟨"size", "int", .bare⟩]

theorem isOk_leaf : (Derivation.ofDescription leafDescription).isOk := by
  decide +kernel

/-- The accessors of a leaf. -/
def leafDerivation : Derivation :=
  .derive leafDescription isOk_leaf

/-- The type of a leaf's field. -/
def leafTypes : String → DeclaredType := fun _ =>
  (FieldType.primitive .int).declared

/-- Leaves as a target. -/
def leafTarget : Target :=
  leafDerivation.target leafTypes

/-- A leaf of some size. -/
def leaf (identity : Identity) (size : Int32) : Instance :=
  ⟨identity, leafDerivation, [("size", ⟨.primitive .int, size⟩)]⟩

/-! ### The record with all kinds of fields -/

/-- The name of the record's type. -/
def typeName : TypeName :=
  ⟨"com.example.Everything"⟩

/-- The fields with their types; the last one is no accessor. -/
def fields : List (Field × FieldType) :=
  [(⟨"flag", "bool", .bare⟩, .primitive .boolean),
    (⟨"tiny", "byte", .bare⟩, .primitive .byte),
    (⟨"small", "short", .bare⟩, .primitive .short),
    (⟨"count", "int", .bare⟩, .primitive .int),
    (⟨"big", "long", .bare⟩, .primitive .long),
    (⟨"ratio", "float", .bare⟩, .primitive .float),
    (⟨"precise", "double", .bare⟩, .primitive .double),
    (⟨"letter", "char", .bare⟩, .primitive .char),
    (⟨"full_name", "text", .bare⟩, .text),
    (⟨"tag", "text", .bare⟩, .text),
    (⟨"maybe", "long?", .bare⟩, .optional (.primitive .long)),
    (⟨"maybe_on", "bool?", .bare⟩, .optional (.primitive .boolean)),
    (⟨"nickname", "text?", .items [.text "name" "nick"]⟩, .cell (.optional .text)),
    (⟨"numbers", "int*", .bare⟩, .sequence (.primitive .int)),
    (⟨"matrix", "text?**", .bare⟩, .sequence (.sequence (.optional .text))),
    (⟨"any", "any", .items [.text "name" "any", .text "returns" "java.lang.Integer"]⟩, .any),
    (⟨"type", "text", .bare⟩, .text),
    (⟨"leaf", "leaf?", .items [.text "returns" "com.example.Shape"]⟩,
      .optional (.shared leafDerivation.typeName)),
    (⟨"parent", "record?", .bare⟩, .cell (.optional (.shared typeName))),
    (⟨"hidden", "int", .absent⟩, .primitive .int)]

/-- The record as it is written. -/
def description : Description where
  shape := .namedFields
  mark := .items
    [.text "type_name" typeName.text, .texts "implements" ["com.example.Base"], .word "interface"]
  fields := fields.map (·.1)

theorem isOk_record : (Derivation.ofDescription description).isOk := by
  decide +kernel

/-- The accessors of the record. -/
def derivation : Derivation :=
  .derive description isOk_record

/-- The declared types of the fields. -/
def types (field : String) : DeclaredType :=
  match fields.find? (·.1.name == field) with
  | some (_, type) => type.declared
  | none => .void

/-- The record as a target. -/
def target : Target :=
  derivation.target types

/-- An instance of the record; a field without a slot is empty. -/
def record (identity : Identity) (slots : List (String × Slot)) : Instance :=
  ⟨identity, derivation, slots⟩

end FrozenGraph.Everything
