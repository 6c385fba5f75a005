/-
This file holds a small family and what is printed about it: a child with its mother written out,
and the same child with a variable in her place. A third snapshot, of a family in which the child
is its own grandmother, is a reference cycle and prints nothing.
-/

import FrozenGraph.Freeze.Snapshot
import FrozenGraph.Record.Instance
import FrozenGraph.Source.LayoutSettings

namespace FrozenGraph.Family

open Record

/-! ### Persons -/

/-- A person has a name, an age, and perhaps a mother. -/
def description : Description where
  shape := .namedFields
  mark := .items [.text "type_name" "com.example.model.Person"]
  fields :=
    [⟨"name", "text", .bare⟩, ⟨"age", "int", .bare⟩,
      ⟨"mother", "person", .items [.text "name" "getMother"]⟩]

theorem isOk_person : (Derivation.ofDescription description).isOk := by
  decide +kernel

/-- The accessors of a person. -/
def derivation : Derivation :=
  .derive description isOk_person

/-- A mother is another person, or none. -/
def motherType : FieldType :=
  .cell (.optional (.shared derivation.typeName))

/-- The declared types of the fields. -/
def types : String → DeclaredType
  | "name" => FieldType.text.declared
  | "age" => (FieldType.primitive .int).declared
  | _ => motherType.declared

/-- Persons as a target. -/
def person : Target :=
  derivation.target types

/-- The face of a person. -/
def face (name : String) : LiveObject :=
  ⟨.entry name, derivation.runtime, none⟩

/-- A person of some age with a mother. -/
def someone (name : String) (age : Int32) (mother : Option String) : Instance where
  identity := .entry name
  derivation := derivation
  slots :=
    [("name", ⟨.text, name⟩), ("age", ⟨.primitive .int, age⟩),
      ("mother", ⟨motherType, mother.map fun mother => derivation.shared (.entry mother)⟩)]

/-- A child and its mother, whose own mother is given. -/
def family (grandmother : Option String) : Heap :=
  heap [someone "mom" 30 grandmother, someone "kid" 5 (some "mom")]

/-! ### What is printed -/

/-- The text of the child in a family. -/
def childText (family : Heap) (canned : Canned) (registry : Registry) : Except Stop String :=
  match Snapshot.plan (.object (face "kid")) person canned [person] with
  | .error report => .error (.failed report)
  | .ok snapshot =>
    let (world, number) := World.initial.add snapshot
    (family.render world number registry).result

/-- A variable in the place of the mother. -/
def motherByName : Canned :=
  Canned.empty.insert (face "mom") (Expr.returnReference "mom")

/-- The layout that a setting asks for. -/
def layout : Option String → Except Stop Layout.Options
  | none => .ok .standard
  | some setting =>
    match Layout.Options.ofJson setting with
    | .ok options => .ok options
    | .error report => .error (.failed report)

/-- Everything that is printed, each text followed by a line end. -/
def output (setting : Option String) : Except Stop String := do
  let registry := Registry.withOptions (← layout setting)
  let nested ← childText (family none) .empty registry
  let named ← childText (family none) motherByName registry
  let own :=
    match childText (family (some "kid")) .empty registry with
    | .ok text => text ++ "\n"
    | .error _ => ""
  pure (nested ++ "\n" ++ named ++ "\n" ++ own)

/-- What the program prints, and its exit code. -/
def program (setting : Option String) : String × UInt32 :=
  match output setting with
  | .ok text => (text, 0)
  | .error _ => ("", 1)

end FrozenGraph.Family
