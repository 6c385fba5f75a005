/-
This file holds instances of derived records, and the heap that they make up.
-/

import FrozenGraph.Record.Contents
import FrozenGraph.Record.Derivation

namespace FrozenGraph.Record

/-- An instance of a derived record as the contents of fields that share it. -/
def Derivation.shared (derivation : Derivation) (identity : Identity) :
    FieldType.Contents (.shared derivation.typeName) :=
  ⟨⟨identity, derivation.runtime, none⟩, rfl⟩

/-- An instance of a derived record. -/
structure Instance where
  identity : Identity
  derivation : Derivation
  /-- The fields with their contents. -/
  slots : List (String × Slot)

namespace Instance

/-- The instance as an object. -/
def face (record : Instance) : LiveObject :=
  ⟨record.identity, record.derivation.runtime, none⟩

/-- What a field holds; a field that has no slot holds nothing. -/
def contents (record : Instance) (field : String) : Template :=
  match record.slots.lookup field with
  | some slot => slot.answer
  | none => .existing .null

/-- The answer of an accessor. -/
def answer (record : Instance) (accessor : String) : Except AccessorFault Template :=
  record.derivation.answer record.contents accessor

end Instance

/-- The heap of some instances; what they answer does not depend on what was invoked before. -/
def heap (instances : List Instance) : Heap where
  objects := instances.map Instance.face
  answer := fun _ object accessor =>
    match instances.find? (·.identity = object) with
    | some record => record.answer accessor
    | none => .error (.unknown ⟨object.label⟩ accessor)
  supply := .fresh

end FrozenGraph.Record
