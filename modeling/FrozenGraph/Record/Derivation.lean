/-
This file derives accessors from the description of a record: every marked field becomes one, under
the name that its attribute gives or one made from the field's own name. The accessors of a record
have distinct names.
-/

import FrozenGraph.Graph.Heap
import FrozenGraph.Record.Attribute
import FrozenGraph.Record.Words

namespace FrozenGraph.Record

/-! ### Descriptions -/

/-- The kinds of type definitions. -/
inductive Shape where
  | namedFields
  | positionalFields
  | noFields
  | alternatives
  | overlay
deriving DecidableEq, Repr

/-- A field as it is written. -/
structure Field where
  name : String
  typeText : String
  mark : Attribute
deriving DecidableEq, Repr

/-- The name of a field without the gaps around it. -/
def Field.identifier (field : Field) : String :=
  Token.ofText field.name

/-- A record as it is written. -/
structure Description where
  shape : Shape
  mark : Attribute
  fields : List Field
deriving DecidableEq, Repr

/-! ### Accessors -/

/-- A text without any number of the marks in front of it that make a keyword an identifier. -/
def dropRawMarks : List Char → List Char
  | 'r' :: '#' :: rest => dropRawMarks rest
  | other => other

/-- The name of an accessor that is not given one: a question for a truth value, and a request for
everything else. -/
def defaultName (field : Field) : String :=
  let verb := if Token.ofText field.typeText = "bool" then "is" else "get"
  verb ++ String.ofList (Words.upperCamel (dropRawMarks field.identifier.toList))

/-- A field that can be invoked. -/
structure Accessor where
  field : String
  name : String
  returns : Option String
deriving DecidableEq, Repr

/-- A record whose attributes are in order. -/
structure Derivation where
  options : RecordOptions
  accessors : List Accessor
deriving DecidableEq, Repr

namespace Derivation

/-- The accessor that a field becomes, if it is marked. -/
def accessorOf (field : Field) : Except Complaint (Option Accessor) := do
  let options ← FieldOptions.ofWritten field.mark
  pure (options.map fun options =>
    ⟨field.identifier, options.name.getD (defaultName field), options.returns⟩)

/-- The accessors of fields in order, after those of the fields before them. -/
def accessorsOf (earlier : List Accessor) : List Field → Except Complaint (List Accessor)
  | [] => .ok earlier
  | field :: rest => do
    match ← accessorOf field with
    | none => accessorsOf earlier rest
    | some accessor =>
      if earlier.any (·.name == accessor.name) then .error (.duplicateName accessor.name)
      else accessorsOf (earlier ++ [accessor]) rest

/-- Derives the accessors of a record. Its shape is looked at first, then its own attribute, and
then field after field. -/
def ofDescription (description : Description) : Except Complaint Derivation :=
  match description.shape with
  | .alternatives | .overlay => .error .notRecord
  | .positionalFields | .noFields => .error .notNamedFields
  | .namedFields => do
    let options ← RecordOptions.ofWritten description.mark
    let accessors ← accessorsOf [] description.fields
    pure ⟨options, accessors⟩

/-- The accessors of a record that is in order. -/
def derive (description : Description) (accepted : (ofDescription description).isOk) :
    Derivation :=
  match derived : ofDescription description with
  | .ok derivation => derivation
  | .error _ => absurd accepted (by rw [derived]; exact Bool.false_ne_true)

theorem ofDescription_derive (description : Description)
    (accepted : (ofDescription description).isOk) :
    ofDescription description = .ok (derive description accepted) := by
  unfold derive
  split
  · rename_i made
    exact made
  · rename_i refused
    rw [refused] at accepted
    cases accepted

/-! ### What a derived record is at run time -/

/-- The name of the record's type. -/
def typeName (derivation : Derivation) : TypeName :=
  ⟨derivation.options.typeName⟩

/-- The type of the record's instances. -/
def runtime (derivation : Derivation) : RuntimeType :=
  ⟨derivation.typeName, derivation.options.implements.map TypeName.mk⟩

/-- The target without its accessors. -/
def emptyTarget (derivation : Derivation) : Target :=
  match derivation.options.kind with
  | .extendable => .ofClass derivation.options.typeName
  | .final => (Target.ofClass derivation.options.typeName).final
  | .interface => .interface derivation.options.typeName

/-- The declared type of an accessor: the one that its attribute gives, else the field's. -/
def declaredType (types : String → DeclaredType) (accessor : Accessor) : DeclaredType :=
  match accessor.returns with
  | some name => .plain name
  | none => types accessor.field

/-- The record as a target, where `types` holds the declared types of its fields. -/
def target (derivation : Derivation) (types : String → DeclaredType) : Target :=
  derivation.accessors.foldl
    (fun target accessor => target.accessor accessor.name (declaredType types accessor))
    derivation.emptyTarget

/-- The answer of an accessor, where `contents` holds the contents of the fields. -/
def answer (derivation : Derivation) (contents : String → Template) (name : String) :
    Except AccessorFault Template :=
  match derivation.accessors.find? (·.name == name) with
  | some accessor => .ok (contents accessor.field)
  | none => .error (.unknown derivation.typeName name)

end Derivation

end FrozenGraph.Record
