/-
This file holds targets: the types that a snapshot can be an anonymous subclass of. A target lists
the public methods of a type, its own ones and the inherited ones.
-/

import FrozenGraph.Types.Declared
import FrozenGraph.Types.Runtime

namespace FrozenGraph

/-- A public method, with the type whose declaration introduced it. -/
structure Method where
  name : String
  parameters : List DeclaredType
  returns : DeclaredType
  declaring : TypeName
deriving DecidableEq, Repr

namespace Method

/-- Whether a method can be invoked without arguments. -/
def takesNothing (method : Method) : Bool :=
  method.parameters.isEmpty

/-- The method as a diagnostic names it. -/
def qualifiedName (method : Method) : String :=
  method.declaring.text ++ "." ++ method.name ++ "()"

/-- Two methods with one name and the same parameters override each other. -/
def sameSignature (first second : Method) : Bool :=
  first.name == second.name && first.parameters == second.parameters

end Method

/-- Whether an anonymous subclass implements its target or extends it. -/
inductive TargetKind where
  | interface
  | ofClass (isFinal : Bool) (hasConstructor : Bool)
deriving DecidableEq, Repr

/-- Why no anonymous class can extend a target. -/
inductive Obstacle where
  | final
  | noConstructor
deriving DecidableEq, Repr

/-- A type that snapshots can be made for. -/
structure Target where
  name : TypeName
  kind : TargetKind
  methods : List Method
deriving DecidableEq, Repr

namespace Target

/-! ### Describing a target step by step -/

/-- An interface without methods. -/
def interface (name : String) : Target :=
  ⟨⟨name⟩, .interface, []⟩

/-- A class without methods that can be extended. -/
def ofClass (name : String) : Target :=
  ⟨⟨name⟩, .ofClass false true, []⟩

/-- Adds a method that the target declares itself. -/
def method (target : Target) (name : String) (parameters : List DeclaredType)
    (returns : DeclaredType) : Target :=
  { target with methods := target.methods ++ [⟨name, parameters, returns, target.name⟩] }

/-- Adds a method without parameters. -/
def accessor (target : Target) (name : String) (returns : DeclaredType) : Target :=
  target.method name [] returns

/-- Makes a class final; an interface stays as it is. -/
def final (target : Target) : Target :=
  match target.kind with
  | .interface => target
  | .ofClass _ hasConstructor => { target with kind := .ofClass true hasConstructor }

/-- Takes its constructor from a class; an interface stays as it is. -/
def withoutConstructor (target : Target) : Target :=
  match target.kind with
  | .interface => target
  | .ofClass isFinal _ => { target with kind := .ofClass isFinal false }

/-- Adds an inherited method unless a method with its signature is there already. -/
def inheritMethod (target : Target) (inherited : Method) : Target :=
  if target.methods.any (·.sameSignature inherited) then target
  else { target with methods := target.methods ++ [inherited] }

/-- Adds the methods of a parent, which stay the parent's declarations. -/
def inherit (target parent : Target) : Target :=
  parent.methods.foldl inheritMethod target

/-! ### Questions about a target -/

/-- The target as the declared type of an answer. -/
def declaredType (target : Target) : DeclaredType :=
  .named target.name []

/-- Whether an object of a type satisfies the target. -/
def accepts (target : Target) (runtime : RuntimeType) : Bool :=
  runtime.isSubtypeOf target.name

/-- What prevents an anonymous class from extending the target. -/
def obstacle? (target : Target) : Option Obstacle :=
  match target.kind with
  | .interface => none
  | .ofClass true _ => some .final
  | .ofClass false false => some .noConstructor
  | .ofClass false true => none

end Target

end FrozenGraph
