/-
This file holds registries: chains of scopes, each of which names types that have literals. An
inner scope is searched before the scopes around it, and opening one changes nothing for them.
-/

import FrozenGraph.Source.Layout
import FrozenGraph.Types.Target

namespace FrozenGraph

/-- What one scope adds. -/
structure Scope where
  /-- Types whose values are written by their shape. -/
  valueTypes : List TypeName
  /-- Types whose objects are written as anonymous subclasses. -/
  targets : List Target
deriving DecidableEq, Repr

/-- The scopes around a place where source text is generated, the innermost first, and how the
text is laid out. The outermost scope of every registry knows the standard value types. -/
structure Registry where
  options : Layout.Options
  scopes : List Scope
deriving DecidableEq, Repr

namespace Registry

/-- The value types that need no registration. -/
def standardTypes : List TypeName :=
  [⟨"java.lang.String"⟩, ⟨"java.lang.Boolean"⟩, ⟨"java.lang.Byte"⟩, ⟨"java.lang.Short"⟩,
    ⟨"java.lang.Integer"⟩, ⟨"java.lang.Long"⟩, ⟨"java.lang.Float"⟩, ⟨"java.lang.Double"⟩,
    ⟨"java.lang.Character"⟩, ⟨"java.lang.CharSequence"⟩, ⟨"java.util.Collection"⟩,
    ⟨"java.util.List"⟩, ⟨"java.util.ArrayList"⟩]

/-! ### Opening scopes -/

/-- The outermost scope alone. -/
def withOptions (options : Layout.Options) : Registry :=
  ⟨options, []⟩

/-- The outermost scope alone, with the standard layout. -/
def root : Registry :=
  withOptions .standard

/-- Opens a scope. -/
def enter (registry : Registry) (scope : Scope) : Registry :=
  { registry with scopes := scope :: registry.scopes }

/-- Opens a scope in which objects of more types are written as anonymous subclasses. -/
def withTargets (registry : Registry) (targets : List Target) : Registry :=
  registry.enter ⟨[], targets⟩

/-- Opens a scope in which values of more types are written by their shape. -/
def withValueTypes (registry : Registry) (names : List TypeName) : Registry :=
  registry.enter ⟨names, []⟩

/-! ### Questions -/

/-- The number of scopes inside the outermost one. -/
def depth (registry : Registry) : Nat :=
  registry.scopes.length

/-- Whether values of a type are written by their shape; the name is erased before the search. -/
def isValueType (registry : Registry) (name : TypeName) : Bool :=
  registry.scopes.any (·.valueTypes.contains name.erased) || standardTypes.contains name.erased

/-- The target registered under the erased form of a name. -/
def byName? (registry : Registry) (name : TypeName) : Option Target :=
  registry.scopes.findSome? fun scope => scope.targets.find? (·.name == name.erased)

/-- The first target that accepts objects of a type. -/
def accepting? (registry : Registry) (runtime : RuntimeType) : Option Target :=
  registry.scopes.findSome? fun scope => scope.targets.find? (·.accepts runtime)

/-- Whether a value of a declared type has a literal. -/
def hasLiteral (registry : Registry) (declared : DeclaredType) : Bool :=
  match declared with
  | .void => false
  | .primitive _ => true
  | .named name _ => registry.isValueType name.erased || (registry.byName? name.erased).isSome

end Registry

end FrozenGraph
