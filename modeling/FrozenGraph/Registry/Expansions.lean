/-
This file holds the types that one snapshot expands wherever it meets them, at any depth.
-/

import FrozenGraph.Types.Target

namespace FrozenGraph

/-- Targets in the order of registration. -/
structure Expansions where
  targets : List Target
deriving DecidableEq, Repr

namespace Expansions

/-- No type is expanded. -/
def none : Expansions :=
  ⟨[]⟩

/-- The first target registered under the erased form of a name. -/
def byName? (expansions : Expansions) (name : TypeName) : Option Target :=
  expansions.targets.find? (·.name == name.erased)

/-- Registers a target unless its name can be found already. -/
def add (expansions : Expansions) (target : Target) : Expansions :=
  if (expansions.byName? target.name).isSome then expansions
  else ⟨expansions.targets ++ [target]⟩

/-- The targets of a list, in its order; of those with one name the first. -/
def ofList (targets : List Target) : Expansions :=
  targets.foldl add none

/-- The target registered for a declared type. -/
def byDeclared? (expansions : Expansions) (declared : DeclaredType) : Option Target :=
  declared.erasedName.bind expansions.byName?

/-- The first target that accepts objects of a type. -/
def accepting? (expansions : Expansions) (runtime : RuntimeType) : Option Target :=
  expansions.targets.find? (·.accepts runtime)

end Expansions

end FrozenGraph
