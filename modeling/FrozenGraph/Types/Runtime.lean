/-
This file holds the types that objects have when a program runs.
-/

import FrozenGraph.Types.Name

namespace FrozenGraph

/-- The type of an object: its own name, and every type that it can be assigned to. -/
structure RuntimeType where
  name : TypeName
  supertypes : List TypeName
deriving DecidableEq, Repr

/-- Whether an object of the type can be assigned to another type, names being erased. -/
def RuntimeType.isSubtypeOf (runtime : RuntimeType) (other : TypeName) : Bool :=
  runtime.name.erased == other.erased || runtime.supertypes.any (·.erased == other.erased)

end FrozenGraph
