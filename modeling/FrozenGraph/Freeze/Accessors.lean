/-
This file chooses the accessors that a snapshot of a target overrides: all its methods but the two
that define equality, ascending by name, so that the order of their declaration does not show.
-/

import FrozenGraph.Report

namespace FrozenGraph

/-- Whether a method belongs to the definition of equality, whatever its parameters are. -/
def Method.definesEquality (method : Method) : Bool :=
  method.name == "equals" || method.name == "hashCode"

namespace Target

/-- The methods that a snapshot has to override, in the order of their declaration. -/
def overridable (target : Target) : List Method :=
  target.methods.filter (!·.definesEquality)

/-- Methods ascending by name; methods of one name keep their order. -/
def sortByName (methods : List Method) : List Method :=
  methods.mergeSort fun first second => decide (first.name ≤ second.name)

/-- The report on a method that takes parameters. -/
def parametersReport (target : Target) (method : Method) : Report :=
  (Report.ofFault (.invalid "snapshot target"
      ("cannot snapshot " ++ target.name.text ++ " because public method " ++ method.name ++ "(" ++
        ", ".intercalate (method.parameters.map DeclaredType.display) ++
        ") takes parameters"))).addText
    "Only equals() and hashCode() may declare parameters"

/-- The accessors to override, ascending by name; a method with parameters cannot be one. -/
def accessors (target : Target) : Except Report (List Method) :=
  match target.overridable.find? (!·.takesNothing) with
  | some method => .error (target.parametersReport method)
  | none => .ok (sortByName target.overridable)

end Target

end FrozenGraph
