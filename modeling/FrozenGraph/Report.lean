/-
This file holds what goes wrong and how it is told. A fault is the one cause of a failure; a
report adds notes to it on the way out, the newest first, and never replaces the fault.
-/

import FrozenGraph.Graph.Identity
import FrozenGraph.Types.Target

namespace FrozenGraph

/-! ### Faults -/

/-- An object on the chain of objects in progress, with the text it had when it was entered. -/
structure Member where
  identity : Identity
  description : String
deriving DecidableEq, Repr

/-- A member of a reference cycle as a message lists it. -/
def Member.text (member : Member) : String :=
  member.description ++ " (" ++ member.identity.label ++ ")"

/-- The cause of a failure. -/
inductive Fault where
  /-- An argument or the description of a type cannot be used. -/
  | invalid (subject details : String)
  /-- An object was reached again while it was in progress; the members go from the outermost on. -/
  | cycle (members : List Member)
  /-- A value has no literal, and no registered type applies to it. -/
  | notLiteral (value : String) (typeName : TypeName) (identity : Option Identity)
  /-- A step of the generation failed. -/
  | failed (action details : String)
deriving DecidableEq, Repr

namespace Fault

/-- The wording of a fault. -/
def message : Fault → String
  | .invalid subject details => "Invalid argument: Invalid " ++ subject ++ ": " ++ details
  | .cycle members =>
    "Object graph contains a reference cycle through: " ++
      ", ".intercalate (members.map Member.text)
  | .notLiteral value typeName _ =>
    "Value " ++ value ++ " (of type " ++ typeName.text ++ ") cannot be expressed as a literal"
  | .failed action details => "Snapshot generation failed: Failed to " ++ action ++ ": " ++ details

/-- The identities that take part in a reference cycle. -/
def cycleMembers? : Fault → Option (List Identity)
  | .cycle members => some (members.map Member.identity)
  | .invalid .. | .notLiteral .. | .failed .. => none

/-- Whether the fault is a reference cycle. -/
def isCycle : Fault → Bool
  | .cycle _ => true
  | .invalid .. | .notLiteral .. | .failed .. => false

/-- Whether the fault is a value without a literal. -/
def isNotLiteral : Fault → Bool
  | .notLiteral .. => true
  | .invalid .. | .cycle _ | .failed .. => false

end Fault

/-- Why an accessor gave no answer. -/
inductive AccessorFault where
  | unknown (typeName : TypeName) (accessor : String)
  | failed (accessor reason : String)
deriving DecidableEq, Repr

/-- The wording of an accessor's fault. -/
def AccessorFault.message : AccessorFault → String
  | .unknown typeName accessor => typeName.text ++ " has no accessor named " ++ accessor
  | .failed accessor reason => "Accessor " ++ accessor ++ " failed: " ++ reason

/-! ### Notes -/

/-- The accessor that answered a value. -/
structure Origin where
  declaring : TypeName
  accessor : String
  returns : DeclaredType
deriving DecidableEq, Repr

namespace Origin

/-- A method as the origin of the values that it answers. -/
def ofMethod (method : Method) : Origin :=
  ⟨method.declaring, method.name, method.returns⟩

/-- The wording of an origin. -/
def text (origin : Origin) : String :=
  "This value came from method " ++ origin.declaring.text ++ "." ++ origin.accessor ++
    ", which has return type " ++ origin.returns.display

end Origin

/-- What a report says beside its fault. -/
inductive Note where
  | text (text : String)
  | origin (origin : Origin)
deriving DecidableEq, Repr

/-- The wording of a note. -/
def Note.message : Note → String
  | .text message => message
  | .origin source => source.text

/-! ### Reports -/

/-- A fault with its notes, the newest first, and the accessor's fault behind it, if any. -/
structure Report where
  fault : Fault
  notes : List Note
  cause : Option AccessorFault
deriving DecidableEq, Repr

/-- One line of a report. -/
inductive Frame where
  | note (message : String)
  | context (message : String)
deriving DecidableEq, Repr

namespace Report

/-- A report that says only what happened. -/
def ofFault (fault : Fault) : Report :=
  ⟨fault, [], none⟩

/-- Adds a note. -/
def add (report : Report) (note : Note) : Report :=
  { report with notes := note :: report.notes }

/-- Adds a note that is a text. -/
def addText (report : Report) (text : String) : Report :=
  report.add (.text text)

/-- The origin that a report names, if it names one. -/
def origin? (report : Report) : Option Origin :=
  report.notes.findSome? fun
    | .origin source => some source
    | .text _ => none

/-- All lines of a report: the notes, the fault, and what was behind it. -/
def frames (report : Report) : List Frame :=
  report.notes.map (.note ·.message) ++ [.context report.fault.message] ++
    (report.cause.map fun cause => Frame.context cause.message).toList

end Report

end FrozenGraph
