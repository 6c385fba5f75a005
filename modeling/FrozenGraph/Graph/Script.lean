/-
This file holds heaps that are written down: every accessor has a body that says what it answers.
-/

import FrozenGraph.Graph.Heap

namespace FrozenGraph

/-- What an accessor does when it is invoked. -/
inductive Body where
  | value (template : Template)
  | fail (reason : String)
  /-- One body after the other, and the last one from then on. -/
  | inTurn (bodies : List Body)

namespace Body

mutual

/-- The answer of a body after `turn` earlier invocations. -/
def answer (accessor : String) (turn : Nat) : Body → Except AccessorFault Template
  | .value template => .ok template
  | .fail reason => .error (.failed accessor reason)
  | .inTurn bodies => answerAt accessor turn turn bodies

/-- The answer of the body at a position, or of the last one. -/
def answerAt (accessor : String) (turn : Nat) :
    (position : Nat) → List Body → Except AccessorFault Template
  | _, [] => .error (.failed accessor "no answer")
  | _, [last] => answer accessor turn last
  | 0, first :: _ :: _ => answer accessor turn first
  | position + 1, _ :: second :: rest => answerAt accessor turn position (second :: rest)

end

end Body

/-- An object with the bodies of its accessors. -/
structure ScriptedObject where
  face : LiveObject
  accessors : List (String × Body)

/-- The objects of a heap, written down. -/
abbrev Script := List ScriptedObject

namespace Script

/-- Changes the body of an accessor of an object; `none` takes the accessor away. -/
def assign (script : Script) (object : Identity) (accessor : String) (body : Option Body) :
    Script :=
  script.map fun entry =>
    if entry.face.identity = object then
      let others := entry.accessors.filter (·.1 ≠ accessor)
      { entry with accessors := (body.map (accessor, ·)).toList ++ others }
    else entry

/-- The answer of an accessor, which depends on how often it was invoked before. -/
def answer (script : Script) (history : List Invocation) (object : Identity)
    (accessor : String) : Except AccessorFault Template :=
  match script.find? (·.face.identity = object) with
  | none => .error (.unknown ⟨object.label⟩ accessor)
  | some entry =>
    match entry.accessors.lookup accessor with
    | none => .error (.unknown entry.face.runtime.name accessor)
    | some body => body.answer accessor (history.countP (·.isOf object accessor))

/-- The heap that a script describes. -/
def heap (script : Script) : Heap where
  objects := script.map (·.face)
  answer := script.answer
  supply := .fresh

end Script

end FrozenGraph
