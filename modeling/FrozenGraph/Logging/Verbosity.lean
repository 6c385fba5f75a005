/-
This file holds how much a program tells about its work: five levels, from errors alone to
everything. A level is given by its name, in either case and with white space around it.
-/

import FrozenGraph.Unicode.Blank

namespace FrozenGraph

/-- A level, or the weight of one event. -/
inductive Verbosity where
  | error
  | warn
  | info
  | debug
  | trace
deriving DecidableEq, Repr

namespace Verbosity

/-- All levels, the quietest first. -/
def all : List Verbosity :=
  [.error, .warn, .info, .debug, .trace]

/-- The name of a level. -/
def name : Verbosity → String
  | .error => "error"
  | .warn => "warn"
  | .info => "info"
  | .debug => "debug"
  | .trace => "trace"

/-- The position of a level, the quietest at zero. -/
def rank : Verbosity → Nat
  | .error => 0
  | .warn => 1
  | .info => 2
  | .debug => 3
  | .trace => 4

/-- Whether an event is told at a level. -/
def tells (level event : Verbosity) : Bool :=
  event.rank ≤ level.rank

/-- The level with a name. No letter outside ASCII has a lower-case form that occurs in a name, so
the lower case of ASCII decides. -/
def ofName? (text : String) : Option Verbosity :=
  let word := (Unicode.trim text.toList).map Char.toLower
  all.find? (·.name.toList == word)

/-- The complaint about a text that names no level. -/
def complaint (text : String) : String :=
  "Invalid tracing level '" ++ text ++ "'. Valid levels are: " ++
    ", ".intercalate (all.map name)

/-- The level that a setting names; without one, warnings and errors are told. -/
def ofSetting (setting : Option String) : Verbosity :=
  (setting.bind ofName?).getD .warn

end Verbosity

end FrozenGraph
