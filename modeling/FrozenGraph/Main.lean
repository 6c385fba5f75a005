/-
This file holds the command: it prints snapshots of a small family, laid out as its first argument
says, and tells on the standard error stream why it could not.
-/

import FrozenGraph.Sample.Family

namespace FrozenGraph

/-- Why the command printed nothing. -/
def Stop.text : Stop → String
  | .failed report => "\n".intercalate (report.frames.map fun
      | .note message => message
      | .context message => message)
  | .outOfFuel => "out of fuel"

end FrozenGraph

open FrozenGraph

/-- Prints the family, or the reason why it cannot. -/
def main (arguments : List String) : IO UInt32 := do
  match Family.output arguments.head? with
  | .ok text =>
    IO.print text
    pure 0
  | .error stop =>
    IO.eprintln (stop.text)
    pure 1
