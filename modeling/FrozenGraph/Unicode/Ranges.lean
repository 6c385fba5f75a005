/-
This file holds membership in the two compressed forms in which the tables of this folder list
code points: closed ranges, and runs with a fixed distance between neighbours.
-/

namespace FrozenGraph.Unicode

/-- Whether a code point lies in one of the closed ranges. -/
def inRanges (ranges : List (Nat × Nat)) (code : Nat) : Bool :=
  ranges.any fun (first, last) => first ≤ code && code ≤ last

/-- Whether a code point is one of `first`, `first + step`, … up to `last`. -/
def inRun (first last step code : Nat) : Bool :=
  first ≤ code && code ≤ last && (code - first) % step == 0

/-- Whether a code point lies in one of the runs. -/
def inRuns (runs : List (Nat × Nat × Nat)) (code : Nat) : Bool :=
  runs.any fun (first, last, step) => inRun first last step code

end FrozenGraph.Unicode
