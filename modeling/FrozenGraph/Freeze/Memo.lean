/-
This file remembers the expressions of one run by identity. The first expression for an identity
stays, and every later occurrence of that identity uses it again.
-/

import FrozenGraph.Freeze.Code

namespace FrozenGraph

/-- One expression for each identity. -/
structure Memo where
  entries : List (Identity × Code)

namespace Memo

/-- Nothing is known yet. -/
def empty : Memo :=
  ⟨[]⟩

/-- The expression for an identity. -/
def find? (memo : Memo) (identity : Identity) : Option Code :=
  memo.entries.lookup identity

/-- Whether an identity has an expression. -/
def knows (memo : Memo) (identity : Identity) : Bool :=
  (memo.find? identity).isSome

/-- Records an expression for an identity that has none. -/
def record (memo : Memo) (identity : Identity) (code : Code) : Memo :=
  if memo.knows identity then memo else ⟨(identity, code) :: memo.entries⟩

/-- The number of identities with an expression. -/
def size (memo : Memo) : Nat :=
  memo.entries.length

end Memo

end FrozenGraph
