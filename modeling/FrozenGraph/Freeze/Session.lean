/-
This file holds sessions: what one run knows about identities. A session keeps every list and
object that it has seen, so that no identity it knows can come to belong to something else.
-/

import FrozenGraph.Freeze.Canned
import FrozenGraph.Freeze.Chain
import FrozenGraph.Freeze.Memo

namespace FrozenGraph

/-- The objects in progress, the known expressions, and the values that are kept. -/
structure Session where
  chain : Chain
  memo : Memo
  retained : List Value

namespace Session

/-- A session that has seen nothing. -/
def empty : Session :=
  ⟨.empty, .empty, []⟩

/-- Keeps a value that has an identity. -/
def retain (session : Session) (value : Value) : Session :=
  if value.identity?.isSome then { session with retained := value :: session.retained }
  else session

/-- Records an expression for an identity that has none. -/
def record (session : Session) (identity : Identity) (code : Code) : Session :=
  { session with memo := session.memo.record identity code }

/-- A session that knows all canned representations. -/
def opening (canned : Canned) : Session :=
  canned.entries.foldl
    (fun session (identity, key, code) =>
      { session.record identity code with retained := key :: session.retained })
    empty

/-- Puts an object on the chain. -/
def enter (session : Session) (identity : Identity) (description : String) :
    Except Report Session := do
  let chain ← session.chain.enter identity description
  pure { session with chain }

/-- Takes an object off the chain. -/
def leave (session : Session) (identity : Identity) : Session :=
  { session with chain := session.chain.leave identity }

/-- The number of identities with an expression. -/
def memoized (session : Session) : Nat :=
  session.memo.size

end Session

end FrozenGraph
