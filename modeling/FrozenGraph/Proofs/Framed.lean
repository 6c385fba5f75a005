/-
This file shows what every walk leaves as it is. The chain of objects in progress is the same after
a part of a walk that ended with an answer, no expression that is known is ever replaced, and the
world grows by exactly the events of the walk.
-/

import FrozenGraph.Proofs.Walked

namespace FrozenGraph

/-! ### Memos and chains -/

namespace Memo

/-- A memo that records an expression finds what it found before, and else the expression. -/
theorem find?_record (memo : Memo) (identity other : Identity) (code : Code) :
    (memo.record identity code).find? other =
      (memo.find? other).or (if other = identity then some code else none) := by
  unfold record knows
  cases known : memo.find? identity with
  | some earlier =>
    rw [Option.isSome_some, if_pos rfl]
    by_cases same : other = identity
    · rw [same, known, Option.some_or]
    · rw [if_neg same, Option.or_none]
  | none =>
    rw [Option.isSome_none, if_neg Bool.false_ne_true, find?, List.lookup_cons]
    by_cases same : other = identity
    · rw [beq_iff_eq.mpr same, if_pos same, same, known, Option.none_or]
    · rw [beq_eq_false_iff_ne.mpr same, if_neg same, Option.or_none, find?]

/-- What a memo knows after an expression is recorded: what it knew, and the expression if its
identity was not known. -/
theorem find?_record_iff {memo : Memo} {identity other : Identity} {code found : Code} :
    (memo.record identity code).find? other = some found ↔
      memo.find? other = some found ∨
        memo.find? identity = none ∧ other = identity ∧ found = code := by
  rw [find?_record, Option.or_eq_some_iff]
  refine or_congr_right ⟨fun ⟨unknown, chosen⟩ => ?_, fun ⟨unknown, same, equal⟩ => ?_⟩
  · split at chosen
    · rename_i same
      exact ⟨same ▸ unknown, same, (Option.some.inj chosen).symm⟩
    · cases chosen
  · rw [same, if_pos rfl, equal]
    exact ⟨unknown, rfl⟩

theorem find?_record_of_some {memo : Memo} {identity other : Identity} {code found : Code}
    (known : memo.find? other = some found) :
    (memo.record identity code).find? other = some found :=
  find?_record_iff.mpr (.inl known)

theorem find?_record_self (memo : Memo) (identity : Identity) (code : Code) :
    ((memo.record identity code).find? identity).isSome := by
  cases known : memo.find? identity with
  | some earlier => rw [find?_record_of_some known, Option.isSome_some]
  | none => rw [find?_record_iff.mpr (.inr ⟨known, rfl, rfl⟩), Option.isSome_some]

end Memo

/-- Where a memo has what is canned, what it does not know is not canned. -/
theorem Canned.find?_eq_none {canned : Canned} {memo : Memo} {identity : Identity}
    (known : ∀ code, canned.find? identity = some code → memo.find? identity = some code)
    (unknown : memo.find? identity = none) : canned.find? identity = none := by
  cases stands : canned.find? identity with
  | none => rfl
  | some code =>
    rw [known code stands] at unknown
    cases unknown

namespace Chain

theorem removeLast_concat (members : List Member) (identity : Identity) (description : String) :
    removeLast identity (members ++ [⟨identity, description⟩]) = members := by
  induction members with
  | nil => simp [removeLast]
  | cons first rest inductionHypothesis =>
    have later : (rest ++ [(⟨identity, description⟩ : Member)]).any (·.identity == identity) := by
      simp
    rw [List.cons_append, removeLast, if_neg (fun both => both.2 later), inductionHypothesis]

end Chain

/-! ### Single changes -/

namespace Run

@[simp] theorem retain_chain (run : Run) (value : Value) :
    (run.retain value).session.chain = run.session.chain := by
  unfold retain Session.retain
  split <;> rfl

@[simp] theorem retain_memo (run : Run) (value : Value) :
    (run.retain value).session.memo = run.session.memo := by
  unfold retain Session.retain
  split <;> rfl

@[simp] theorem recordFor_world (run : Run) (value : Value) (code : Code) :
    (run.recordFor value code).world = run.world := by
  unfold recordFor
  split <;> rfl

@[simp] theorem recordFor_chain (run : Run) (value : Value) (code : Code) :
    (run.recordFor value code).session.chain = run.session.chain := by
  unfold recordFor
  split <;> rfl

theorem recordFor_find? {run : Run} {value : Value} {code found : Code} {identity : Identity}
    (known : run.session.memo.find? identity = some found) :
    (run.recordFor value code).session.memo.find? identity = some found := by
  unfold recordFor
  split
  · exact Memo.find?_record_of_some known
  · exact known

@[simp] theorem enter_memo (run : Run) (object : LiveObject) (target : Target) :
    (run.enter object target).session.memo = run.session.memo := rfl

@[simp] theorem leave_memo (run : Run) (identity : Identity) :
    (run.leave identity).session.memo = run.session.memo := rfl

@[simp] theorem note_session (run : Run) (invocation : Invocation) (allocated : Nat) :
    (run.note invocation allocated).session = run.session := rfl

/-- An object that was put on the chain last leaves it as it was before. -/
theorem leave_chain_of_enter {run after : Run} {object : LiveObject} {target : Target}
    (kept : after.session.chain = (run.enter object target).session.chain) :
    (after.leave object.identity).session.chain = run.session.chain := by
  show after.session.chain.leave object.identity = run.session.chain
  rw [kept, Chain.leave]
  exact congrArg Chain.mk (Chain.removeLast_concat _ _ _)

end Run

/-- A value that is answered comes of a template. -/
theorem Heap.exists_template_of_reply {heap : Heap} {world : World} {object : Identity}
    {accessor : String} {value : Value} {allocated : Nat}
    (replied : heap.reply world object accessor = (.ok value, allocated)) :
    ∃ template, heap.answer world.history object accessor = .ok template ∧
      template.materialize heap.supply world.allocated = (value, allocated) := by
  unfold reply at replied
  split at replied
  · cases replied
  · rename_i template answered
    cases replied
    exact ⟨template, answered, rfl⟩

/-- The root of the snapshot with a number. -/
def World.root? (world : World) (number : Nat) : Option Node :=
  world.snapshots[number]?.map (·.root)

/-- Noting the origins of an answer changes nothing but the origins. -/
theorem Ledger.record_frame {ledger ledger' : Ledger} {method : Method} {value : Value}
    {run noted : Run} (recorded : ledger.record method value run = .ok ledger' noted) :
    noted.session = run.session ∧ noted.world.history = run.world.history ∧
      noted.world.renderings = run.world.renderings ∧
      noted.world.allocated = run.world.allocated ∧
      ∀ number, noted.world.root? number = run.world.root? number := by
  cases ledger with
  | own origins =>
    cases recorded
    exact ⟨rfl, rfl, rfl, rfl, fun _ => rfl⟩
  | ofSnapshot changed =>
    cases recorded
    refine ⟨rfl, rfl, rfl, rfl, fun number => ?_⟩
    simp only [World.root?, List.getElem?_modify]
    cases run.world.snapshots[number]? with
    | none => rfl
    | some snapshot => by_cases same : changed = number <;> simp [same]

section Answered

variable {ledger ledger' : Ledger} {method : Method} {value : Value} {run noted : Run}
  {invocation : Invocation} {allocated : Nat}

/-- Noting an answer and its origin leaves everything that is known. -/
theorem Ledger.memo_of_record
    (recorded : ledger.record method value ((run.note invocation allocated).retain value) =
      .ok ledger' noted) : noted.session.memo = run.session.memo := by
  rw [(record_frame recorded).1, Run.retain_memo, Run.note_session]

/-- Noting an answer and its origin leaves the chain. -/
theorem Ledger.chain_of_record
    (recorded : ledger.record method value ((run.note invocation allocated).retain value) =
      .ok ledger' noted) : noted.session.chain = run.session.chain := by
  rw [(record_frame recorded).1, Run.retain_chain, Run.note_session]

end Answered

/-! ### The growth of the world -/

/-- A world grows by some events: they are noted, and no root of a snapshot changes. -/
structure World.GrowsBy (earlier : World) (events : List Event) (later : World) : Prop where
  history : later.history = (Event.invocations events).reverse ++ earlier.history
  renderings : later.renderings = (Event.renderings events).reverse ++ earlier.renderings
  roots : ∀ number, later.root? number = earlier.root? number

namespace World.GrowsBy

theorem refl (world : World) : GrowsBy world [] world := ⟨rfl, rfl, fun _ => rfl⟩

theorem trans {first second third : World} {events later : List Event}
    (left : GrowsBy first events second) (right : GrowsBy second later third) :
    GrowsBy first (events ++ later) third where
  history := by
    rw [right.history, left.history, Event.invocations_append, List.reverse_append,
      List.append_assoc]
  renderings := by
    rw [right.renderings, left.renderings, Event.renderings_append, List.reverse_append,
      List.append_assoc]
  roots number := (right.roots number).trans (left.roots number)

/-- Putting an object on the chain begins its rendering. -/
theorem ofEnter (run : Run) (object : LiveObject) (target : Target) :
    GrowsBy run.world [.rendering ⟨object.identity, target⟩] (run.enter object target).world :=
  ⟨rfl, rfl, fun _ => rfl⟩

/-- Noting an invocation is all that a failing accessor does to the world. -/
theorem ofNote (run : Run) (object : Identity) (method : Method)
    (outcome : Except AccessorFault Value) (allocated : Nat) :
    GrowsBy run.world [.call object method outcome]
      (run.note ⟨object, method.name, outcome⟩ allocated).world :=
  ⟨rfl, rfl, fun _ => rfl⟩

/-- An answer is noted, kept, and its origin remembered. -/
theorem ofRecord {ledger ledger' : Ledger} {method : Method} {value : Value} {run noted : Run}
    {object : Identity} {outcome : Except AccessorFault Value} {allocated : Nat}
    (recorded : ledger.record method value
      ((run.note ⟨object, method.name, outcome⟩ allocated).retain value) = .ok ledger' noted) :
    GrowsBy run.world [.call object method outcome] noted.world := by
  obtain ⟨_, history, renderings, _, roots⟩ := Ledger.record_frame recorded
  exact ⟨history, renderings, roots⟩

end World.GrowsBy

namespace Walked

variable {heap : Heap} {part : Part} {before after : Run} {events : List Event}

theorem growsBy (walked : Walked heap part before events after) :
    before.world.GrowsBy events after.world := by
  induction walked with
  | scalar | known | noItem | reused | null | noMethod => exact .refl _
  | recalled => rw [Run.recordFor_world]; exact .refl _
  | list _ _ inductionHypothesis => exact inductionHypothesis
  | literalObject _ _ _ inductionHypothesis => exact inductionHypothesis
  | item _ _ head tail => exact head.trans tail
  | rendered _ _ _ _ inductionHypothesis =>
    exact (World.GrowsBy.ofEnter _ _ _).trans inductionHypothesis
  | literal _ _ inductionHypothesis => rw [Run.recordFor_world]; exact inductionHypothesis
  | expanded _ _ inductionHypothesis => exact inductionHypothesis
  | skipped _ _ inductionHypothesis => exact inductionHypothesis
  | method _ _ recorded _ _ expressed later =>
    exact (World.GrowsBy.ofRecord recorded).trans (expressed.trans later)

/-- Every object that was put on the chain has left it again. -/
theorem chain_eq (walked : Walked heap part before events after) :
    after.session.chain = before.session.chain := by
  induction walked with
  | scalar | known | noItem | reused | null | noMethod => rfl
  | recalled => rw [Run.recordFor_chain]
  | list _ _ inductionHypothesis => exact inductionHypothesis
  | literalObject _ _ _ inductionHypothesis => exact inductionHypothesis
  | item _ _ head tail => rw [tail, head, Run.retain_chain]
  | rendered _ _ _ _ inductionHypothesis =>
    exact Run.leave_chain_of_enter inductionHypothesis
  | literal _ _ inductionHypothesis => rw [Run.recordFor_chain, inductionHypothesis]
  | expanded _ _ inductionHypothesis => exact inductionHypothesis
  | skipped _ _ inductionHypothesis => exact inductionHypothesis
  | method _ _ recorded _ _ expressed later =>
    rw [later, expressed, Ledger.chain_of_record recorded]

/-- A known expression stays. -/
theorem find?_of_some (walked : Walked heap part before events after) {identity : Identity}
    {code : Code} (known : before.session.memo.find? identity = some code) :
    after.session.memo.find? identity = some code := by
  induction walked with
  | scalar | known | noItem | reused | null | noMethod => exact known
  | recalled => exact Run.recordFor_find? known
  | list _ _ inductionHypothesis =>
    exact Memo.find?_record_of_some (inductionHypothesis known)
  | literalObject _ _ _ inductionHypothesis => exact inductionHypothesis known
  | item _ _ head tail => exact tail (head (by rwa [Run.retain_memo]))
  | rendered _ _ _ _ inductionHypothesis =>
    exact Memo.find?_record_of_some (inductionHypothesis known)
  | literal _ _ inductionHypothesis => exact Run.recordFor_find? (inductionHypothesis known)
  | expanded _ _ inductionHypothesis =>
    exact Memo.find?_record_of_some (inductionHypothesis known)
  | skipped _ _ inductionHypothesis => exact inductionHypothesis known
  | method _ _ recorded _ _ expressed later =>
    exact later (expressed (by rwa [Ledger.memo_of_record recorded]))

end Walked

theorem Stopped.growsBy {heap : Heap} {task : Task} {before after : Run} {events : List Event}
    {stop : Stop} (stopped : Stopped heap task before events stop after) :
    before.world.GrowsBy events after.world := by
  induction stopped with
  | untargeted | unbuilt | reentered | unrouted | shapeless => exact .refl _
  | list _ _ inductionHypothesis => exact inductionHypothesis
  | literalObject _ _ _ inductionHypothesis => exact inductionHypothesis
  | item _ inductionHypothesis => exact inductionHypothesis
  | laterItem head _ tail => exact head.growsBy.trans tail
  | exhausted => exact World.GrowsBy.ofEnter _ _ _
  | unrendered _ _ _ _ inductionHypothesis =>
    exact (World.GrowsBy.ofEnter _ _ _).trans inductionHypothesis
  | literal _ _ inductionHypothesis => exact inductionHypothesis
  | expanded _ _ inductionHypothesis => exact inductionHypothesis
  | skipped _ _ inductionHypothesis => exact inductionHypothesis
  | unanswered => exact World.GrowsBy.ofNote _ _ _ _ _
  | unexpressed _ _ recorded _ inductionHypothesis =>
    exact (World.GrowsBy.ofRecord recorded).trans inductionHypothesis
  | laterMethod _ _ recorded expressed _ inductionHypothesis =>
    exact (World.GrowsBy.ofRecord recorded).trans (expressed.growsBy.trans inductionHypothesis)

end FrozenGraph
