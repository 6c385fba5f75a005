/-
This file holds the plain way to write an object: without a memo and without a check for cycles,
every occurrence of an object is written out in full. It works on what is told of a rendering: for
each object the target that it was written as, and what its accessors answered. The expansion need
not end; it is a function of a depth, and what it finds does not depend on the depth.
-/

import FrozenGraph.Proofs.Walked

namespace FrozenGraph

/-! ### Stories -/

/-- What is told of a rendering: the expressions that stand in for lists and objects, and the target
and the answers of each object. -/
structure Story where
  canned : Canned
  told : Identity → Option (Target × List Value)

namespace Story

/-! ### The plain expansion -/

mutual

/-- A value written out in full; how objects are written is a parameter here. -/
def unfold (canned : Canned) (object : Identity → Option Code) : Value → Option Code
  | .scalar scalar => some (.literal scalar)
  | .list identity items =>
    match canned.find? identity with
    | some code => some code
    | none => (unfoldAll canned object items).map .list
  | .object live =>
    match canned.find? live.identity with
    | some code => some code
    | none => object live.identity

/-- Values written out in full, one after the other. -/
def unfoldAll (canned : Canned) (object : Identity → Option Code) :
    List Value → Option (List Code)
  | [] => some []
  | first :: rest =>
    match unfold canned object first, unfoldAll canned object rest with
    | some code, some codes => some (code :: codes)
    | _, _ => none

end

/-- The methods of a class for the answers of its accessors. An accessor that answers nothing has an
empty method, and takes no answer. -/
def methods (write : Value → Option Code) :
    List Method → List Value → Option (List (Override Deferred))
  | [], [] => some []
  | [], _ :: _ => none
  | method :: rest, answers =>
    if method.returns = .void then
      (methods write rest answers).map (.empty method.name method.returns :: ·)
    else match answers with
      | [] => none
      | answer :: later =>
        match write answer, methods write rest later with
        | some code, some others => some (.returning method.name method.returns code :: others)
        | _, _ => none

/-- An object written out in full, down to a depth. -/
def expansion (story : Story) : (depth : Nat) → Identity → Option Code
  | 0, _ => none
  | depth + 1, identity => do
    let (target, answers) ← story.told identity
    let accessors ← target.accessors.toOption
    let overrides ← methods (unfold story.canned (story.expansion depth)) accessors answers
    some (.anonymous target.declaredType overrides)

theorem methods_of_void {write : Value → Option Code} {method : Method} (rest : List Method)
    (answers : List Value) (void : method.returns = .void) :
    methods write (method :: rest) answers =
      (methods write rest answers).map (.empty method.name method.returns :: ·) := by
  cases answers <;> rw [methods, if_pos void]

theorem methods_cons {write : Value → Option Code} {method : Method} {rest : List Method}
    {answer : Value} {answers : List Value} {overrides : List (Override Deferred)}
    (answering : method.returns ≠ .void) :
    methods write (method :: rest) (answer :: answers) = some overrides ↔
      ∃ code others, write answer = some code ∧ methods write rest answers = some others ∧
        overrides = .returning method.name method.returns code :: others := by
  rw [methods, if_neg answering]
  constructor
  · intro found
    split at found
    · rename_i code others head tail
      exact ⟨code, others, head, tail, (Option.some.inj found).symm⟩
    · cases found
  · rintro ⟨code, others, head, tail, rfl⟩
    rw [head, tail]

theorem methods_cons_nil {write : Value → Option Code} {method : Method} (rest : List Method)
    (answering : method.returns ≠ .void) : methods write (method :: rest) [] = none := by
  rw [methods, if_neg answering]

theorem unfoldAll_cons {canned : Canned} {object : Identity → Option Code} {first : Value}
    {rest : List Value} {codes : List Code} :
    unfoldAll canned object (first :: rest) = some codes ↔
      ∃ code others, unfold canned object first = some code ∧
        unfoldAll canned object rest = some others ∧ codes = code :: others := by
  rw [unfoldAll]
  constructor
  · intro found
    split at found
    · rename_i code others head tail
      exact ⟨code, others, head, tail, (Option.some.inj found).symm⟩
    · cases found
  · rintro ⟨code, others, head, tail, rfl⟩
    rw [head, tail]

theorem expansion_succ {story : Story} {depth : Nat} {identity : Identity} {tree : Code} :
    story.expansion (depth + 1) identity = some tree ↔
      ∃ target answers accessors overrides, story.told identity = some (target, answers) ∧
        target.accessors = .ok accessors ∧
        methods (unfold story.canned (story.expansion depth)) accessors answers = some overrides ∧
        tree = .anonymous target.declaredType overrides := by
  have toOption {result : Except Report (List Method)} {accessors : List Method} :
      result.toOption = some accessors ↔ result = .ok accessors := by
    cases result <;> simp [Except.toOption]
  rw [expansion, Option.bind_eq_bind, Option.bind_eq_some_iff]
  constructor
  · rintro ⟨⟨target, answers⟩, told, rest⟩
    obtain ⟨accessors, listed, rest⟩ := Option.bind_eq_some_iff.mp rest
    obtain ⟨overrides, written, rest⟩ := Option.bind_eq_some_iff.mp rest
    exact ⟨target, answers, accessors, overrides, told, toOption.mp listed, written,
      (Option.some.inj rest).symm⟩
  · rintro ⟨target, answers, accessors, overrides, told, listed, written, rfl⟩
    refine ⟨(target, answers), told, ?_⟩
    refine Option.bind_eq_some_iff.mpr ⟨accessors, toOption.mpr listed, ?_⟩
    exact Option.bind_eq_some_iff.mpr ⟨overrides, written, rfl⟩

/-! ### Depth -/

/-- Whether one way to write objects finds at least what another one finds. -/
def Extends {α β : Type} (first second : α → Option β) : Prop :=
  ∀ {argument found}, first argument = some found → second argument = some found

section Mono

variable {canned : Canned} {object object' : Identity → Option Code}

mutual

theorem unfold_mono (extending : Extends object object') :
    (value : Value) → {code : Code} → unfold canned object value = some code →
    unfold canned object' value = some code
  | .scalar scalar, _, found => found
  | .list identity items, code, found => by
    rw [unfold] at found ⊢
    cases stands : canned.find? identity with
    | some other => rwa [stands] at found
    | none =>
      rw [stands] at found
      obtain ⟨codes, all, rfl⟩ := Option.map_eq_some_iff.mp found
      exact Option.map_eq_some_iff.mpr ⟨codes, unfoldAll_mono extending items all, rfl⟩
  | .object live, code, found => by
    rw [unfold] at found ⊢
    cases stands : canned.find? live.identity with
    | some other => rwa [stands] at found
    | none =>
      rw [stands] at found
      exact extending found

theorem unfoldAll_mono (extending : Extends object object') :
    (items : List Value) → {codes : List Code} → unfoldAll canned object items = some codes →
    unfoldAll canned object' items = some codes
  | [], _, found => found
  | first :: rest, codes, found => by
    obtain ⟨code, others, head, tail, rfl⟩ := unfoldAll_cons.mp found
    exact unfoldAll_cons.mpr
      ⟨code, others, unfold_mono extending first head, unfoldAll_mono extending rest tail, rfl⟩

end

theorem methods_mono {write write' : Value → Option Code} (extending : Extends write write')
    (accessors : List Method) {answers : List Value} {overrides : List (Override Deferred)}
    (found : methods write accessors answers = some overrides) :
    methods write' accessors answers = some overrides := by
  induction accessors generalizing answers overrides with
  | nil => cases answers <;> exact found
  | cons method rest inductionHypothesis =>
    by_cases void : method.returns = .void
    · rw [methods_of_void rest answers void] at found ⊢
      obtain ⟨others, later, rfl⟩ := Option.map_eq_some_iff.mp found
      exact Option.map_eq_some_iff.mpr ⟨others, inductionHypothesis later, rfl⟩
    · cases answers with
      | nil =>
        rw [methods_cons_nil rest void] at found
        cases found
      | cons answer later =>
        obtain ⟨code, others, head, tail, rfl⟩ := (methods_cons void).mp found
        exact (methods_cons void).mpr
          ⟨code, others, extending head, inductionHypothesis tail, rfl⟩

end Mono

theorem expansion_extends_succ (story : Story) (depth : Nat) :
    Extends (story.expansion depth) (story.expansion (depth + 1)) := by
  induction depth with
  | zero => exact nofun
  | succ depth inductionHypothesis =>
    intro identity tree found
    obtain ⟨target, answers, accessors, overrides, told, listed, written, rfl⟩ :=
      expansion_succ.mp found
    have deeper := methods_mono (fun {value code} => unfold_mono inductionHypothesis value)
      accessors written
    exact expansion_succ.mpr ⟨target, answers, accessors, overrides, told, listed, deeper, rfl⟩

/-- What is found at a depth is found at every larger depth. -/
theorem expansion_extends (story : Story) {depth depth' : Nat} (le : depth ≤ depth') :
    Extends (story.expansion depth) (story.expansion depth') := by
  induction le with
  | refl => exact id
  | step _ inductionHypothesis =>
    exact fun found => story.expansion_extends_succ _ (inductionHypothesis found)

/-! ### Expansions that end -/

/-- An object is written out in full as an expression. -/
def Expands (story : Story) (identity : Identity) (tree : Code) : Prop :=
  ∃ depth, story.expansion depth identity = some tree

/-- A value is written out in full as an expression. -/
def Unfolds (story : Story) (value : Value) (tree : Code) : Prop :=
  ∃ depth, unfold story.canned (story.expansion depth) value = some tree

/-- Values are written out in full as expressions. -/
def UnfoldsAll (story : Story) (items : List Value) (trees : List Code) : Prop :=
  ∃ depth, unfoldAll story.canned (story.expansion depth) items = some trees

/-- Answers are written out in full in the methods of a class. -/
def UnfoldsMethods (story : Story) (accessors : List Method) (answers : List Value)
    (overrides : List (Override Deferred)) : Prop :=
  ∃ depth, methods (unfold story.canned (story.expansion depth)) accessors answers = some overrides

variable {story : Story}

/-- There is only one way to write out an object in full. -/
theorem Expands.unique {identity : Identity} {first second : Code}
    (left : story.Expands identity first) (right : story.Expands identity second) :
    first = second := by
  obtain ⟨depth, found⟩ := left
  obtain ⟨depth', found'⟩ := right
  have deeper := story.expansion_extends (Nat.le_max_left depth depth') found
  have deeper' := story.expansion_extends (Nat.le_max_right depth depth') found'
  exact Option.some.inj (deeper.symm.trans deeper')

namespace Unfolds

theorem scalar (scalar : Scalar) : story.Unfolds (.scalar scalar) (.literal scalar) := ⟨0, rfl⟩

theorem canned {value : Value} {identity : Identity} {code : Code}
    (identified : value.identity? = some identity)
    (stands : story.canned.find? identity = some code) : story.Unfolds value code := by
  refine ⟨0, ?_⟩
  cases value with
  | scalar scalar => cases identified
  | list identity items =>
    cases identified
    rw [unfold, stands]
  | object live =>
    cases identified
    rw [unfold, stands]

theorem list {identity : Identity} {items : List Value} {trees : List Code}
    (free : story.canned.find? identity = none) (all : story.UnfoldsAll items trees) :
    story.Unfolds (.list identity items) (.list trees) := by
  obtain ⟨depth, found⟩ := all
  refine ⟨depth, ?_⟩
  rw [unfold, free]
  exact Option.map_eq_some_iff.mpr ⟨trees, found, rfl⟩

theorem object {live : LiveObject} {tree : Code} (free : story.canned.find? live.identity = none)
    (expands : story.Expands live.identity tree) : story.Unfolds (.object live) tree := by
  obtain ⟨depth, found⟩ := expands
  refine ⟨depth, ?_⟩
  rw [unfold, free]
  exact found

end Unfolds

theorem UnfoldsAll.nil : story.UnfoldsAll [] [] := ⟨0, rfl⟩

theorem UnfoldsAll.cons {first : Value} {rest : List Value} {tree : Code} {trees : List Code}
    (head : story.Unfolds first tree) (tail : story.UnfoldsAll rest trees) :
    story.UnfoldsAll (first :: rest) (tree :: trees) := by
  obtain ⟨depth, found⟩ := head
  obtain ⟨depth', found'⟩ := tail
  refine ⟨max depth depth', unfoldAll_cons.mpr ⟨tree, trees, ?_, ?_, rfl⟩⟩
  · exact unfold_mono (story.expansion_extends (Nat.le_max_left depth depth')) first found
  · exact unfoldAll_mono (story.expansion_extends (Nat.le_max_right depth depth')) rest found'

namespace UnfoldsMethods

theorem nil : story.UnfoldsMethods [] [] [] := ⟨0, rfl⟩

theorem void {method : Method} {rest : List Method} {answers : List Value}
    {overrides : List (Override Deferred)} (void : method.returns = .void)
    (later : story.UnfoldsMethods rest answers overrides) :
    story.UnfoldsMethods (method :: rest) answers
      (.empty method.name method.returns :: overrides) := by
  obtain ⟨depth, found⟩ := later
  refine ⟨depth, ?_⟩
  rw [methods_of_void rest answers void, found]
  rfl

theorem returning {method : Method} {rest : List Method} {answer : Value} {answers : List Value}
    {tree : Code} {overrides : List (Override Deferred)} (answering : method.returns ≠ .void)
    (head : story.Unfolds answer tree) (later : story.UnfoldsMethods rest answers overrides) :
    story.UnfoldsMethods (method :: rest) (answer :: answers)
      (.returning method.name method.returns tree :: overrides) := by
  obtain ⟨depth, found⟩ := head
  obtain ⟨depth', found'⟩ := later
  refine ⟨max depth depth', (methods_cons answering).mpr ⟨tree, overrides, ?_, ?_, rfl⟩⟩
  · exact unfold_mono (story.expansion_extends (Nat.le_max_left depth depth')) answer found
  · exact methods_mono (fun {value code} =>
      unfold_mono (story.expansion_extends (Nat.le_max_right depth depth')) value) rest found'

end UnfoldsMethods

/-- An object is written out as the class that is told of it. -/
theorem Expands.intro {identity : Identity} {target : Target} {answers : List Value}
    {accessors : List Method} {overrides : List (Override Deferred)}
    (told : story.told identity = some (target, answers))
    (listed : target.accessors = .ok accessors)
    (written : story.UnfoldsMethods accessors answers overrides) :
    story.Expands identity (.anonymous target.declaredType overrides) := by
  obtain ⟨depth, found⟩ := written
  exact ⟨depth + 1, expansion_succ.mpr ⟨target, answers, accessors, overrides, told, listed, found,
    rfl⟩⟩

end Story

end FrozenGraph
