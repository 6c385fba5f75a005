/-
This file reads the choice of a way to write an answer backwards: what a choice says about the
answer and the session in which it was made.
-/

import FrozenGraph.Freeze.Route

namespace FrozenGraph.Route

/-- Every choice with the reasons for it. -/
inductive Chosen (registry : Registry) (expansions : Expansions) (session : Session)
    (declared : DeclaredType) (value : Value) : Except Report Route → Prop
  | null (absent : value = .null) : Chosen registry expansions session declared value (.ok .null)
  | known {identity : Identity} {code : Code} (identified : value.identity? = some identity)
    (found : session.memo.find? identity = some code) :
    Chosen registry expansions session declared value (.ok (.known code))
  | literal (unknown : known? session value = none) (literal : registry.hasLiteral declared) :
    Chosen registry expansions session declared value (.ok .literal)
  | expand {target : Target} (unknown : known? session value = none)
    (registered : expansions.byDeclared? declared = some target)
    (free : isInProgress session.chain value = false) :
    Chosen registry expansions session declared value (.ok (.expand target))
  | busy (unknown : known? session value = none) (busy : isInProgress session.chain value) :
    Chosen registry expansions session declared value (.error session.chain.cycleReport)
  | unregistered (unknown : known? session value = none) :
    Chosen registry expansions session declared value
      (.error (unregisteredReport value declared))

variable {registry : Registry} {expansions : Expansions} {session : Session}
  {declared : DeclaredType} {value : Value}

theorem eq_null_of_isNull (absent : value.isNull) : value = .null := by
  unfold Value.isNull at absent
  split at absent
  · rfl
  · cases absent

theorem chosen_choose : Chosen registry expansions session declared value
    (choose registry expansions session declared value) := by
  unfold choose
  split
  · rename_i absent
    exact .null (eq_null_of_isNull absent)
  · split
    · rename_i known
      obtain ⟨identity, identified, found⟩ := Option.bind_eq_some_iff.mp known
      exact .known identified found
    · rename_i unknown
      split
      · rename_i literal
        exact .literal unknown literal
      · split
        · rename_i registered
          split
          · rename_i busy
            exact .busy unknown busy
          · rename_i free
            exact .expand unknown registered (Bool.eq_false_iff.mpr free)
        · exact .unregistered unknown

theorem chosen_of_eq {route : Except Report Route}
    (chosen : choose registry expansions session declared value = route) :
    Chosen registry expansions session declared value route :=
  chosen ▸ chosen_choose

/-- A value that is not known has no identity with an expression. -/
theorem find?_eq_none {identity : Identity} (unknown : known? session value = none)
    (identified : value.identity? = some identity) : session.memo.find? identity = none := by
  rw [known?, identified] at unknown
  exact unknown

/-- What is recalled is the expression of the value's identity. -/
theorem known_of_choose {code : Code}
    (chosen : choose registry expansions session declared value = .ok (.known code)) :
    ∃ identity, value.identity? = some identity ∧ session.memo.find? identity = some code := by
  cases chosen_of_eq chosen with
  | known identified found => exact ⟨_, identified, found⟩

/-- An answer is written as a literal exactly if it is there, unknown, and of a type with
literals. -/
theorem choose_eq_literal_iff :
    choose registry expansions session declared value = .ok .literal ↔
      value.isNull = false ∧ known? session value = none ∧ registry.hasLiteral declared = true := by
  constructor
  · intro chosen
    cases chosen_of_eq chosen with
    | literal unknown literal =>
      refine ⟨Bool.eq_false_iff.mpr fun absent => ?_, unknown, literal⟩
      rw [choose, if_pos absent] at chosen
      cases chosen
  · rintro ⟨present, unknown, literal⟩
    rw [choose, if_neg (Bool.eq_false_iff.mp present), unknown]
    exact if_pos literal

/-- An answer is expanded exactly if it is there, unknown, not in progress, and of a type without
literals for which a target is registered. -/
theorem choose_eq_expand_iff {target : Target} :
    choose registry expansions session declared value = .ok (.expand target) ↔
      value.isNull = false ∧ known? session value = none ∧ registry.hasLiteral declared = false ∧
        expansions.byDeclared? declared = some target ∧
        isInProgress session.chain value = false := by
  constructor
  · intro chosen
    cases chosen_of_eq chosen with
    | expand unknown registered free =>
      have present : value.isNull = false := Bool.eq_false_iff.mpr fun absent => by
        rw [choose, if_pos absent] at chosen
        cases chosen
      refine ⟨present, unknown, Bool.eq_false_iff.mpr fun literal => ?_, registered, free⟩
      rw [choose_eq_literal_iff.mpr ⟨present, unknown, literal⟩] at chosen
      cases chosen
  · rintro ⟨present, unknown, unliteral, registered, free⟩
    rw [choose, if_neg (Bool.eq_false_iff.mp present), unknown]
    show (if registry.hasLiteral declared then _ else _) = _
    rw [if_neg (Bool.eq_false_iff.mp unliteral), registered]
    exact if_neg (Bool.eq_false_iff.mp free)

end FrozenGraph.Route
