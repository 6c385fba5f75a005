/-
This file shows when printing is pure. An expression is printed by generating the statements that
are embedded in it; where each of them is finished text, printing needs no walk at all and changes
nothing. The text of the expression is then a function of the expression alone.
-/

import FrozenGraph.Freeze.Render

namespace FrozenGraph

/-! ### A step of a walk and the next one -/

namespace Walk

variable {α β : Type} {walk : Walk α} {next : α → Walk β} {run after : Run}

theorem bind_ok {answer : α} (ended : walk run = .ok answer after) :
    (walk >>= next) run = next answer after := by
  show EStateM.bind walk next run = next answer after
  rw [EStateM.bind, ended]

theorem bind_error {stop : Stop} (ended : walk run = .error stop after) :
    (walk >>= next) run = .error stop after := by
  show EStateM.bind walk next run = .error stop after
  rw [EStateM.bind, ended]

/-- A walk in two steps that ends with an answer goes through one of the first step. -/
theorem exists_of_bind {answer : β} (ended : (walk >>= next) run = .ok answer after) :
    ∃ found between, walk run = .ok found between ∧ next found between = .ok answer after := by
  cases first : walk run with
  | error stop between =>
    rw [bind_error first] at ended
    cases ended
  | ok found between => exact ⟨found, between, rfl, (bind_ok first).symm.trans ended⟩

/-- A walk in two steps that fails does so in one of them. -/
theorem bind_eq_error {stop : Stop} (failed : (walk >>= next) run = .error stop after) :
    walk run = .error stop after ∨
      ∃ found between, walk run = .ok found between ∧ next found between = .error stop after := by
  cases first : walk run with
  | ok found between => exact .inr ⟨found, between, rfl, (bind_ok first).symm.trans failed⟩
  | error reason between =>
    rw [bind_error first] at failed
    cases failed
    exact .inl rfl

end Walk

/-! ### The statements of an expression -/

namespace Expr

variable {δ : Type}

mutual

/-- The statements that are embedded in an expression, in the order of printing. -/
def statements : Expr δ → List δ
  | .literal _ | .reference _ | .raw _ => []
  | .anonymous _ overrides => overridesStatements overrides
  | .list items => itemsStatements items
  | .ret inner => inner.statements
  | .deferred statement => [statement]

/-- The statements in the methods of an anonymous class. -/
def overridesStatements : List (Override δ) → List δ
  | [] => []
  | .empty .. :: rest => overridesStatements rest
  | .returning _ _ value :: rest => value.statements ++ overridesStatements rest

/-- The statements in the items of a list. -/
def itemsStatements : List (Expr δ) → List δ
  | [] => []
  | item :: rest => item.statements ++ itemsStatements rest

end

/-! ### Printing finished statements -/

/-- An expression where a value stands, its statements being finished. -/
def text (finished : δ → String) (expression : Expr δ) : String :=
  expression.valueSource (m := Id) finished

/-- The methods of an anonymous class, their statements being finished. -/
def overridesText (finished : δ → String) (overrides : List (Override δ)) : String :=
  overridesSource (m := Id) finished overrides

/-- The statements that add items to a list, the statements in them being finished. -/
def additionsText (finished : δ → String) (items : List (Expr δ)) : String :=
  additionsSource (m := Id) finished items

/-- A whole expression as source text, its statements being finished. -/
def wholeText (finished : δ → String) (expression : Expr δ) : String :=
  if expression.isReturn then "return " ++ expression.text finished ++ ";"
  else expression.text finished

section Texts

variable (finished : δ → String)

theorem text_anonymous (extended : DeclaredType) (overrides : List (Override δ)) :
    (Expr.anonymous extended overrides).text finished =
      "new " ++ extended.source ++ "() \x7b\n" ++ overridesText finished overrides ++ "\x7d" :=
  rfl

theorem text_list (items : List (Expr δ)) :
    (Expr.list items).text finished =
      listOpening ++ additionsText finished items ++ "\x7d\n\x7d" :=
  rfl

theorem text_deferred (statement : δ) :
    (Expr.deferred statement).text finished = finished statement :=
  rfl

theorem overridesText_empty (name : String) (returns : DeclaredType)
    (rest : List (Override δ)) :
    overridesText finished (.empty name returns :: rest) =
      methodOpening name returns ++ "\x7d\n" ++ overridesText finished rest :=
  rfl

theorem overridesText_returning (name : String) (returns : DeclaredType) (value : Expr δ)
    (rest : List (Override δ)) :
    overridesText finished (.returning name returns value :: rest) =
      methodOpening name returns ++ "return " ++ value.text finished ++ ";\n" ++ "\x7d\n" ++
        overridesText finished rest :=
  rfl

theorem additionsText_cons (item : Expr δ) (rest : List (Expr δ)) :
    additionsText finished (item :: rest) =
      "add(" ++ item.text finished ++ ");\n" ++ additionsText finished rest :=
  rfl

end Texts

section Walks

variable {generate : δ → Walk String} {finished : δ → String} {run : Run}

mutual

/-- Where every statement is finished in a state, so is the expression, and the state stays. -/
theorem valueSource_ok : (expression : Expr δ) →
    (∀ statement ∈ expression.statements, generate statement run = .ok (finished statement) run) →
    expression.valueSource generate run = .ok (expression.text finished) run
  | .literal _, _ => rfl
  | .reference _, _ => rfl
  | .raw _, _ => rfl
  | .anonymous _ overrides, done => by
    rw [valueSource, Walk.bind_ok (overridesSource_ok overrides done)]
    rfl
  | .list items, done => by
    rw [valueSource, Walk.bind_ok (additionsSource_ok items done)]
    rfl
  | .ret inner, done => by
    rw [valueSource, valueSource_ok inner done]
    rfl
  | .deferred statement, done => done statement List.mem_cons_self

theorem overridesSource_ok : (overrides : List (Override δ)) →
    (∀ statement ∈ overridesStatements overrides,
      generate statement run = .ok (finished statement) run) →
    overridesSource generate overrides run = .ok (overridesText finished overrides) run
  | [], _ => rfl
  | .empty _ _ :: rest, done => by
    rw [overridesSource, Walk.bind_ok (overridesSource_ok rest done)]
    rfl
  | .returning _ _ value :: rest, done => by
    have own := valueSource_ok value fun statement member =>
      done statement (List.mem_append_left _ member)
    have later := overridesSource_ok rest fun statement member =>
      done statement (List.mem_append_right _ member)
    rw [overridesSource, Walk.bind_ok own, Walk.bind_ok later]
    rfl

theorem additionsSource_ok : (items : List (Expr δ)) →
    (∀ statement ∈ itemsStatements items,
      generate statement run = .ok (finished statement) run) →
    additionsSource generate items run = .ok (additionsText finished items) run
  | [], _ => rfl
  | item :: rest, done => by
    have own := valueSource_ok item fun statement member =>
      done statement (List.mem_append_left _ member)
    have later := additionsSource_ok rest fun statement member =>
      done statement (List.mem_append_right _ member)
    rw [additionsSource, Walk.bind_ok own, Walk.bind_ok later]
    rfl

end

/-- So is the whole expression, with one `return` in front of it if it has any. -/
theorem source_ok (expression : Expr δ)
    (done : ∀ statement ∈ expression.statements,
      generate statement run = .ok (finished statement) run) :
    expression.source generate run = .ok (expression.wholeText finished) run := by
  have value := valueSource_ok expression done
  unfold source wholeText
  split
  · rw [bodySource, Walk.bind_ok value]
    rfl
  · exact value

end Walks

end Expr

end FrozenGraph
