/-
This file holds the laws of walks that go side by side, and of lists whose items correspond. What it
means for two states to correspond, and for two reasons to end early, is a parameter: whatever it
is, walks that are put together of corresponding steps correspond. So only the steps have to be
compared.
-/

import FrozenGraph.Proofs.Renamed

namespace FrozenGraph

/-! ### Lists with related items -/

section Lists

variable {α α' β β' : Type} {related : α → α' → Prop} {others : β → β' → Prop}
  {items : List α} {items' : List α'}

theorem getElem?_of_forall₂ (same : List.Forall₂ related items items') (position : Nat) :
    Option.Rel related items[position]? items'[position]? := by
  induction same generalizing position with
  | nil => exact .none
  | cons head _ inductionHypothesis =>
    cases position with
    | zero => exact .some head
    | succ position => exact inductionHypothesis position

theorem modify_of_forall₂ (same : List.Forall₂ related items items') {change : α → α}
    {change' : α' → α'}
    (changed : ∀ {item item'}, related item item' → related (change item) (change' item'))
    (position : Nat) :
    List.Forall₂ related (items.modify position change) (items'.modify position change') := by
  induction same generalizing position with
  | nil => simp
  | cons head tail inductionHypothesis =>
    cases position with
    | zero => exact .cons (changed head) tail
    | succ position => exact .cons head (inductionHypothesis position)

theorem findSome?_of_forall₂ (same : List.Forall₂ related items items') {found : α → Option β}
    {found' : α' → Option β'}
    (alike : ∀ {item item'}, related item item' → Option.Rel others (found item) (found' item')) :
    Option.Rel others (items.findSome? found) (items'.findSome? found') := by
  induction same with
  | nil => exact .none
  | @cons item item' _ _ head _ inductionHypothesis =>
    have first := alike head
    rw [List.findSome?_cons, List.findSome?_cons]
    generalize found item = here at first ⊢
    generalize found' item' = there at first ⊢
    cases first with
    | some answer => exact .some answer
    | none => exact inductionHypothesis

theorem find?_of_forall₂ (same : List.Forall₂ related items items') {wanted : α → Bool}
    {wanted' : α' → Bool}
    (alike : ∀ {item item'}, related item item' → wanted' item' = wanted item) :
    Option.Rel related (items.find? wanted) (items'.find? wanted') := by
  induction same with
  | nil => exact .none
  | @cons item item' _ _ head _ inductionHypothesis =>
    rw [List.find?_cons, List.find?_cons, alike head]
    cases wanted item with
    | true => exact .some head
    | false => exact inductionHypothesis

theorem any_of_forall₂ (same : List.Forall₂ related items items') {holds : α → Bool}
    {holds' : α' → Bool} (alike : ∀ {item item'}, related item item' → holds' item' = holds item) :
    items'.any holds' = items.any holds := by
  induction same with
  | nil => rfl
  | cons head _ inductionHypothesis =>
    rw [List.any_cons, List.any_cons, alike head, inductionHypothesis]

theorem or_of_rel {first second : Option α} {first' second' : Option α'}
    (here : Option.Rel related first first') (there : Option.Rel related second second') :
    Option.Rel related (first.or second) (first'.or second') := by
  cases here with
  | some answer => exact .some answer
  | none => exact there

theorem filter_of_rel {option : Option α} {option' : Option α'}
    (same : Option.Rel related option option') {wanted : α → Bool} {wanted' : α' → Bool}
    (alike : ∀ {item item'}, related item item' → wanted' item' = wanted item) :
    Option.Rel related (option.filter wanted) (option'.filter wanted') := by
  cases same with
  | none => exact .none
  | @some item item' answer =>
    rw [Option.filter_some, Option.filter_some, alike answer]
    split
    · exact .some answer
    · exact .none

theorem isSome_of_rel {option : Option α} {option' : Option α'}
    (same : Option.Rel related option option') : option'.isSome = option.isSome := by
  cases same <;> rfl

end Lists

/-! ### Walks side by side -/

/-- When two walks count as going side by side. -/
structure Pairing where
  /-- Which states correspond. -/
  states : Run → Run → Prop
  /-- Which reasons to end early correspond. -/
  stops : Stop → Stop → Prop

namespace Pairing

variable (pairing : Pairing)

section Walks

variable {α α' : Type} (answers : α → α' → Prop)

/-- Two walks ended in corresponding ways. -/
inductive Ends : EStateM.Result Stop Run α → EStateM.Result Stop Run α' → Prop
  | ok {answer answer' after after'} (related : answers answer answer')
    (state : pairing.states after after') : Ends (.ok answer after) (.ok answer' after')
  | error {stop stop' after after'} (reason : pairing.stops stop stop')
    (state : pairing.states after after') : Ends (.error stop after) (.error stop' after')

/-- Two walks do corresponding things wherever their states correspond. -/
structure Walks (walk : Walk α) (walk' : Walk α') : Prop where
  ends : ∀ {run run'}, pairing.states run run' → pairing.Ends answers (walk run) (walk' run')

end Walks

namespace Walks

variable {pairing} {α α' β β' : Type} {answers : α → α' → Prop} {others : β → β' → Prop}
  {walk : Walk α} {walk' : Walk α'}

/-! ### Ways to put walks together -/

theorem pure {answer : α} {answer' : α'} (related : answers answer answer') :
    pairing.Walks answers (pure answer) (pure answer') :=
  ⟨fun state => .ok related state⟩

theorem throw {stop stop' : Stop} (reason : pairing.stops stop stop') :
    pairing.Walks answers (throw stop) (throw stop') :=
  ⟨fun state => .error reason state⟩

/-- Results correspond if their reports do, as reasons to end early. -/
theorem lift {reports : Report → Report → Prop} {result : Except Report α}
    {result' : Except Report α'}
    (stopped : ∀ {report report'}, reports report report' →
      pairing.stops (.failed report) (.failed report'))
    (same : Except.Lifted reports answers result result') :
    pairing.Walks answers (Walk.lift result) (Walk.lift result') := by
  cases same with
  | error related => exact throw (stopped related)
  | ok related => exact pure related

theorem get : pairing.Walks pairing.states MonadState.get MonadState.get :=
  ⟨fun state => .ok state state⟩

theorem modify {change change' : Run → Run}
    (same : ∀ {run run'}, pairing.states run run' → pairing.states (change run) (change' run')) :
    pairing.Walks Eq (modify change) (modify change') :=
  ⟨fun state => .ok rfl (same state)⟩

theorem bind {next : α → Walk β} {next' : α' → Walk β'} (first : pairing.Walks answers walk walk')
    (later : ∀ {answer answer'}, answers answer answer' →
      pairing.Walks others (next answer) (next' answer')) :
    pairing.Walks others (walk >>= next) (walk' >>= next') := by
  refine ⟨fun {run run'} state => ?_⟩
  have ended := first.ends state
  generalize here : walk run = result at ended
  generalize there : walk' run' = result' at ended
  cases ended with
  | ok related state =>
    rw [Walk.bind_ok here, Walk.bind_ok there]
    exact (later related).ends state
  | error reason state =>
    rw [Walk.bind_error here, Walk.bind_error there]
    exact .error reason state

theorem annotatedAfter {note note' : Run → Report → Report}
    (same : pairing.Walks answers walk walk')
    (noted : ∀ {run run'}, pairing.states run run' → ∀ {stop stop'}, pairing.stops stop stop' →
      pairing.stops (stop.annotate (note run)) (stop'.annotate (note' run'))) :
    pairing.Walks answers (Walk.annotatedAfter note walk) (Walk.annotatedAfter note' walk') := by
  refine ⟨fun {run run'} state => ?_⟩
  have ended := same.ends state
  generalize here : walk run = result at ended
  generalize there : walk' run' = result' at ended
  cases ended with
  | ok related state =>
    rw [Walk.annotatedAfter_ok here, Walk.annotatedAfter_ok there]
    exact .ok related state
  | error reason state =>
    rw [Walk.annotatedAfter_error here, Walk.annotatedAfter_error there]
    exact .error (noted state reason) state

theorem ensuring {cleanup cleanup' : Run → Run} (same : pairing.Walks answers walk walk')
    (cleaned : ∀ {run run'}, pairing.states run run' →
      pairing.states (cleanup run) (cleanup' run')) :
    pairing.Walks answers (Walk.ensuring cleanup walk) (Walk.ensuring cleanup' walk') := by
  refine ⟨fun {run run'} state => ?_⟩
  have ended := same.ends state
  generalize here : walk run = result at ended
  generalize there : walk' run' = result' at ended
  cases ended with
  | ok related state =>
    rw [Walk.ensuring_ok here, Walk.ensuring_ok there]
    exact .ok related (cleaned state)
  | error reason state =>
    rw [Walk.ensuring_error here, Walk.ensuring_error there]
    exact .error reason (cleaned state)

theorem tryCatch {handle : Stop → Walk α} {handle' : Stop → Walk α'}
    (same : pairing.Walks answers walk walk')
    (handled : ∀ {stop stop'}, pairing.stops stop stop' →
      pairing.Walks answers (handle stop) (handle' stop')) :
    pairing.Walks answers (tryCatch walk handle) (tryCatch walk' handle') := by
  refine ⟨fun {run run'} state => ?_⟩
  have ended := same.ends state
  generalize here : walk run = result at ended
  generalize there : walk' run' = result' at ended
  cases ended with
  | ok related state =>
    rw [Walk.tryCatch_ok here, Walk.tryCatch_ok there]
    exact .ok related state
  | error reason state =>
    rw [Walk.tryCatch_error here, Walk.tryCatch_error there]
    exact (handled reason).ends state

/-- Walks in other sessions come back to the sessions that they started in. -/
theorem inSession {session session' : Session} (same : pairing.Walks answers walk walk')
    (opened : ∀ {run run' : Run}, pairing.states run run' →
      pairing.states { run with session } { run' with session := session' })
    (closed : ∀ {run run' after after' : Run}, pairing.states run run' →
      pairing.states after after' →
      pairing.states { after with session := run.session }
        { after' with session := run'.session }) :
    pairing.Walks answers (Walk.inSession session walk) (Walk.inSession session' walk') := by
  refine ⟨fun {run run'} state => ?_⟩
  have ended := same.ends (opened state)
  rw [Walk.inSession, Walk.inSession]
  generalize walk _ = result at ended ⊢
  generalize walk' _ = result' at ended ⊢
  cases ended with
  | ok related after => exact .ok related (closed state after)
  | error reason after => exact .error reason (closed state after)

end Walks

end Pairing

/-! ### Printing -/

namespace Expr

variable {pairing : Pairing} {δ δ' : Type} {statements : δ → δ' → Prop} {generate : δ → Walk String}
  {generate' : δ' → Walk String}

mutual

/-- Expressions print alike if their statements do. -/
theorem valueSource_walks (generates : ∀ ⦃statement statement'⦄, statements statement statement' →
      pairing.Walks Eq (generate statement) (generate' statement')) :
    (expression : Expr δ) → {expression' : Expr δ'} → Lifted statements expression expression' →
    pairing.Walks Eq (expression.valueSource generate) (expression'.valueSource generate')
  | .literal _, _, .literal _ | .reference _, _, .reference _ | .raw _, _, .raw _ => .pure rfl
  | .anonymous _ overrides, _, .anonymous _ all =>
    .bind (overridesSource_walks generates overrides all) fun equal => .pure (by rw [equal])
  | .list items, _, .list all =>
    .bind (additionsSource_walks generates items all) fun equal => .pure (by rw [equal])
  | .ret inner, _, .ret same => by
    rw [valueSource, valueSource]
    exact valueSource_walks generates inner same
  | .deferred _, _, .deferred same => generates same

theorem overridesSource_walks
    (generates : ∀ ⦃statement statement'⦄, statements statement statement' →
      pairing.Walks Eq (generate statement) (generate' statement')) :
    (overrides : List (Override δ)) → {overrides' : List (Override δ')} →
    OverridesLifted statements overrides overrides' →
    pairing.Walks Eq (overridesSource generate overrides) (overridesSource generate' overrides')
  | [], _, .nil => .pure rfl
  | .empty _ _ :: rest, _, .empty _ _ tail =>
    .bind (overridesSource_walks generates rest tail) fun others => .pure (by rw [others])
  | .returning _ _ value :: rest, _, .returning _ _ head tail =>
    .bind (valueSource_walks generates value head) fun body =>
      .bind (overridesSource_walks generates rest tail) fun others =>
        .pure (by rw [body, others])

theorem additionsSource_walks
    (generates : ∀ ⦃statement statement'⦄, statements statement statement' →
      pairing.Walks Eq (generate statement) (generate' statement')) :
    (items : List (Expr δ)) → {items' : List (Expr δ')} → ItemsLifted statements items items' →
    pairing.Walks Eq (additionsSource generate items) (additionsSource generate' items')
  | [], _, .nil => .pure rfl
  | item :: rest, _, .cons head tail =>
    .bind (valueSource_walks generates item head) fun first =>
      .bind (additionsSource_walks generates rest tail) fun others =>
        .pure (by rw [first, others])

end

end Expr

end FrozenGraph
