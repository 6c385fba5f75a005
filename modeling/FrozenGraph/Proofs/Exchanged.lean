/-
This file exchanges the ways in which targets are looked up. A type may be expanded by a snapshot or
registered around it; an object of that type takes another route then, through the literals instead
of straight into its expansion, and is looked up in another order, but below an answer all the names
are searched together. So one registry with its expansions stands in for another one if the two find
the same when they are searched together, and if whatever can be written in the first can be written
in the second. A walk that ends with an answer in the first ends with the same answer in the second,
through the same events. Only the nodes on the way differ, in the expansions that they carry, and no
text shows these.
-/

import FrozenGraph.Proofs.Nested

namespace FrozenGraph

/-! ### Expressions with other statements -/

namespace Expr

variable {δ ε : Type} (change : δ → ε)

mutual

/-- The same expression with every statement changed. -/
def map : Expr δ → Expr ε
  | .literal value => .literal value
  | .reference name => .reference name
  | .raw text => .raw text
  | .anonymous extended overrides => .anonymous extended (mapOverrides overrides)
  | .list items => .list (mapItems items)
  | .ret inner => .ret (map inner)
  | .deferred statement => .deferred (change statement)

/-- The same methods with every statement changed. -/
def mapOverrides : List (Override δ) → List (Override ε)
  | [] => []
  | .empty name returns :: rest => .empty name returns :: mapOverrides rest
  | .returning name returns value :: rest =>
    .returning name returns (map value) :: mapOverrides rest

/-- The same items with every statement changed. -/
def mapItems : List (Expr δ) → List (Expr ε)
  | [] => []
  | item :: rest => map item :: mapItems rest

end

variable {change} (finished : ε → String)

mutual

/-- What is printed of a changed statement is printed in its place. -/
theorem text_map : (expression : Expr δ) →
    (expression.map change).text finished = expression.text (finished ∘ change)
  | .literal _ | .reference _ | .raw _ | .deferred _ => rfl
  | .anonymous extended overrides => by
    rw [map, text_anonymous, text_anonymous, overridesText_mapOverrides overrides]
  | .list items => by rw [map, text_list, text_list, additionsText_mapItems items]
  | .ret inner => text_map inner

theorem overridesText_mapOverrides : (overrides : List (Override δ)) →
    overridesText finished (mapOverrides change overrides) =
      overridesText (finished ∘ change) overrides
  | [] => rfl
  | .empty name returns :: rest => by
    rw [mapOverrides, overridesText_empty, overridesText_empty, overridesText_mapOverrides rest]
  | .returning name returns value :: rest => by
    rw [mapOverrides, overridesText_returning, overridesText_returning, text_map value,
      overridesText_mapOverrides rest]

theorem additionsText_mapItems : (items : List (Expr δ)) →
    additionsText finished (mapItems change items) = additionsText (finished ∘ change) items
  | [] => rfl
  | item :: rest => by
    rw [mapItems, additionsText_cons, additionsText_cons, text_map item,
      additionsText_mapItems rest]

end

mutual

/-- An expression without statements stays as it is. -/
theorem map_of_statements_eq_nil {same : δ → δ} : (expression : Expr δ) →
    expression.statements = [] → expression.map same = expression
  | .literal _, _ | .reference _, _ | .raw _, _ => rfl
  | .anonymous extended overrides, bare => by
    rw [map, mapOverrides_of_statements_eq_nil overrides bare]
  | .list items, bare => by rw [map, mapItems_of_statements_eq_nil items bare]
  | .ret inner, bare => by rw [map, map_of_statements_eq_nil inner bare]
  | .deferred _, bare => nomatch bare

theorem mapOverrides_of_statements_eq_nil {same : δ → δ} : (overrides : List (Override δ)) →
    overridesStatements overrides = [] → mapOverrides same overrides = overrides
  | [], _ => rfl
  | .empty name returns :: rest, bare => by
    rw [mapOverrides, mapOverrides_of_statements_eq_nil rest bare]
  | .returning name returns value :: rest, bare => by
    obtain ⟨own, others⟩ := List.append_eq_nil_iff.mp bare
    rw [mapOverrides, map_of_statements_eq_nil value own,
      mapOverrides_of_statements_eq_nil rest others]

theorem mapItems_of_statements_eq_nil {same : δ → δ} : (items : List (Expr δ)) →
    itemsStatements items = [] → mapItems same items = items
  | [], _ => rfl
  | item :: rest, bare => by
    obtain ⟨own, others⟩ := List.append_eq_nil_iff.mp bare
    rw [mapItems, map_of_statements_eq_nil item own, mapItems_of_statements_eq_nil rest others]

end

end Expr

/-! ### Nodes with other expansions -/

/-- The same node with other types to expand. -/
def Node.retyped (node : Node) (expansions : Expansions) : Node :=
  { node with expansions }

@[simp] theorem Node.retyped_self (node : Node) : node.retyped node.expansions = node := rfl

/-- The same statement with other types to expand. -/
def Deferred.retyped (expansions : Expansions) : Deferred → Deferred
  | .text content => .text content
  | .failing details => .failing details
  | .node planned => .node (planned.retyped expansions)
  | .snapshot number => .snapshot number

/-- The same expression with other types to expand in all its nodes. -/
def Code.retyped (expansions : Expansions) (code : Code) : Code :=
  Expr.map (Deferred.retyped expansions) code

/-- No text shows what a finished node expands. -/
theorem Deferred.finished_comp_retyped (expansions : Expansions) :
    finished ∘ retyped expansions = finished := by
  funext statement
  cases statement <;> rfl

/-- What is planned does not depend on what is expanded. -/
theorem Node.build_retyped (object : LiveObject) (target : Target)
    (expansions expansions' : Expansions) :
    build object target expansions' =
      (build object target expansions).map (·.retyped expansions') := by
  unfold build
  cases checkExtendable target with
  | error report => rfl
  | ok _ =>
    simp only [bind, Except.bind]
    split
    · cases target.accessors <;> rfl
    · rfl

theorem Node.classText_retyped (node : Node) (expansions : Expansions)
    {registry registry' : Registry} (options : registry'.options = registry.options)
    (overrides : List (Override Deferred)) :
    (node.retyped expansions).classText registry'
        (Expr.mapOverrides (Deferred.retyped expansions) overrides) =
      node.classText registry overrides := by
  let code : Code := .anonymous node.target.declaredType overrides
  have written : (code.retyped expansions).text Deferred.finished =
      code.text (Deferred.finished ∘ Deferred.retyped expansions) :=
    Expr.text_map Deferred.finished code
  rw [Deferred.finished_comp_retyped] at written
  rw [classText, classText, options]
  exact congrArg _ written

/-! ### Registries that stand in for others -/

/-- A registry with its expansions stands in for another one: searched together they find the same,
and what can be written in the other one can be written here, as a literal or as an expansion. -/
structure StandIn (registry : Registry) (expansions : Expansions) (registry' : Registry)
    (expansions' : Expansions) : Prop where
  options : registry'.options = registry.options
  byName? : ∀ name, (expansions'.byName? name).or (registry'.byName? name) =
    (expansions.byName? name).or (registry.byName? name)
  accepting? : ∀ runtime, (expansions'.accepting? runtime).or (registry'.accepting? runtime) =
    (expansions.accepting? runtime).or (registry.accepting? runtime)
  literal : ∀ declared, registry.hasLiteral declared → registry'.hasLiteral declared
  expanded : ∀ declared target, expansions.byDeclared? declared = some target →
    registry'.hasLiteral declared ∨ expansions'.byDeclared? declared = some target

namespace StandIn

variable {node : Node} {registry registry' : Registry} {expansions' : Expansions}

theorem refl (registry : Registry) (expansions : Expansions) :
    StandIn registry expansions registry expansions where
  options := rfl
  byName? _ := rfl
  accepting? _ := rfl
  literal _ literal := literal
  expanded _ _ registered := .inr registered

/-- Around the answers of a node the one still stands in for the other. -/
theorem inner (standIn : StandIn registry node.expansions registry' expansions') :
    StandIn (node.inner registry) node.expansions ((node.retyped expansions').inner registry')
      expansions' where
  options := standIn.options
  byName? name := by
    rw [Node.byName?_inner, Node.byName?_inner, ← Option.or_assoc, ← Option.or_assoc]
    simp only [Node.retyped, Option.or_self, standIn.byName?]
  accepting? runtime := by
    rw [Node.accepting?_inner, Node.accepting?_inner, ← Option.or_assoc, ← Option.or_assoc]
    simp only [Node.retyped, Option.or_self, standIn.accepting?]
  literal declared literal := by
    rw [Node.hasLiteral_inner, Bool.or_eq_true] at literal ⊢
    rcases literal with around | registered
    · exact .inl (standIn.literal declared around)
    · obtain ⟨target, found⟩ := Option.isSome_iff_exists.mp registered
      refine (standIn.expanded declared target found).imp_right fun own => ?_
      exact Option.isSome_iff_exists.mpr ⟨target, own⟩
  expanded declared target registered := by
    refine (standIn.expanded declared target registered).imp_left fun literal => ?_
    rw [Node.hasLiteral_inner, literal, Bool.true_or]

/-- There, both choose the same targets. -/
theorem targetFor?_inner (standIn : StandIn registry node.expansions registry' expansions')
    (declared : Option DeclaredType) (runtime : RuntimeType) :
    Encode.targetFor? ((node.retyped expansions').inner registry') expansions' declared runtime =
      Encode.targetFor? (node.inner registry) node.expansions declared runtime := by
  have again {α : Type} (own around : Option α) : (own.or around).or own = own.or around := by
    cases own <;> simp
  have named : Encode.declaredTarget? ((node.retyped expansions').inner registry') expansions' =
      Encode.declaredTarget? (node.inner registry) node.expansions := by
    funext declared
    simp only [Encode.declaredTarget?, Node.byName?_inner, Node.retyped, again]
    simp only [standIn.byName?]
  have accepted : (expansions'.accepting? runtime).or
        (((node.retyped expansions').inner registry').accepting? runtime) =
      (node.expansions.accepting? runtime).or ((node.inner registry).accepting? runtime) := by
    rw [Node.accepting?_inner, Node.accepting?_inner, ← Option.or_assoc, ← Option.or_assoc]
    simp only [Node.retyped, Option.or_self, standIn.accepting?]
  rw [Encode.targetFor?, Encode.targetFor?, named, Option.or_assoc, Option.or_assoc, accepted]

end StandIn

/-! ### States with other expansions -/

/-- Two states are the same, but for what the nodes expand in the expressions that they know. -/
structure Run.Retyped (expansions : Expansions) (first second : Run) : Prop where
  history : second.world.history = first.world.history
  allocated : second.world.allocated = first.world.allocated
  chain : second.session.chain = first.session.chain
  find? : ∀ identity, second.session.memo.find? identity =
    (first.session.memo.find? identity).map (Code.retyped expansions)

namespace Run.Retyped

variable {expansions : Expansions} {first second : Run}

theorem retain (same : first.Retyped expansions second) (value : Value) :
    (first.retain value).Retyped expansions (second.retain value) where
  history := same.history
  allocated := same.allocated
  chain := by rw [retain_chain, retain_chain, same.chain]
  find? identity := by rw [retain_memo, retain_memo, same.find? identity]

theorem record (same : first.Retyped expansions second) (identity : Identity) (code : Code) :
    (first.record identity code).Retyped expansions
      (second.record identity (code.retyped expansions)) where
  history := same.history
  allocated := same.allocated
  chain := same.chain
  find? other := by
    show (second.session.memo.record _ _).find? other =
      ((first.session.memo.record _ _).find? other).map _
    rw [Memo.find?_record, Memo.find?_record, same.find? other]
    cases first.session.memo.find? other with
    | some known => rfl
    | none => by_cases own : other = identity <;> simp [own]

theorem recordFor (same : first.Retyped expansions second) (value : Value) (code : Code) :
    (first.recordFor value code).Retyped expansions
      (second.recordFor value (code.retyped expansions)) := by
  unfold Run.recordFor
  split
  · exact same.record _ _
  · exact same

theorem enter (same : first.Retyped expansions second) (object : LiveObject) (target : Target) :
    (first.enter object target).Retyped expansions (second.enter object target) where
  history := same.history
  allocated := same.allocated
  chain := by simp only [Run.enter, same.chain]
  find? := same.find?

theorem leave (same : first.Retyped expansions second) (identity : Identity) :
    (first.leave identity).Retyped expansions (second.leave identity) where
  history := same.history
  allocated := same.allocated
  chain := congrArg (·.leave identity) same.chain
  find? := same.find?

/-- An accessor answers the same in both states. -/
theorem reply_eq (same : first.Retyped expansions second) (heap : Heap) (object : Identity)
    (accessor : String) :
    heap.reply second.world object accessor = heap.reply first.world object accessor := by
  rw [Heap.reply, Heap.reply, same.history, same.allocated]

/-- The same answer is noted in both states, wherever its origin is kept. -/
theorem noted {ledger ledger' other other' : Ledger} {method : Method} {value : Value}
    {invocation : Invocation} {allocated : Nat} {noted noted' : Run}
    (same : first.Retyped expansions second)
    (recorded : ledger.record method value ((first.note invocation allocated).retain value) =
      .ok ledger' noted)
    (recorded' : other.record method value ((second.note invocation allocated).retain value) =
      .ok other' noted') : noted.Retyped expansions noted' where
  history := by
    rw [(Ledger.record_frame recorded).2.1, (Ledger.record_frame recorded').2.1]
    exact congrArg (invocation :: ·) same.history
  allocated := by rw [Ledger.allocated_of_record recorded, Ledger.allocated_of_record recorded']
  chain := by rw [Ledger.chain_of_record recorded, Ledger.chain_of_record recorded', same.chain]
  find? identity := by
    rw [Ledger.memo_of_record recorded, Ledger.memo_of_record recorded', same.find? identity]

theorem find?_some (same : first.Retyped expansions second) {identity : Identity} {code : Code}
    (found : first.session.memo.find? identity = some code) :
    second.session.memo.find? identity = some (code.retyped expansions) := by
  rw [same.find?, found]
  rfl

theorem find?_none (same : first.Retyped expansions second) {identity : Identity}
    (unknown : first.session.memo.find? identity = none) :
    second.session.memo.find? identity = none := by
  rw [same.find?, unknown]
  rfl

theorem known?_none (same : first.Retyped expansions second) {value : Value}
    (unknown : Route.known? first.session value = none) :
    Route.known? second.session value = none := by
  unfold Route.known? at unknown ⊢
  cases identified : value.identity? with
  | none => rfl
  | some identity =>
    rw [identified] at unknown
    exact same.find?_none unknown

end Run.Retyped

/-! ### Walks with other expansions -/

/-- The same part in another registry, with other types to expand and another place for the origins
of its answers. -/
def Part.exchanged (registry : Registry) (expansions : Expansions) (ledger : Ledger) : Part → Part
  | .value _ _ declared content code =>
    .value registry expansions declared content (code.retyped expansions)
  | .items _ _ contents codes =>
    .items registry expansions contents (Expr.mapItems (Deferred.retyped expansions) codes)
  | .object _ _ live target code =>
    .object registry expansions live target (code.retyped expansions)
  | .answer node _ declared content code =>
    .answer (node.retyped expansions) registry declared content (code.retyped expansions)
  | .methods node _ _ accessors overrides =>
    .methods (node.retyped expansions) registry ledger accessors
      (Expr.mapOverrides (Deferred.retyped expansions) overrides)

/-- Whether a registry with its expansions can take the place of those of a part. Where values are
written, which is inside of an answer, it has to choose the same targets as well. -/
def Part.ServedBy (registry' : Registry) (expansions' : Expansions) : Part → Prop
  | .value registry expansions _ _ _ | .items registry expansions _ _ =>
    StandIn registry expansions registry' expansions' ∧ ∀ declared runtime,
      Encode.targetFor? registry' expansions' declared runtime =
        Encode.targetFor? registry expansions declared runtime
  | .object registry expansions _ _ _ => StandIn registry expansions registry' expansions'
  | .answer node registry _ _ _ | .methods node registry _ _ _ =>
    StandIn registry node.expansions registry' expansions'

/-- A part that ends with an answer ends with the same one where another registry stands in for its
own, and through the same events. -/
theorem Walked.exchanged {heap : Heap} {part : Part} {before before' after : Run}
    {events : List Event} (walked : Walked heap part before events after) {registry' : Registry}
    {expansions' : Expansions} (ledger' : Ledger) (served : part.ServedBy registry' expansions')
    (same : before.Retyped expansions' before') :
    ∃ after', Walked heap (part.exchanged registry' expansions' ledger') before' events after' ∧
      after.Retyped expansions' after' := by
  induction walked generalizing registry' ledger' before' with
  | scalar => exact ⟨before', .scalar, same⟩
  | known identified found => exact ⟨before', .known identified (same.find?_some found), same⟩
  | list unknown _ inductionHypothesis =>
    obtain ⟨after', written, done⟩ := inductionHypothesis ledger' served same
    exact ⟨_, .list (same.find?_none unknown) written, done.record _ _⟩
  | literalObject unknown fits _ inductionHypothesis =>
    obtain ⟨after', expanded, done⟩ := inductionHypothesis ledger' served.1 same
    exact ⟨after', .literalObject (same.find?_none unknown) ((served.2 _ _).trans fits) expanded,
      done⟩
  | noItem => exact ⟨before', .noItem, same⟩
  | item _ _ head tail =>
    obtain ⟨between', first, middle⟩ := head ledger' served (same.retain _)
    obtain ⟨after', rest, done⟩ := tail ledger' served middle
    exact ⟨after', .item first rest, done⟩
  | reused found => exact ⟨before', .reused (same.find?_some found), same⟩
  | @rendered registry _ _ _ node overrides _ _ _ unknown built free _ inductionHypothesis =>
    obtain ⟨rfl, rfl, rfl, _, _, _, _⟩ := Node.built_of_build built
    obtain ⟨after', others, done⟩ := inductionHypothesis .empty served (same.enter _ _)
    have built' : Node.build node.object node.target expansions' =
        .ok (node.retyped expansions') := by
      rw [Node.build_retyped _ _ node.expansions, built]
      rfl
    have step := Walked.rendered (same.find?_none unknown) built' (same.chain ▸ free) others
    rw [node.classText_retyped expansions' served.options] at step
    exact ⟨_, step, (done.leave _).record _ _⟩
  | null => exact ⟨before', .null, same⟩
  | recalled routed =>
    obtain ⟨identity, identified, found⟩ := Route.known_of_choose routed
    exact ⟨_, .recalled (Route.choose_of_known identified (same.find?_some found) _ _ _),
      same.recordFor _ _⟩
  | @literal _ _ declared value _ _ _ _ routed _ inductionHypothesis =>
    obtain ⟨present, unknown, literal⟩ := Route.choose_eq_literal_iff.mp routed
    have routed' : Route.choose registry' expansions' before'.session declared value =
        .ok .literal :=
      Route.choose_eq_literal_iff.mpr
        ⟨present, same.known?_none unknown, served.literal _ literal⟩
    obtain ⟨after', written, done⟩ :=
      inductionHypothesis ledger' ⟨served.inner, served.targetFor?_inner⟩ same
    exact ⟨_, .literal routed' written, done.recordFor _ _⟩
  | @expanded node registry declared live target _ _ _ _ routed written inductionHypothesis =>
    obtain ⟨present, unknown, _, registered, free⟩ := Route.choose_eq_expand_iff.mp routed
    have unknown' := same.known?_none unknown
    obtain ⟨after', written', done⟩ := inductionHypothesis ledger' served.inner same
    cases literal : registry'.hasLiteral declared with
    | false =>
      have expands := (served.expanded _ _ registered).resolve_left (by simp [literal])
      have routed' := Route.choose_eq_expand_iff.mpr
        ⟨present, unknown', literal, expands, same.chain ▸ free⟩
      exact ⟨_, .expanded routed' written', done.record _ _⟩
    | true =>
      -- The object is written as a literal, which finds the target that it was expanded as.
      obtain ⟨accepts, _⟩ := written.fresh_of_unknown (Route.find?_eq_none unknown rfl)
      have fits := (served.targetFor?_inner _ _).trans
        (node.targetFor?_inner registry registered accepts)
      have routed' : Route.choose registry' expansions' before'.session declared
          (.object live) = .ok .literal :=
        Route.choose_eq_literal_iff.mpr ⟨present, unknown', literal⟩
      exact ⟨_, .literal routed' (.literalObject (Route.find?_eq_none unknown' rfl) fits written'),
        done.record _ _⟩
  | noMethod => exact ⟨before', .noMethod, same⟩
  | skipped void _ inductionHypothesis =>
    obtain ⟨after', later, done⟩ := inductionHypothesis ledger' served same
    exact ⟨after', .skipped void later, done⟩
  | method answers replied recorded _ _ expressed later =>
    obtain ⟨kept, noted', recorded'⟩ := Node.record_ok ledger' _ _ ((before'.note _ _).retain _)
    obtain ⟨between', written, middle⟩ := expressed .empty served (same.noted recorded recorded')
    obtain ⟨after', others, done⟩ := later kept served middle
    exact ⟨after', .method answers ((same.reply_eq _ _ _).trans replied) recorded' written others,
      done⟩

end FrozenGraph
