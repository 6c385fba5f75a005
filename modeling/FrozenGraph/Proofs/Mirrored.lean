/-
This file shows on what a part of a walk depends. Two registries that answer every lookup alike are
as good as each other, and of the chain only the objects count that the part can meet. So a part
that ends with an answer in one state ends with the same answer, through the same events, in every
state that mirrors it: where the same is known, new lists get the same identities, and the objects
inside are in progress or not as before. What else is in progress does not matter, nor does what was
invoked before, as long as the objects inside answer the same whenever they are asked.
-/

import FrozenGraph.Proofs.Answered
import FrozenGraph.Proofs.Confined
import FrozenGraph.Proofs.Substituted

namespace FrozenGraph

/-! ### Registries that answer alike -/

/-- Two registries lay text out alike and answer every lookup alike. -/
structure Registry.Alike (first second : Registry) : Prop where
  options : second.options = first.options
  byName? : ∀ name, second.byName? name = first.byName? name
  accepting? : ∀ runtime, second.accepting? runtime = first.accepting? runtime
  isValueType : ∀ name, second.isValueType name = first.isValueType name

namespace Node

/-- The registry of the answers of a node finds the expansions first. -/
theorem byName?_inner (node : Node) (registry : Registry) (name : TypeName) :
    (node.inner registry).byName? name =
      (node.expansions.byName? name).or (registry.byName? name) := by
  rw [inner, Registry.withTargets, Registry.enter, Registry.byName?, List.findSome?_cons,
    Expansions.byName?]
  cases node.expansions.targets.find? (·.name == name.erased) <;> rfl

theorem accepting?_inner (node : Node) (registry : Registry) (runtime : RuntimeType) :
    (node.inner registry).accepting? runtime =
      (node.expansions.accepting? runtime).or (registry.accepting? runtime) := by
  rw [inner, Registry.withTargets, Registry.enter, Registry.accepting?, List.findSome?_cons,
    Expansions.accepting?]
  cases node.expansions.targets.find? (·.accepts runtime) <;> rfl

theorem isValueType_inner (node : Node) (registry : Registry) (name : TypeName) :
    (node.inner registry).isValueType name = registry.isValueType name := rfl

end Node

namespace Registry.Alike

variable {first second : Registry}

theorem symm (alike : first.Alike second) : second.Alike first where
  options := alike.options.symm
  byName? name := (alike.byName? name).symm
  accepting? runtime := (alike.accepting? runtime).symm
  isValueType name := (alike.isValueType name).symm

theorem inner (alike : first.Alike second) (node : Node) :
    (node.inner first).Alike (node.inner second) where
  options := alike.options
  byName? name := by rw [node.byName?_inner, node.byName?_inner, alike.byName?]
  accepting? runtime := by rw [node.accepting?_inner, node.accepting?_inner, alike.accepting?]
  isValueType := alike.isValueType

/-- Opening the scope of the expansions twice is like opening it once. -/
theorem inner_inner (node : Node) (registry : Registry) :
    (node.inner registry).Alike (node.inner (node.inner registry)) where
  options := rfl
  byName? name := by simp only [node.byName?_inner, ← Option.or_assoc, Option.or_self]
  accepting? runtime := by simp only [node.accepting?_inner, ← Option.or_assoc, Option.or_self]
  isValueType _ := rfl

theorem hasLiteral (alike : first.Alike second) (declared : DeclaredType) :
    second.hasLiteral declared = first.hasLiteral declared := by
  cases declared with
  | void | primitive _ => rfl
  | named name arguments => simp only [Registry.hasLiteral, alike.isValueType, alike.byName?]

theorem targetFor? (alike : first.Alike second) (expansions : Expansions)
    (declared : Option DeclaredType) (runtime : RuntimeType) :
    Encode.targetFor? second expansions declared runtime =
      Encode.targetFor? first expansions declared runtime := by
  have named : Encode.declaredTarget? second expansions =
      Encode.declaredTarget? first expansions := by
    funext declared
    simp only [Encode.declaredTarget?, alike.byName?]
  rw [Encode.targetFor?, Encode.targetFor?, named, alike.accepting?]

theorem classText (alike : first.Alike second) (node : Node)
    (overrides : List (Override Deferred)) :
    node.classText second overrides = node.classText first overrides := by
  rw [Node.classText, Node.classText, alike.options]

end Registry.Alike

/-! ### Objects that answer the same -/

namespace Heap

/-- The same behaviour with other objects in view. -/
def narrowed (heap : Heap) (inside : List LiveObject) : Heap :=
  { heap with objects := inside }

/-- Whether the accessors of an object answer the same, whatever was invoked before. Lists that come
into being may be part of that. -/
def IsStable (heap : Heap) (live : LiveObject) : Prop :=
  ∀ history history' accessor,
    heap.answer history live.identity accessor = heap.answer history' live.identity accessor

/-- Whether the accessors of an object only answer what is there already. -/
def AnswersGiven (heap : Heap) (live : LiveObject) : Prop :=
  ∀ history accessor template, heap.answer history live.identity accessor = .ok template →
    ∃ value, template = .existing value

end Heap

/-! ### States that mirror each other -/

/-- Two worlds are as good as each other for some objects: as many lists have come into being in
them, or these objects never answer new ones. -/
def World.MintsLike (first second : World) (heap : Heap) (inside : List LiveObject) : Prop :=
  second.allocated = first.allocated ∨ ∀ live ∈ inside, heap.AnswersGiven live

/-- Two states mirror each other as far as some objects can see: the same is known, new lists have
the same identities, and the same ones of these objects are in progress. -/
structure Run.Mirrored (heap : Heap) (inside : List LiveObject) (first second : Run) : Prop where
  memo : second.session.memo = first.session.memo
  mints : first.world.MintsLike second.world heap inside
  busy : ∀ live ∈ inside,
    second.session.chain.contains live.identity = first.session.chain.contains live.identity

/-- A stable object answers the same in two such worlds. -/
theorem Heap.IsStable.reply_eq {heap : Heap} {inside : List LiveObject} {live : LiveObject}
    (stable : heap.IsStable live) (member : live ∈ inside) {world world' : World}
    (mints : world.MintsLike world' heap inside) {accessor : String} {value : Value}
    {allocated : Nat}
    (replied : heap.reply world live.identity accessor = (.ok value, allocated)) :
    ∃ allocated', heap.reply world' live.identity accessor = (.ok value, allocated') ∧
      (allocated' = allocated ∨ ∀ live ∈ inside, heap.AnswersGiven live) := by
  obtain ⟨template, answered, materialized⟩ := exists_template_of_reply replied
  rw [stable world.history world'.history] at answered
  rcases mints with same | given
  · refine ⟨allocated, ?_, .inl rfl⟩
    rw [reply, answered]
    show (Except.ok (template.materialize heap.supply world'.allocated).1,
      (template.materialize heap.supply world'.allocated).2) = _
    rw [same, materialized]
  · obtain ⟨stored, rfl⟩ := given live member _ _ template answered
    cases materialized
    refine ⟨world'.allocated, ?_, .inr given⟩
    rw [reply, answered]
    rfl

namespace Run.Mirrored

variable {heap : Heap} {inside : List LiveObject} {first second : Run}

theorem symm (mirrored : first.Mirrored heap inside second) :
    second.Mirrored heap inside first where
  memo := mirrored.memo.symm
  mints := mirrored.mints.imp_left Eq.symm
  busy live member := (mirrored.busy live member).symm

theorem retain (mirrored : first.Mirrored heap inside second) (value : Value) :
    (first.retain value).Mirrored heap inside (second.retain value) where
  memo := by rw [retain_memo, retain_memo, mirrored.memo]
  mints := mirrored.mints
  busy live member := by rw [retain_chain, retain_chain, mirrored.busy live member]

theorem record (mirrored : first.Mirrored heap inside second) (identity : Identity) (code : Code) :
    (first.record identity code).Mirrored heap inside (second.record identity code) where
  memo := congrArg (·.record identity code) mirrored.memo
  mints := mirrored.mints
  busy := mirrored.busy

theorem recordFor (mirrored : first.Mirrored heap inside second) (value : Value) (code : Code) :
    (first.recordFor value code).Mirrored heap inside (second.recordFor value code) := by
  unfold Run.recordFor
  split
  · exact mirrored.record _ _
  · exact mirrored

theorem enter (mirrored : first.Mirrored heap inside second) (object : LiveObject)
    (target : Target) :
    (first.enter object target).Mirrored heap inside (second.enter object target) where
  memo := mirrored.memo
  mints := mirrored.mints
  busy live member := by
    have before := mirrored.busy live member
    simp only [Chain.contains] at before
    simp only [Run.enter, Chain.contains, List.any_append, before]

/-- An object that has been walked through leaves both chains. -/
theorem leave {object : LiveObject} {target : Target} {after after' : Run}
    (mirrored : first.Mirrored heap inside second) (done : after.Mirrored heap inside after')
    (kept : after.session.chain = (first.enter object target).session.chain)
    (kept' : after'.session.chain = (second.enter object target).session.chain) :
    (after.leave object.identity).Mirrored heap inside (after'.leave object.identity) where
  memo := done.memo
  mints := done.mints
  busy live member := by
    rw [leave_chain_of_enter kept, leave_chain_of_enter kept', mirrored.busy live member]

/-- The same answer is noted in both states, wherever its origin is kept. -/
theorem noted {ledger ledger' other other' : Ledger} {method : Method} {value : Value}
    {invocation : Invocation} {allocated allocated' : Nat} {noted noted' : Run}
    (mirrored : first.Mirrored heap inside second)
    (mints : allocated' = allocated ∨ ∀ live ∈ inside, heap.AnswersGiven live)
    (recorded : ledger.record method value ((first.note invocation allocated).retain value) =
      .ok ledger' noted)
    (recorded' : other.record method value ((second.note invocation allocated').retain value) =
      .ok other' noted') : noted.Mirrored heap inside noted' where
  memo := by
    rw [Ledger.memo_of_record recorded, Ledger.memo_of_record recorded', mirrored.memo]
  mints := by
    rwa [World.MintsLike, Ledger.allocated_of_record recorded,
      Ledger.allocated_of_record recorded']
  busy live member := by
    rw [Ledger.chain_of_record recorded, Ledger.chain_of_record recorded',
      mirrored.busy live member]

/-- What is known in one state is known in the other. -/
theorem find?_eq (mirrored : first.Mirrored heap inside second) (identity : Identity) :
    second.session.memo.find? identity = first.session.memo.find? identity := by
  rw [mirrored.memo]

theorem known?_eq (mirrored : first.Mirrored heap inside second) (value : Value) :
    Route.known? second.session value = Route.known? first.session value := by
  rw [Route.known?, Route.known?, mirrored.memo]

/-- An answer that is recalled in one state is recalled in the other, whatever the registries. -/
theorem recalled {registry registry' : Registry} {expansions expansions' : Expansions}
    {declared : DeclaredType} {value : Value} {code : Code}
    (mirrored : first.Mirrored heap inside second)
    (routed : Route.choose registry expansions first.session declared value =
      .ok (.known code)) :
    Route.choose registry' expansions' second.session declared value = .ok (.known code) := by
  obtain ⟨identity, identified, found⟩ := Route.known_of_choose routed
  exact Route.choose_of_known identified ((mirrored.find?_eq identity).trans found) _ _ _

/-- So is one that is written as a literal, where its type has literals in both registries. -/
theorem literal {registry registry' : Registry} {expansions expansions' : Expansions}
    {declared : DeclaredType} {value : Value} (mirrored : first.Mirrored heap inside second)
    (routed : Route.choose registry expansions first.session declared value = .ok .literal)
    (literal : registry'.hasLiteral declared = true) :
    Route.choose registry' expansions' second.session declared value = .ok .literal := by
  obtain ⟨present, unknown, _⟩ := Route.choose_eq_literal_iff.mp routed
  exact Route.choose_eq_literal_iff.mpr
    ⟨present, (mirrored.known?_eq value).trans unknown, literal⟩

end Run.Mirrored

/-! ### Walks in states that mirror each other -/

/-- The same part with another registry around it, and with another place for the origins of its
answers. -/
def Part.moved (registry : Registry) (ledger : Ledger) : Part → Part
  | .value _ expansions declared content code =>
    .value registry expansions declared content code
  | .items _ expansions contents codes => .items registry expansions contents codes
  | .object _ expansions live target code => .object registry expansions live target code
  | .answer node _ declared content code => .answer node registry declared content code
  | .methods node _ _ accessors overrides => .methods node registry ledger accessors overrides

namespace Walked

variable {heap : Heap} {inside : List LiveObject}

/-- A method that is overridden in one state is overridden in the other, if its answer can be
written there and the methods after it can be overridden. -/
theorem method_mirrored {node : Node} {registry' : Registry} {ledger ledger' : Ledger}
    {method : Method} {rest : List Method} {value : Value} {allocated : Nat} {code : Code}
    {overrides : List (Override Deferred)} {before before' noted between after : Run}
    {first second : List Event} (member : node.object ∈ inside)
    (stable : heap.IsStable node.object) (mirrored : before.Mirrored heap inside before')
    (answers : method.returns ≠ .void)
    (replied : heap.reply before.world node.object.identity method.name = (.ok value, allocated))
    (recorded : ledger.record method value
      ((before.note ⟨node.object.identity, method.name, .ok value⟩ allocated).retain value) =
      .ok ledger' noted)
    (expressed : ∀ {noted'}, noted.Mirrored heap inside noted' → ∃ between',
      Walked heap (.answer node registry' method.returns value code) noted' first between' ∧
        between.Mirrored heap inside between')
    (later : ∀ {between'} (other : Ledger), between.Mirrored heap inside between' → ∃ after',
      Walked heap (.methods node registry' other rest overrides) between' second after' ∧
        after.Mirrored heap inside after') (other : Ledger) :
    ∃ after', Walked heap
      (.methods node registry' other (method :: rest)
        (.returning method.name method.returns code :: overrides))
      before' (.call node.object.identity method (.ok value) :: (first ++ second)) after' ∧
        after.Mirrored heap inside after' := by
  obtain ⟨allocated', replied', mints⟩ := stable.reply_eq member mirrored.mints replied
  obtain ⟨kept, noted', recorded'⟩ := Node.record_ok other method value
    ((before'.note ⟨node.object.identity, method.name, .ok value⟩ allocated').retain value)
  obtain ⟨between', written, middle⟩ := expressed (mirrored.noted mints recorded recorded')
  obtain ⟨after', others, done⟩ := later kept middle
  exact ⟨after', .method answers replied' recorded' written others, done⟩

/-- A part that ends with an answer ends with the same one in every state that mirrors its own, in
every registry that answers alike, through the same events. -/
theorem mirrored (closed : (heap.narrowed inside).IsClosed)
    (stable : ∀ live ∈ inside, heap.IsStable live) {targets : List Target} {part : Part}
    {before before' after : Run} {events : List Event}
    (walked : Walked heap part before events after) {registry' : Registry} (ledger' : Ledger)
    (alike : part.registry.Alike registry') (mirrored : before.Mirrored heap inside before')
    (confined : part.task.IsConfined (heap.narrowed inside) targets) :
    ∃ after', Walked heap (part.moved registry' ledger') before' events after' ∧
      after.Mirrored heap inside after' := by
  induction walked generalizing registry' ledger' before' with
  | scalar => exact ⟨before', .scalar, mirrored⟩
  | known identified found =>
    exact ⟨before', .known identified ((mirrored.find?_eq _).trans found), mirrored⟩
  | list unknown _ inductionHypothesis =>
    obtain ⟨after', written, done⟩ :=
      inductionHypothesis ledger' alike mirrored confined.items
    exact ⟨_, .list ((mirrored.find?_eq _).trans unknown) written, done.record _ _⟩
  | literalObject unknown fits _ inductionHypothesis =>
    obtain ⟨after', expanded, done⟩ :=
      inductionHypothesis ledger' alike mirrored (confined.object fits)
    exact ⟨after', .literalObject ((mirrored.find?_eq _).trans unknown)
      ((alike.targetFor? _ _ _).trans fits) expanded, done⟩
  | noItem => exact ⟨before', .noItem, mirrored⟩
  | item _ _ head tail =>
    obtain ⟨between', first, middle⟩ := head ledger' alike (mirrored.retain _) confined.head
    obtain ⟨after', rest, done⟩ := tail ledger' alike middle confined.tail
    exact ⟨after', .item first rest, done⟩
  | reused found => exact ⟨before', .reused ((mirrored.find?_eq _).trans found), mirrored⟩
  | rendered unknown built free overridden inductionHypothesis =>
    obtain ⟨after', others, done⟩ := inductionHypothesis .empty alike (mirrored.enter _ _)
      (confined.built built)
    have step := Walked.rendered ((mirrored.find?_eq _).trans unknown) built
      ((mirrored.busy _ confined.2.1).trans free) others
    rw [alike.classText] at step
    exact ⟨_, step, (mirrored.leave done overridden.chain_eq others.chain_eq).record _ _⟩
  | null => exact ⟨before', .null, mirrored⟩
  | recalled routed =>
    exact ⟨_, .recalled (mirrored.recalled routed), mirrored.recordFor _ _⟩
  | literal routed _ inductionHypothesis =>
    obtain ⟨_, _, literal⟩ := Route.choose_eq_literal_iff.mp routed
    obtain ⟨after', written, done⟩ :=
      inductionHypothesis ledger' (alike.inner _) mirrored confined.literal
    exact ⟨_, .literal (mirrored.literal routed ((alike.hasLiteral _).trans literal)) written,
      done.recordFor _ _⟩
  | @expanded _ _ _ live _ _ _ _ _ routed _ inductionHypothesis =>
    obtain ⟨present, unknown, unliteral, registered, free⟩ :=
      Route.choose_eq_expand_iff.mp routed
    have inner := confined.expanded routed
    have free' : Route.isInProgress before'.session.chain (.object live) = false :=
      (mirrored.busy live inner.2.1).trans free
    have routed' := Route.choose_eq_expand_iff.mpr ⟨present,
      (mirrored.known?_eq _).trans unknown, (alike.hasLiteral _).trans unliteral, registered,
      free'⟩
    obtain ⟨after', written, done⟩ := inductionHypothesis ledger' (alike.inner _) mirrored inner
    exact ⟨_, .expanded routed' written, done.record _ _⟩
  | noMethod => exact ⟨before', .noMethod, mirrored⟩
  | skipped void _ inductionHypothesis =>
    obtain ⟨after', later, done⟩ :=
      inductionHypothesis ledger' alike mirrored confined.methods
    exact ⟨after', .skipped void later, done⟩
  | method answers replied recorded _ _ expressed later =>
    exact method_mirrored confined.2 (stable _ confined.2) mirrored answers replied recorded
      (fun same => expressed .empty alike same (confined.answer closed replied _))
      (fun other same => later other alike same confined.methods) ledger'

end Walked

end FrozenGraph
