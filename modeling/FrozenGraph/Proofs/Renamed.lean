/-
This file says what it is for everything that a rendering reads, keeps or reports to be the same up
to a renaming of identities. A renaming is a one-to-one relation and no function, so that it can say
of the lists that come into being which one stands for which. Tables that are searched by identity
are compared by what is found in them, so that the order of their entries does not matter; of a
report everything is compared but the wording, which shows identities. Each lookup and each change
is then shown to keep what it is given the same.
-/

import FrozenGraph.Proofs.Rooted
import Mathlib.Data.List.Forall2

namespace FrozenGraph

/-! ### Renamings -/

/-- Which identity of one heap stands for which identity of another one. What objects say of
themselves, and of what went wrong in them, may change along with it in any way. -/
structure Renaming where
  relates : Identity → Identity → Prop
  oneToOne : Relator.BiUnique relates
  texts : Option String → Option String → Prop
  faults : AccessorFault → AccessorFault → Prop

instance : CoeFun Renaming fun _ => Identity → Identity → Prop :=
  ⟨Renaming.relates⟩

/-- Identities are told apart alike on both sides. -/
theorem Renaming.eq_iff (names : Renaming) {first first' second second' : Identity}
    (here : names first first') (there : names second second') :
    first = second ↔ first' = second' :=
  Relator.rel_eq names.oneToOne here there

theorem Renaming.beq_eq (names : Renaming) {first first' second second' : Identity}
    (here : names first first') (there : names second second') :
    (first' == second') = (first == second) := by
  rw [Bool.eq_iff_iff, beq_iff_eq, beq_iff_eq, names.eq_iff here there]

/-- Two results are of one kind, and what they carry is related. -/
inductive Except.Lifted {ε ε' α α' : Type} (errors : ε → ε' → Prop) (answers : α → α' → Prop) :
    Except ε α → Except ε' α' → Prop
  | error {error error'} (related : errors error error') :
    Lifted errors answers (.error error) (.error error')
  | ok {answer answer'} (related : answers answer answer') :
    Lifted errors answers (.ok answer) (.ok answer')

theorem Except.Lifted.bind {ε ε' α α' β β' : Type} {errors : ε → ε' → Prop}
    {answers : α → α' → Prop} {others : β → β' → Prop} {first : Except ε α} {first' : Except ε' α'}
    {next : α → Except ε β} {next' : α' → Except ε' β'}
    (related : Except.Lifted errors answers first first')
    (later : ∀ answer answer', answers answer answer' →
      Except.Lifted errors others (next answer) (next' answer')) :
    Except.Lifted errors others (first >>= next) (first' >>= next') := by
  cases related with
  | error related => exact .error related
  | ok related => exact later _ _ related

variable (names : Renaming)

/-! ### Values -/

/-- An object goes by another identity. -/
structure LiveObject.Renamed (live live' : LiveObject) : Prop where
  identity : names live.identity live'.identity
  runtime : live'.runtime = live.runtime
  text : names.texts live.text live'.text

mutual

/-- Two values are built alike, and their lists and objects go by other identities. -/
inductive Value.Renamed : Value → Value → Prop
  | scalar (scalar : Scalar) : Renamed (.scalar scalar) (.scalar scalar)
  | list {identity identity' items items'} (named : names identity identity')
    (all : AllRenamed items items') : Renamed (.list identity items) (.list identity' items')
  | object {live live'} (same : live.Renamed names live') : Renamed (.object live) (.object live')

/-- Item by item, the values are built alike. -/
inductive Value.AllRenamed : List Value → List Value → Prop
  | nil : AllRenamed [] []
  | cons {first first' rest rest'} (head : Value.Renamed first first')
    (tail : AllRenamed rest rest') : AllRenamed (first :: rest) (first' :: rest')

end

namespace Value.Renamed

variable {names} {value value' : Value}

theorem isNull_eq (same : value.Renamed names value') : value'.isNull = value.isNull := by
  cases same <;> rfl

theorem typeName_eq (same : value.Renamed names value') : value'.typeName = value.typeName := by
  cases same with
  | object same => exact congrArg RuntimeType.name same.runtime
  | scalar _ | list _ _ => rfl

theorem identity? (same : value.Renamed names value') :
    Option.Rel names value.identity? value'.identity? := by
  cases same with
  | scalar _ => exact .none
  | list named _ => exact .some named
  | object same => exact .some same.identity

end Value.Renamed

mutual

/-- Two templates bring alike values into being. -/
inductive Template.Renamed : Template → Template → Prop
  | existing {value value'} (same : value.Renamed names value') :
    Renamed (.existing value) (.existing value')
  | fresh {items items'} (all : AllRenamed items items') :
    Renamed (.fresh items) (.fresh items')

/-- Item by item, the templates bring alike values into being. -/
inductive Template.AllRenamed : List Template → List Template → Prop
  | nil : AllRenamed [] []
  | cons {first first' rest rest'} (head : Template.Renamed first first')
    (tail : AllRenamed rest rest') : AllRenamed (first :: rest) (first' :: rest')

end

namespace Template

variable {names} {supply supply' : Nat → Identity}

mutual

/-- Where new lists go by related identities, templates become related values, and bring as many
lists into being. -/
theorem Renamed.materialize (supplies : ∀ serial, names (supply serial) (supply' serial)) :
    (template : Template) → {template' : Template} → template.Renamed names template' →
    (allocated : Nat) →
    (template.materialize supply allocated).1.Renamed names
        (template'.materialize supply' allocated).1 ∧
      (template'.materialize supply' allocated).2 = (template.materialize supply allocated).2
  | .existing _, _, .existing same, _ => ⟨same, rfl⟩
  | .fresh items, _, .fresh all, allocated => by
    obtain ⟨values, next⟩ := AllRenamed.materializeAll supplies items all allocated
    simp only [Template.materialize, next]
    exact ⟨.list (supplies _) values, trivial⟩

theorem AllRenamed.materializeAll (supplies : ∀ serial, names (supply serial) (supply' serial)) :
    (items : List Template) → {items' : List Template} → AllRenamed names items items' →
    (allocated : Nat) →
    Value.AllRenamed names (Template.materializeAll supply items allocated).1
        (Template.materializeAll supply' items' allocated).1 ∧
      (Template.materializeAll supply' items' allocated).2 =
        (Template.materializeAll supply items allocated).2
  | [], _, .nil, _ => ⟨.nil, rfl⟩
  | first :: rest, _, .cons head tail, allocated => by
    obtain ⟨value, next⟩ := Renamed.materialize supplies first head allocated
    obtain ⟨values, last⟩ := AllRenamed.materializeAll supplies rest tail
      (first.materialize supply allocated).2
    simp only [Template.materializeAll, next, last]
    exact ⟨.cons value values, trivial⟩

end

end Template

/-! ### Reports -/

/-- Two members of a chain stand for each other. -/
def Member.Renamed (member member' : Member) : Prop :=
  names member.identity member'.identity

/-- Two faults are of one kind and about the same; the members of a cycle and the value without a
literal go by other identities. -/
inductive Fault.Renamed : Fault → Fault → Prop
  | invalid {details details'} (subject : String) :
    Renamed (.invalid subject details) (.invalid subject details')
  | cycle {members members'} (same : List.Forall₂ (Member.Renamed names) members members') :
    Renamed (.cycle members) (.cycle members')
  | notLiteral {value value' identity identity'} (typeName : TypeName)
    (named : Option.Rel names identity identity') :
    Renamed (.notLiteral value typeName identity) (.notLiteral value' typeName identity')
  | failed {details details'} (action : String) :
    Renamed (.failed action details) (.failed action details')

/-- Two notes say the same but for their wording. -/
inductive Note.Alike : Note → Note → Prop
  | text {text text'} : Alike (.text text) (.text text')
  | origin (origin : Origin) : Alike (.origin origin) (.origin origin)

/-- Two reports say the same but for their wording and for the identities. -/
structure Report.Renamed (report report' : Report) : Prop where
  fault : report.fault.Renamed names report'.fault
  notes : List.Forall₂ Note.Alike report.notes report'.notes
  cause : Option.Rel names.faults report.cause report'.cause

/-- Two walks ended early for the same reason. -/
inductive Stop.Renamed : Stop → Stop → Prop
  | failed {report report'} (same : report.Renamed names report') :
    Renamed (.failed report) (.failed report')
  | outOfFuel : Renamed .outOfFuel .outOfFuel

namespace Report.Renamed

variable {names} {report report' : Report}

theorem ofFault {fault fault' : Fault} (same : fault.Renamed names fault') :
    (Report.ofFault fault).Renamed names (.ofFault fault') :=
  ⟨same, .nil, .none⟩

theorem add (same : report.Renamed names report') {note note' : Note}
    (alike : note.Alike note') : (report.add note).Renamed names (report'.add note') :=
  ⟨same.fault, .cons alike same.notes, same.cause⟩

theorem addText (same : report.Renamed names report') (text text' : String) :
    (report.addText text).Renamed names (report'.addText text') :=
  same.add .text

/-- Both name the same origin, if any. -/
theorem origin?_eq (same : report.Renamed names report') : report'.origin? = report.origin? := by
  obtain ⟨fault, notes, cause⟩ := report
  obtain ⟨fault', notes', cause'⟩ := report'
  have alike : List.Forall₂ Note.Alike notes notes' := same.notes
  clear same
  induction alike with
  | nil => rfl
  | cons alike _ inductionHypothesis =>
    cases alike with
    | text => exact inductionHypothesis
    | origin origin => rfl

end Report.Renamed

/-! ### Nodes and expressions -/

/-- Two nodes plan objects alike that stand for each other. -/
structure Node.Renamed (node node' : Node) : Prop where
  object : node.object.Renamed names node'.object
  target : node'.target = node.target
  accessors : node'.accessors = node.accessors
  expansions : node'.expansions = node.expansions
  state : node'.state = node.state
  cached : node'.cached = node.cached

/-- Two statements are the same but for the identities in their nodes. -/
inductive Deferred.Renamed : Deferred → Deferred → Prop
  | text (content : String) : Renamed (.text content) (.text content)
  | failing (details : String) : Renamed (.failing details) (.failing details)
  | node {node node'} (same : node.Renamed names node') : Renamed (.node node) (.node node')
  | snapshot (number : Nat) : Renamed (.snapshot number) (.snapshot number)

section Expressions

variable {δ δ' : Type} (statements : δ → δ' → Prop)

mutual

/-- Two expressions are the same but for their statements, which are related one by one. -/
inductive Expr.Lifted : Expr δ → Expr δ' → Prop
  | literal (value : Scalar) : Lifted (.literal value) (.literal value)
  | reference (name : String) : Lifted (.reference name) (.reference name)
  | raw (text : String) : Lifted (.raw text) (.raw text)
  | anonymous {overrides overrides'} (extended : DeclaredType)
    (all : OverridesLifted overrides overrides') :
    Lifted (.anonymous extended overrides) (.anonymous extended overrides')
  | list {items items'} (all : ItemsLifted items items') : Lifted (.list items) (.list items')
  | ret {inner inner'} (same : Lifted inner inner') : Lifted (.ret inner) (.ret inner')
  | deferred {statement statement'} (same : statements statement statement') :
    Lifted (.deferred statement) (.deferred statement')

/-- Two lists of methods are the same but for their statements. -/
inductive Expr.OverridesLifted : List (Override δ) → List (Override δ') → Prop
  | nil : OverridesLifted [] []
  | empty {rest rest'} (name : String) (returns : DeclaredType)
    (tail : OverridesLifted rest rest') :
    OverridesLifted (.empty name returns :: rest) (.empty name returns :: rest')
  | returning {value value' rest rest'} (name : String) (returns : DeclaredType)
    (head : Lifted value value') (tail : OverridesLifted rest rest') :
    OverridesLifted (.returning name returns value :: rest)
      (.returning name returns value' :: rest')

/-- Two lists of items are the same but for their statements. -/
inductive Expr.ItemsLifted : List (Expr δ) → List (Expr δ') → Prop
  | nil : ItemsLifted [] []
  | cons {item item' rest rest'} (head : Lifted item item') (tail : ItemsLifted rest rest') :
    ItemsLifted (item :: rest) (item' :: rest')

end

end Expressions

/-- Two expressions are the same but for the identities in their nodes. -/
abbrev Code.Renamed : Code → Code → Prop :=
  Expr.Lifted (Deferred.Renamed names)

/-! ### Sessions -/

/-- The same expressions are known under related identities. -/
structure Memo.Renamed (memo memo' : Memo) : Prop where
  find? : ∀ {identity identity'}, names identity identity' →
    Option.Rel (Code.Renamed names) (memo.find? identity) (memo'.find? identity')

/-- The same expressions stand in for related identities. -/
structure Canned.Renamed (canned canned' : Canned) : Prop where
  find? : ∀ {identity identity'}, names identity identity' →
    Option.Rel (Code.Renamed names) (canned.find? identity) (canned'.find? identity')

/-- The same origins are kept for related identities. -/
structure Origins.Renamed (origins origins' : Origins) : Prop where
  find? : ∀ {identity identity'}, names identity identity' →
    origins'.find? identity' = origins.find? identity

/-- Related objects are in progress, in the same order. -/
def Chain.Renamed (chain chain' : Chain) : Prop :=
  List.Forall₂ (Member.Renamed names) chain.members chain'.members

/-- Two sessions know the same; what they keep alive is never read. -/
structure Session.Renamed (session session' : Session) : Prop where
  chain : session.chain.Renamed names session'.chain
  memo : session.memo.Renamed names session'.memo

namespace Memo.Renamed

variable {names} {memo memo' : Memo}

theorem empty : Memo.empty.Renamed names .empty :=
  ⟨fun _ => .none⟩

theorem record (same : memo.Renamed names memo') {identity identity' : Identity}
    (named : names identity identity') {code code' : Code}
    (written : code.Renamed names code') :
    (memo.record identity code).Renamed names (memo'.record identity' code') := by
  refine ⟨fun {other other'} asked => ?_⟩
  rw [Memo.find?_record, Memo.find?_record]
  have earlier := same.find? asked
  cases before : memo.find? other with
  | some known =>
    rw [before] at earlier
    cases after : memo'.find? other' with
    | some known' =>
      rw [after] at earlier
      exact earlier
    | none =>
      rw [after] at earlier
      cases earlier
  | none =>
    rw [before] at earlier
    cases after : memo'.find? other' with
    | some known' =>
      rw [after] at earlier
      cases earlier
    | none =>
      by_cases own : other = identity
      · rw [if_pos own, if_pos ((names.eq_iff asked named).mp own)]
        exact .some written
      · rw [if_neg own, if_neg (own ∘ (names.eq_iff asked named).mpr)]
        exact .none

end Memo.Renamed

namespace Origins

theorem lookup_filter_of_ne {identity other : Identity} (apart : other ≠ identity)
    (entries : List (Identity × Method)) :
    (entries.filter (·.1 ≠ identity)).lookup other = entries.lookup other := by
  induction entries with
  | nil => rfl
  | cons entry rest inductionHypothesis =>
    by_cases dropped : entry.1 = identity
    · have missed : other ≠ entry.1 := dropped ▸ apart
      rw [List.filter_cons_of_neg (by simpa using dropped), inductionHypothesis, List.lookup_cons,
        beq_eq_false_iff_ne.mpr missed]
    · rw [List.filter_cons_of_pos (by simpa using dropped), List.lookup_cons, List.lookup_cons,
        inductionHypothesis]

/-- The latest method for an identity is its origin. -/
theorem find?_record (origins : Origins) (identity other : Identity) (method : Method) :
    (origins.record identity method).find? other =
      if other = identity then some (.ofMethod method) else origins.find? other := by
  by_cases own : other = identity
  · rw [if_pos own, find?, record, List.lookup_cons, beq_iff_eq.mpr own]
    rfl
  · rw [if_neg own, find?, find?, record, List.lookup_cons, beq_eq_false_iff_ne.mpr own,
      lookup_filter_of_ne own]

end Origins

namespace Origins.Renamed

variable {names} {origins origins' : Origins}

theorem empty : Origins.empty.Renamed names .empty :=
  ⟨fun _ => rfl⟩

theorem record (same : origins.Renamed names origins') {identity identity' : Identity}
    (named : names identity identity') (method : Method) :
    (origins.record identity method).Renamed names (origins'.record identity' method) := by
  refine ⟨fun {other other'} asked => ?_⟩
  rw [Origins.find?_record, Origins.find?_record, same.find? asked]
  by_cases own : other = identity
  · rw [if_pos own, if_pos ((names.eq_iff asked named).mp own)]
  · rw [if_neg own, if_neg (own ∘ (names.eq_iff asked named).mpr)]

mutual

theorem recordValue (method : Method) : (value : Value) → {value' : Value} →
    value.Renamed names value' → {origins origins' : Origins} → origins.Renamed names origins' →
    (origins.recordValue method value).Renamed names (origins'.recordValue method value')
  | .scalar _, _, .scalar _, _, _, same => same
  | .object _, _, .object live, _, _, same => same.record live.identity method
  | .list _ items, _, .list named all, _, _, same =>
    recordAll method items all (same.record named method)

theorem recordAll (method : Method) : (items : List Value) → {items' : List Value} →
    Value.AllRenamed names items items' → {origins origins' : Origins} →
    origins.Renamed names origins' →
    (Origins.recordAll method origins items).Renamed names
      (Origins.recordAll method origins' items')
  | [], _, .nil, _, _, same => same
  | first :: rest, _, .cons head tail, _, _, same =>
    recordAll method rest tail (recordValue method first head same)

end

end Origins.Renamed

namespace Chain.Renamed

variable {names} {chain chain' : Chain} {identity identity' : Identity}

theorem empty : Chain.empty.Renamed names .empty :=
  List.Forall₂.nil

theorem any_eq {members members' : List Member}
    (same : List.Forall₂ (Member.Renamed names) members members')
    (named : names identity identity') :
    members'.any (·.identity == identity') = members.any (·.identity == identity) := by
  induction same with
  | nil => rfl
  | cons head _ inductionHypothesis =>
    rw [List.any_cons, List.any_cons, names.beq_eq head named, inductionHypothesis]

theorem contains_eq (same : chain.Renamed names chain') (named : names identity identity') :
    chain'.contains identity' = chain.contains identity :=
  any_eq same named

theorem cycleReport (same : chain.Renamed names chain') :
    chain.cycleReport.Renamed names chain'.cycleReport :=
  (Report.Renamed.ofFault (.cycle same)).addText _ _

/-- An object is put on both chains, or closes a cycle in both. -/
theorem enter (same : chain.Renamed names chain') (named : names identity identity')
    (description description' : String) :
    Except.Lifted (Report.Renamed names) (Chain.Renamed names) (chain.enter identity description)
      (chain'.enter identity' description') := by
  rw [Chain.enter, Chain.enter, same.contains_eq named]
  split
  · exact .error same.cycleReport
  · exact .ok (List.rel_append same (.cons named .nil))

theorem removeLast {members members' : List Member}
    (same : List.Forall₂ (Member.Renamed names) members members')
    (named : names identity identity') :
    List.Forall₂ (Member.Renamed names) (Chain.removeLast identity members)
      (Chain.removeLast identity' members') := by
  induction same with
  | nil => exact .nil
  | cons head tail inductionHypothesis =>
    rw [Chain.removeLast, Chain.removeLast, any_eq tail named]
    simp only [names.eq_iff head named]
    split
    · exact tail
    · exact .cons head inductionHypothesis

theorem leave (same : chain.Renamed names chain') (named : names identity identity') :
    (chain.leave identity).Renamed names (chain'.leave identity') :=
  removeLast same named

end Chain.Renamed

namespace Session.Renamed

variable {names} {session session' : Session} {identity identity' : Identity}

theorem empty : Session.empty.Renamed names .empty :=
  ⟨.empty, .empty⟩

/-- Sessions that open with the same canned representations know the same. -/
theorem opening {canned canned' : Canned} (same : canned.Renamed names canned') :
    (Session.opening canned).Renamed names (.opening canned') where
  chain := by
    rw [opening_chain, opening_chain]
    exact .empty
  memo := by
    refine ⟨fun asked => ?_⟩
    rw [opening_find?, opening_find?]
    exact same.find? asked

theorem retain (same : session.Renamed names session') (value value' : Value) :
    (session.retain value).Renamed names (session'.retain value') := by
  unfold Session.retain
  split <;> split <;> exact ⟨same.chain, same.memo⟩

theorem record (same : session.Renamed names session') (named : names identity identity')
    {code code' : Code} (written : code.Renamed names code') :
    (session.record identity code).Renamed names (session'.record identity' code') :=
  ⟨same.chain, same.memo.record named written⟩

theorem enter (same : session.Renamed names session') (named : names identity identity')
    (description description' : String) :
    Except.Lifted (Report.Renamed names) (Session.Renamed names)
      (session.enter identity description) (session'.enter identity' description') :=
  (same.chain.enter named description description').bind fun _ _ chain =>
    .ok ⟨chain, same.memo⟩

theorem leave (same : session.Renamed names session') (named : names identity identity') :
    (session.leave identity).Renamed names (session'.leave identity') :=
  ⟨same.chain.leave named, same.memo⟩

end Session.Renamed

/-! ### Worlds -/

/-- Two invocations are the same, and so is what came of them. -/
structure Invocation.Renamed (invocation invocation' : Invocation) : Prop where
  object : names invocation.object invocation'.object
  accessor : invocation'.accessor = invocation.accessor
  outcome : Except.Lifted names.faults (Value.Renamed names) invocation.outcome
    invocation'.outcome

/-- Two renderings are of objects that stand for each other, as the same target. -/
structure Rendering.Renamed (rendering rendering' : Rendering) : Prop where
  object : names rendering.object rendering'.object
  target : rendering'.target = rendering.target

/-- Two snapshots are the same up to a renaming. -/
structure Snapshot.Renamed (snapshot snapshot' : Snapshot) : Prop where
  root : snapshot.root.Renamed names snapshot'.root
  canned : snapshot.canned.Renamed names snapshot'.canned
  origins : snapshot.origins.Renamed names snapshot'.origins

/-- The same has happened in two worlds. -/
structure World.Renamed (world world' : World) : Prop where
  history : List.Forall₂ (Invocation.Renamed names) world.history world'.history
  renderings : List.Forall₂ (Rendering.Renamed names) world.renderings world'.renderings
  allocated : world'.allocated = world.allocated
  snapshots : List.Forall₂ (Snapshot.Renamed names) world.snapshots world'.snapshots

/-- Two states are the same up to a renaming. -/
structure Run.Renamed (run run' : Run) : Prop where
  world : run.world.Renamed names run'.world
  session : run.session.Renamed names run'.session

/-- The objects of two heaps stand for each other and answer the same, and so do the lists that come
into being. -/
structure Heap.Renamed (heap heap' : Heap) : Prop where
  objects : List.Forall₂ (LiveObject.Renamed names) heap.objects heap'.objects
  answer : ∀ {history history' object object'} (accessor : String),
    List.Forall₂ (Invocation.Renamed names) history history' → names object object' →
    Except.Lifted names.faults (Template.Renamed names)
      (heap.answer history object accessor) (heap'.answer history' object' accessor)
  supply : ∀ serial, names (heap.supply serial) (heap'.supply serial)

end FrozenGraph
