/-
This file shows that reference cycles are found when they are there, and only then. The objects in
progress are the ones that handed on each other, so the members of a reported cycle are one; and
where a rendering succeeds, every object that it expanded has an expansion of finite depth, which no
object on a cycle has.
-/

import FrozenGraph.Proofs.Shared
import Mathlib.Data.List.Chain

namespace FrozenGraph

/-! ### Objects that hand on each other -/

namespace Value

mutual

/-- The objects that a value names, directly or through lists; where a canned representation stands
in, nothing is named. -/
def named (canned : Canned) : Value → List Identity
  | .scalar _ => []
  | .list identity items =>
    match canned.find? identity with
    | some _ => []
    | none => namedAll canned items
  | .object live =>
    match canned.find? live.identity with
    | some _ => []
    | none => [live.identity]

/-- The objects that some values name. -/
def namedAll (canned : Canned) : List Value → List Identity
  | [] => []
  | first :: rest => named canned first ++ namedAll canned rest

end

end Value

theorem Value.mem_namedAll {canned : Canned} {items : List Value} {taken : Identity} :
    taken ∈ namedAll canned items ↔ ∃ item ∈ items, taken ∈ item.named canned := by
  induction items with
  | nil => simp [namedAll]
  | cons first rest inductionHypothesis => simp [namedAll, inductionHypothesis]

theorem Value.mem_named_object {canned : Canned} {live : LiveObject}
    (free : canned.find? live.identity = none) :
    live.identity ∈ (Value.object live).named canned := by
  rw [named, free]
  exact List.mem_singleton_self _

/-- One object hands on another: an accessor of the first one was invoked and answered a value that
names the other one. -/
def HandsOn (canned : Canned) (invocations : List Invocation) (giver taken : Identity) : Prop :=
  ∃ invocation ∈ invocations, invocation.object = giver ∧
    ∃ value, invocation.outcome = .ok value ∧ taken ∈ value.named canned

theorem HandsOn.exists_answer {canned : Canned} {invocations : List Invocation}
    {giver taken : Identity} (hands : HandsOn canned invocations giver taken) :
    ∃ value ∈ Invocation.answersOf giver invocations, taken ∈ value.named canned := by
  obtain ⟨invocation, member, rfl, value, answered, named⟩ := hands
  have own : invocation ∈ Invocation.on invocation.object invocations :=
    List.mem_filter.mpr ⟨member, decide_eq_true rfl⟩
  exact ⟨value, Invocation.mem_answers.mpr ⟨invocation, own, answered⟩, named⟩

/-! ### Objects with an expansion are on no cycle -/

namespace Story

variable {canned : Canned} {object : Identity → Option Code}

mutual

/-- Whatever is named in a value that is written out in full is written out itself. -/
theorem expands_of_unfold : (value : Value) → {tree : Code} →
    unfold canned object value = some tree →
    ∀ taken ∈ value.named canned, ∃ inner, object taken = some inner
  | .scalar _, _, _, _, member => nomatch member
  | .list identity items, tree, found, taken, member => by
    rw [unfold] at found
    rw [Value.named] at member
    cases stands : canned.find? identity with
    | some code =>
      rw [stands] at member
      cases member
    | none =>
      rw [stands] at found member
      obtain ⟨codes, all, _⟩ := Option.map_eq_some_iff.mp found
      exact expands_of_unfoldAll items all taken member
  | .object live, tree, found, taken, member => by
    rw [unfold] at found
    rw [Value.named] at member
    cases stands : canned.find? live.identity with
    | some code =>
      rw [stands] at member
      cases member
    | none =>
      rw [stands] at found member
      rw [List.mem_singleton.mp member]
      exact ⟨tree, found⟩

theorem expands_of_unfoldAll : (items : List Value) → {trees : List Code} →
    unfoldAll canned object items = some trees →
    ∀ taken ∈ Value.namedAll canned items, ∃ inner, object taken = some inner
  | [], _, _, _, member => nomatch member
  | first :: rest, trees, found, taken, member => by
    obtain ⟨code, others, head, tail, _⟩ := unfoldAll_cons.mp found
    rcases List.mem_append.mp member with early | late
    · exact expands_of_unfold first head taken early
    · exact expands_of_unfoldAll rest tail taken late

end

/-- Every answer is written somewhere in the methods. -/
theorem written_of_methods {write : Value → Option Code} (accessors : List Method)
    {answers : List Value} {overrides : List (Override Deferred)}
    (found : methods write accessors answers = some overrides) :
    ∀ answer ∈ answers, ∃ tree, write answer = some tree := by
  induction accessors generalizing answers overrides with
  | nil =>
    cases answers with
    | nil => exact fun _ member => nomatch member
    | cons answer later => cases found
  | cons method rest inductionHypothesis =>
    by_cases void : method.returns = .void
    · rw [methods_of_void rest answers void] at found
      obtain ⟨others, later, _⟩ := Option.map_eq_some_iff.mp found
      exact inductionHypothesis later
    · cases answers with
      | nil => exact fun _ member => nomatch member
      | cons first later =>
        obtain ⟨code, others, head, tail, _⟩ := (methods_cons void).mp found
        intro answer member
        rcases List.mem_cons.mp member with rfl | inner
        · exact ⟨code, head⟩
        · exact inductionHypothesis tail answer inner

/-- An object with an expansion of some depth is on no cycle: what it hands on has an expansion of a
smaller depth. -/
theorem not_transGen_of_expansion {canned : Canned} {renderings : List Rendering}
    {invocations : List Invocation} (depth : Nat) {object : Identity} {tree : Code}
    (found : (Story.of canned renderings invocations).expansion depth object = some tree) :
    ¬ Relation.TransGen (HandsOn canned invocations) object object := by
  induction depth generalizing object tree with
  | zero => cases found
  | succ depth inductionHypothesis =>
    intro cycle
    obtain ⟨taken, hands, back⟩ := Relation.TransGen.head'_iff.mp cycle
    obtain ⟨answer, answered, named⟩ := hands.exists_answer
    obtain ⟨target, answers, accessors, overrides, told, _, written, _⟩ :=
      expansion_succ.mp found
    obtain ⟨rendering, _, same⟩ := Option.map_eq_some_iff.mp told
    obtain ⟨_, rfl⟩ := Prod.mk.inj same
    obtain ⟨code, unfolded⟩ := written_of_methods accessors written answer answered
    obtain ⟨inner, deeper⟩ := expands_of_unfold answer unfolded taken named
    exact inductionHypothesis deeper (.tail' back hands)

end Story

/-! ### Reported cycles -/

/-- The identities of the objects in progress, the outermost first. -/
def Chain.identities (chain : Chain) : List Identity :=
  chain.members.map (·.identity)

/-- The members of the cycle that a walk stopped at, if it stopped at one. -/
def Stop.cycle? : Stop → Option (List Identity)
  | .failed report => report.fault.cycleMembers?
  | .outOfFuel => none

theorem Chain.contains_iff {chain : Chain} {object : Identity} :
    chain.contains object ↔ object ∈ chain.identities := by
  simp [contains, identities]

theorem Stop.cycle?_noteOn (node : Node) (stop : Stop) :
    (stop.annotate node.noteOn).cycle? = stop.cycle? := by
  cases stop <;> rfl

theorem Stop.cycle?_noteAccessor (ledger : Ledger) (method : Method) (run : Run) (stop : Stop) :
    (stop.annotate (Node.noteAccessor ledger method run)).cycle? = stop.cycle? := by
  cases stop with
  | outOfFuel => rfl
  | failed report =>
    have kept : (Node.blame (ledger.origins run) method report).fault = report.fault := by
      unfold Node.blame
      split <;> rfl
    show (Node.blame (ledger.origins run) method report).fault.cycleMembers? = _
    rw [kept]
    rfl

/-- A node that cannot be built is an invalid argument, with no more to be said than in words. -/
theorem Node.invalid_of_build {object : LiveObject} {target : Target} {expansions : Expansions}
    {report : Report} (refused : Node.build object target expansions = .error report) :
    ∃ subject details, ∃ words : List String,
      report = ⟨.invalid subject details, words.map .text, none⟩ := by
  unfold Node.build Node.checkExtendable at refused
  cases obstacle : target.obstacle? with
  | some found =>
    rw [obstacle] at refused
    cases refused
    cases found <;> exact ⟨_, _, [], rfl⟩
  | none =>
    simp only [obstacle, bind, Except.bind] at refused
    split at refused
    · unfold Target.accessors at refused
      cases parameters : target.overridable.find? (!·.takesNothing) with
      | some method =>
        rw [parameters] at refused
        cases refused
        exact ⟨_, _, [_], rfl⟩
      | none =>
        rw [parameters] at refused
        cases refused
    · cases refused
      exact ⟨_, _, [_], rfl⟩

/-- No report on a node that cannot be built is about a cycle. -/
theorem Node.cycle?_of_build {object : LiveObject} {target : Target} {expansions : Expansions}
    {report : Report} (refused : Node.build object target expansions = .error report) :
    (Stop.failed report).cycle? = none := by
  obtain ⟨_, _, _, rfl⟩ := Node.invalid_of_build refused
  rfl

/-- Objects that follow on each other: distinct ones, the first one being the root, each of which
hands on the next one. -/
structure Trail (handsOn : Identity → Identity → Prop) (root : Identity)
    (members : List Identity) : Prop where
  nodup : members.Nodup
  linked : members.IsChain handsOn
  first : members.head? = some root

/-- A trail whose last object hands on one of its objects. -/
structure ClosedTrail (handsOn : Identity → Identity → Prop) (root : Identity)
    (members : List Identity) : Prop extends Trail handsOn root members where
  closes : ∃ last ∈ members.getLast?, ∃ member ∈ members, handsOn last member

/-- An object that the last one hands on goes on with a trail. -/
theorem Trail.concat {handsOn : Identity → Identity → Prop} {root giver taken : Identity}
    {members : List Identity} (trail : Trail handsOn root members)
    (last : members.getLast? = some giver) (hands : handsOn giver taken)
    (fresh : taken ∉ members) : Trail handsOn root (members ++ [taken]) where
  nodup := by
    refine List.nodup_append.mpr ⟨trail.nodup, List.nodup_singleton taken, ?_⟩
    rintro member early other late rfl
    exact fresh (List.mem_singleton.mp late ▸ early)
  linked := by
    refine List.isChain_append.mpr ⟨trail.linked, List.isChain_singleton taken, ?_⟩
    intro own ends next begins
    rw [last] at ends
    rw [← Option.some.inj ends, ← Option.some.inj begins]
    exact hands
  first := by
    rw [List.head?_append, trail.first]
    rfl

/-- A session whose objects in progress have handed on each other, down to a giver. -/
structure Descent (canned : Canned) (invocations : List Invocation) (holds : Value → Prop)
    (root giver : Identity) (session : Session) : Prop where
  trail : Trail (HandsOn canned invocations) root session.chain.identities
  last : session.chain.identities.getLast? = some giver
  objects : ∀ object ∈ session.chain.identities, ∃ live, holds (.object live) ∧
    live.identity = object
  canned : ∀ {identity code}, canned.find? identity = some code →
    session.memo.find? identity = some code

namespace Descent

variable {canned : Canned} {invocations : List Invocation} {holds : Value → Prop}
  {root giver : Identity} {before after : Session}

theorem of_session (descent : Descent canned invocations holds root giver before)
    (chain : after.chain = before.chain)
    (kept : ∀ {identity code}, before.memo.find? identity = some code →
      after.memo.find? identity = some code) :
    Descent canned invocations holds root giver after where
  trail := chain ▸ descent.trail
  last := chain ▸ descent.last
  objects := chain ▸ descent.objects
  canned stands := kept (descent.canned stands)

theorem retain {run : Run} (descent : Descent canned invocations holds root giver run.session)
    (value : Value) : Descent canned invocations holds root giver (run.retain value).session :=
  descent.of_session (Run.retain_chain _ _) fun known => by rwa [Run.retain_memo]

theorem walked {heap : Heap} {part : Part} {run done : Run} {events : List Event}
    (descent : Descent canned invocations holds root giver run.session)
    (walked : Walked heap part run events done) :
    Descent canned invocations holds root giver done.session :=
  descent.of_session walked.chain_eq walked.find?_of_some

/-- What is not known is not canned. -/
theorem free (descent : Descent canned invocations holds root giver before) {identity : Identity}
    (unknown : before.memo.find? identity = none) : canned.find? identity = none :=
  Canned.find?_eq_none (fun _ stands => descent.canned stands) unknown

/-- An unknown object that the giver hands on is the next giver. -/
theorem enter {run : Run} {object : LiveObject}
    (descent : Descent canned invocations holds root giver run.session) (target : Target)
    (hands : HandsOn canned invocations giver object.identity)
    (free : run.session.chain.contains object.identity = false) (held : holds (.object object)) :
    Descent canned invocations holds root object.identity (run.enter object target).session := by
  have entered : (run.enter object target).session.chain.identities =
      run.session.chain.identities ++ [object.identity] := by
    simp [Run.enter, Chain.identities]
  have fresh : object.identity ∉ run.session.chain.identities := by
    rw [← Chain.contains_iff, free]
    exact Bool.false_ne_true
  refine ⟨?_, ?_, fun member progress => ?_, fun stands => descent.canned stands⟩
  · rw [entered]
    exact descent.trail.concat descent.last hands fresh
  · rw [entered]
    exact List.getLast?_concat
  · rw [entered, List.mem_append] at progress
    rcases progress with early | late
    · exact descent.objects member early
    · exact ⟨object, held, (List.mem_singleton.mp late).symm⟩

/-- An object in progress that the giver hands on closes a cycle. -/
theorem closed (descent : Descent canned invocations holds root giver before) {object : Identity}
    (hands : HandsOn canned invocations giver object) (busy : before.chain.contains object) :
    ClosedTrail (HandsOn canned invocations) root before.chain.identities where
  toTrail := descent.trail
  closes := ⟨giver, descent.last, object, Chain.contains_iff.mp busy, hands⟩

end Descent

/-- The values that a task writes. -/
def Task.values : Task → List Value
  | .value _ _ _ content | .answer _ _ _ content => [content]
  | .items _ _ contents => contents
  | .object _ _ live _ => [.object live]
  | .methods .. => []

/-- A walk that stops at a cycle has gone around it: the members have handed on each other. -/
theorem Stopped.closed {heap : Heap} {task : Task} {before after : Run} {events : List Event}
    {stop : Stop} (stopped : Stopped heap task before events stop after) {canned : Canned}
    {invocations : List Invocation} {holds : Value → Prop} (whole : Universe holds)
    {root giver : Identity}
    (descent : Descent canned invocations holds root giver before.session)
    (hosted : ∀ host, task.host? = some host → host = giver)
    (handed : ∀ value ∈ task.values, ∀ taken ∈ value.named canned,
      HandsOn canned invocations giver taken)
    (held : ∀ value ∈ task.values, holds value)
    (answered : ∀ value ∈ Invocation.answers (Event.invocations events), holds value)
    (noted : ∀ invocation ∈ Event.invocations events, invocation ∈ invocations)
    {members : List Identity} (cycle : stop.cycle? = some members) :
    ClosedTrail (HandsOn canned invocations) root members := by
  induction stopped generalizing giver with
  | list unknown _ inductionHypothesis =>
    refine inductionHypothesis descent nofun (fun item member taken named => ?_)
      (whole.items (held _ List.mem_cons_self)) answered noted cycle
    refine handed _ List.mem_cons_self taken ?_
    rw [Value.named, descent.free unknown]
    exact Value.mem_namedAll.mpr ⟨item, member, named⟩
  | untargeted => cases cycle
  | literalObject _ _ _ inductionHypothesis =>
    exact inductionHypothesis descent nofun handed held answered noted cycle
  | item _ inductionHypothesis =>
    exact inductionHypothesis (descent.retain _) nofun
      (fun value member => handed value
        (List.mem_cons.mpr (.inl (List.mem_singleton.mp member))))
      (fun value member => held value (List.mem_cons.mpr (.inl (List.mem_singleton.mp member))))
      answered noted cycle
  | laterItem headWalked _ inductionHypothesis =>
    rw [Event.invocations_append] at answered noted
    rw [Invocation.answers_append] at answered
    exact inductionHypothesis ((descent.retain _).walked headWalked) nofun
      (fun value member => handed value (List.mem_cons_of_mem _ member))
      (fun value member => held value (List.mem_cons_of_mem _ member))
      (fun value member => answered value (List.mem_append_right _ member))
      (fun invocation member => noted invocation (List.mem_append_right _ member)) cycle
  | unbuilt _ refused =>
    rw [Node.cycle?_of_build refused] at cycle
    cases cycle
  | reentered unknown built busy =>
    obtain rfl := Option.some.inj cycle
    exact descent.closed (handed _ List.mem_cons_self _
      (Value.mem_named_object (descent.free unknown))) busy
  | exhausted => cases cycle
  | unrendered unknown built free _ inductionHypothesis =>
    obtain ⟨rfl, _, _, _, _, _, _⟩ := Node.built_of_build built
    rw [Stop.cycle?_noteOn] at cycle
    have hands := handed _ List.mem_cons_self _ (Value.mem_named_object (descent.free unknown))
    exact inductionHypothesis (descent.enter _ hands free (held _ List.mem_cons_self))
      (fun host same => (Option.some.inj same).symm) nofun nofun answered noted cycle
  | @unrouted _ _ _ value _ _ refused =>
    cases Route.chosen_of_eq refused with
    | unregistered => cases cycle
    | busy unknown busy =>
      obtain rfl := Option.some.inj cycle
      cases value with
      | scalar scalar => cases busy
      | list identity items =>
        -- What is in progress is an object, and no list has its identity.
        obtain ⟨live, object, same⟩ := descent.objects identity (Chain.contains_iff.mp busy)
        cases whole.coherent (held _ List.mem_cons_self) object (congrArg some same)
      | object live =>
        exact descent.closed (handed _ List.mem_cons_self _
          (Value.mem_named_object (descent.free (Route.find?_eq_none unknown rfl)))) busy
  | literal _ _ inductionHypothesis =>
    exact inductionHypothesis descent nofun handed held answered noted cycle
  | expanded _ _ inductionHypothesis =>
    exact inductionHypothesis descent nofun handed held answered noted cycle
  | shapeless => cases cycle
  | skipped _ _ inductionHypothesis =>
    exact inductionHypothesis descent hosted nofun nofun answered noted cycle
  | unanswered =>
    have plain := cycle.symm.trans (Stop.cycle?_noteAccessor _ _ _ (.failed _))
    cases plain
  | @unexpressed _ _ _ _ method _ value _ _ _ _ _ _ _ _ recorded _ inductionHypothesis =>
    rw [Stop.cycle?_noteAccessor] at cycle
    refine inductionHypothesis (descent.of_session (Ledger.chain_of_record recorded)
      fun known => by rwa [Ledger.memo_of_record recorded]) nofun ?_ ?_
      (fun answer member => answered answer (List.mem_cons_of_mem _ member))
      (fun invocation member => noted invocation (List.mem_cons_of_mem _ member)) cycle
    · intro answer member taken named
      rw [List.mem_singleton.mp member] at named
      exact ⟨_, noted _ List.mem_cons_self, hosted _ rfl, value, rfl, named⟩
    · intro answer member
      rw [List.mem_singleton.mp member]
      exact answered value List.mem_cons_self
  | laterMethod _ _ recorded expressedWalked _ inductionHypothesis =>
    rw [Event.invocations_cons_call, Event.invocations_append] at answered noted
    rw [Invocation.answers_cons_ok, Invocation.answers_append] at answered
    exact inductionHypothesis ((descent.of_session (Ledger.chain_of_record recorded)
      fun known => by rwa [Ledger.memo_of_record recorded]).walked expressedWalked) hosted nofun
      nofun
      (fun answer member => answered answer
        (List.mem_cons_of_mem _ (List.mem_append_right _ member)))
      (fun invocation member => noted invocation
        (List.mem_cons_of_mem _ (List.mem_append_right _ member))) cycle

/-! ### Every rendering -/

/-- The root alone is a trail. -/
theorem Descent.begun {world : World} {number : Nat} {snapshot : Snapshot}
    {invocations : List Invocation} {holds : Value → Prop}
    (held : holds (.object snapshot.root.object)) :
    Descent snapshot.canned invocations holds snapshot.root.object.identity
      snapshot.root.object.identity (world.begun number snapshot).session where
  trail := ⟨List.nodup_singleton _, List.isChain_singleton _, rfl⟩
  last := rfl
  objects _ member := ⟨_, held, (List.mem_singleton.mp member).symm⟩
  canned {identity _} stands := (Session.opening_find? snapshot.canned identity).trans stands

namespace Heap

/-- Cycles are found when they are there, and only then. A rendering that reports one names distinct
objects from the root on, each of which handed on the next one, and the last one handed on one of
them. Where a rendering succeeds, no object hands on itself, at whatever distance. -/
theorem render_reports_cycles {value : Value} {target : Target} {canned : Canned}
    {expanded : List Target} {snapshot : Snapshot} {world : World} {number : Nat} (heap : Heap)
    (registry : Registry) (planned : Snapshot.plan value target canned expanded = .ok snapshot)
    (plain : canned.IsPlain) (placed : world.snapshots[number]? = some snapshot)
    (coherent : Value.Coherent (value ::
      Invocation.answers ((heap.render world number registry).world.since world))) :
    (∀ report members, (heap.render world number registry).result = .error (.failed report) →
      report.fault.cycleMembers? = some members →
      ClosedTrail (HandsOn canned ((heap.render world number registry).world.since world))
        snapshot.root.object.identity members) ∧
    ((∃ text, (heap.render world number registry).result = .ok text) →
      ∀ object, ¬ Relation.TransGen
        (HandsOn canned ((heap.render world number registry).world.since world)) object
        object) := by
  obtain ⟨_, rfl, built, rfl⟩ := Snapshot.built_of_plan planned
  obtain rfl := (Node.built_of_build built).object_eq
  obtain ⟨events, root, invocations, renderings, once⟩ :=
    render_once heap registry planned plain placed
  constructor
  · intro report members failed cycle
    rw [failed] at root
    rw [invocations] at coherent ⊢
    cases root with
    | error noted stopped =>
      refine stopped.closed (Universe.of_coherent coherent)
        (Descent.begun (Value.mem_partsOfAll.mpr ⟨_, List.mem_cons_self, Value.mem_parts_self _⟩))
        (fun host same => (Option.some.inj same).symm) nofun nofun
        (fun answer member => Value.mem_partsOfAll.mpr
          ⟨answer, List.mem_cons_of_mem _ member, Value.mem_parts_self answer⟩)
        (fun invocation member => member) ?_
      rw [← Stop.cycle?_noteOn snapshot.root, ← noted]
      exact cycle
  · rintro ⟨text, rendered⟩ object cycle
    obtain ⟨_, expands⟩ := expands_of_render heap registry planned plain placed rendered
      (coherent.of_subset fun answer member => List.mem_cons_of_mem _ member)
    obtain ⟨taken, ⟨invocation, member, rfl, _⟩, _⟩ := Relation.TransGen.head'_iff.mp cycle
    rw [invocations] at member
    have own := (once.owned invocation member).resolve_right nofun
    obtain ⟨rendering, begun, same⟩ := List.mem_map.mp own
    obtain ⟨tree, depth, found⟩ := expands rendering (renderings ▸ begun)
    rw [same] at found
    exact Story.not_transGen_of_expansion depth found cycle

end Heap

/-! ### Two objects in lists of each other -/

theorem Twins.holderCoherent : Value.Coherent (.object holderObject ::
    Invocation.answers ((heap.render world 0 .root).world.since world)) :=
  keeps.coherent_cons .root planned Canned.empty_isPlain rfl (by decide)

namespace Ring

/-- A node has a list of others. -/
def node : Target :=
  let name : TypeName := ⟨"Node"⟩
  (Target.interface "Node").accessor "getOthers" (.listOf (.named name []))

/-- The node to begin with. -/
def first : LiveObject :=
  ⟨.entry "first", ⟨node.name, []⟩, none⟩

/-- The other node. -/
def second : LiveObject :=
  ⟨.entry "second", ⟨node.name, []⟩, none⟩

/-- The first node answers the second one, in a list inside a list, and the second one the first
one. -/
def script : Script :=
  [⟨first, [("getOthers", .value (.fresh [.fresh [.existing (.object second)]]))]⟩,
    ⟨second, [("getOthers", .value (.fresh [.existing (.object first)]))]⟩]

/-- The heap of the two nodes. -/
def heap : Heap :=
  script.heap

/-- The first node is planned, and nodes are expanded. -/
def snapshot : Snapshot where
  root := ⟨first, node, node.methods, .ofList [node], .pending, none⟩
  canned := .empty
  origins := .empty

/-- Nothing has happened but the planning. -/
def world : World :=
  { World.initial with snapshots := [snapshot] }

theorem planned : Snapshot.plan (.object first) node .empty [node] = .ok snapshot := by
  have built : Node.build first node (.ofList [node]) = .ok snapshot.root := by
    decide +kernel
  rw [Snapshot.plan, built]
  rfl

theorem keeps : heap.Keeps script.values :=
  Script.IsCoherent.keeps (by decide +kernel)

theorem coherent : Value.Coherent (.object first ::
    Invocation.answers ((heap.render world 0 .root).world.since world)) :=
  keeps.coherent_cons .root planned Canned.empty_isPlain rfl (by decide)

theorem reported : ∃ report, (heap.render world 0 .root).result = .error (.failed report) ∧
    report.fault.cycleMembers? = some [first.identity, second.identity] := by
  have cycle : (match (heap.render world 0 .root).result with
      | .ok _ => none
      | .error stop => stop.cycle?) = some [first.identity, second.identity] := by
    decide +kernel
  cases ended : (heap.render world 0 .root).result with
  | ok text =>
    rw [ended] at cycle
    cases cycle
  | error stop =>
    rw [ended] at cycle
    cases stop with
    | failed report => exact ⟨report, rfl, cycle⟩
    | outOfFuel => cases cycle

theorem render_reports_cycles_ring :
    (∃ report, (heap.render world 0 .root).result = .error (.failed report) ∧
      report.fault.cycleMembers? = some [first.identity, second.identity]) ∧
    ClosedTrail (HandsOn .empty ((heap.render world 0 .root).world.since world)) first.identity
      [first.identity, second.identity] ∧
    ∀ object, ¬ Relation.TransGen
      (HandsOn .empty ((Twins.heap.render Twins.world 0 .root).world.since Twins.world)) object
      object := by
  obtain ⟨report, failed, cycle⟩ := reported
  refine ⟨⟨report, failed, cycle⟩, ?_, ?_⟩
  · exact (Heap.render_reports_cycles heap .root planned Canned.empty_isPlain rfl coherent).1
      report _ failed
      cycle
  · exact (Heap.render_reports_cycles Twins.heap .root Twins.planned Canned.empty_isPlain rfl
      Twins.holderCoherent).2 Twins.rendered

end Ring

end FrozenGraph
