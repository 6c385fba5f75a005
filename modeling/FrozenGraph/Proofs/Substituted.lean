/-
This file shows that a canned representation takes the place of its list or object everywhere. It is
printed at every position where its identity occurs, at any depth and word for word; the accessors
of what it stands in for are not invoked; it closes no cycle; and nothing takes its place.

The text that a rendering prints is the one of a plain writer, which asks the table at each position
and knows no memo. The rest is an invariant of sessions: the table is known, and what is known is
answered before anything else is asked.
-/

import FrozenGraph.Proofs.Restored

namespace FrozenGraph

/-! ### Expressions without their outer wrappers -/

namespace Expr

variable {δ : Type}

theorem isReturn_value : (expression : Expr δ) → expression.value.isReturn = false
  | .ret inner => isReturn_value inner
  | .literal _ | .reference _ | .raw _ | .anonymous .. | .list _ | .deferred _ => rfl

theorem statements_value : (expression : Expr δ) →
    expression.value.statements = expression.statements
  | .ret inner => by
    rw [value, statements]
    exact statements_value inner
  | .literal _ | .reference _ | .raw _ | .anonymous .. | .list _ | .deferred _ => rfl

/-- Where a value stands, the wrappers around it are not printed. -/
theorem text_value (finished : δ → String) : (expression : Expr δ) →
    expression.value.text finished = expression.text finished
  | .ret inner => text_value finished inner
  | .literal _ | .reference _ | .raw _ | .anonymous .. | .list _ | .deferred _ => rfl

end Expr

theorem Code.written_value (code : Code) : Code.written code.value = code.written :=
  Expr.text_value _ code

/-- The source of a plain expression under its wrappers is its text, in every session. -/
theorem Code.source_value {code : Code} (plain : code.statements = []) (attempt : Attempt)
    (registry : Registry) :
    code.value.source (Deferred.generate attempt registry) = pure (Code.written code.value) := by
  have finished : Code.IsFinished code.value := by
    intro statement member
    rw [Expr.statements_value, plain] at member
    cases member
  rw [Code.source_eq_pure attempt registry finished, if_neg (by simp [Expr.isReturn_value])]

theorem Canned.IsPlain.statements_eq_nil {canned : Canned} (plain : canned.IsPlain)
    {identity : Identity} {code : Code} (stands : canned.find? identity = some code) :
    code.statements = [] := by
  obtain ⟨⟨key, _⟩, found, rfl⟩ := Option.map_eq_some_iff.mp stands
  obtain ⟨earlier, later, entries, _⟩ := List.lookup_eq_some_iff.mp found
  refine plain (identity, key, _) ?_
  rw [entries]
  exact List.mem_append_right _ List.mem_cons_self

/-! ### The plain writer -/

namespace Story

mutual

/-- The text of a value, without layout: that of its canned representation without the wrappers
around it, where there is one. How objects are written is a parameter here. -/
def valueText (canned : Canned) (object : Identity → Option String) : Value → Option String
  | .scalar scalar => some scalar.source
  | .list identity items =>
    match canned.find? identity with
    | some code => some (Code.written code.value)
    | none => (itemsText canned object items).map fun additions =>
      Expr.listOpening ++ additions ++ "\x7d\n\x7d"
  | .object live =>
    match canned.find? live.identity with
    | some code => some (Code.written code.value)
    | none => object live.identity

/-- The statements that add items to a list. -/
def itemsText (canned : Canned) (object : Identity → Option String) :
    List Value → Option String
  | [] => some ""
  | first :: rest => do
    let item ← valueText canned object first
    let others ← itemsText canned object rest
    some ("add(" ++ item ++ ");\n" ++ others)

end

/-- The methods of a class that return the answers of its accessors. -/
def methodsText (write : Value → Option String) : List Method → List Value → Option String
  | [], [] => some ""
  | [], _ :: _ => none
  | method :: rest, answers =>
    if method.returns = .void then
      (methodsText write rest answers).map fun others =>
        Expr.methodOpening method.name method.returns ++ "\x7d\n" ++ others
    else match answers with
      | [] => none
      | answer :: later => do
        let body ← write answer
        let others ← methodsText write rest later
        some (Expr.methodOpening method.name method.returns ++ "return " ++ body ++ ";\n" ++
          "\x7d\n" ++ others)

/-- An object as the text of a class, down to a depth. -/
def objectText (story : Story) : (depth : Nat) → Identity → Option String
  | 0, _ => none
  | depth + 1, identity => do
    let (target, answers) ← story.told identity
    let accessors ← target.accessors.toOption
    let methods ← methodsText (valueText story.canned (story.objectText depth)) accessors answers
    some ("new " ++ target.declaredType.source ++ "() \x7b\n" ++ methods ++ "\x7d")

/-- An object is written as a text. -/
def Prints (story : Story) (identity : Identity) (text : String) : Prop :=
  ∃ depth, story.objectText depth identity = some text

section Writing

variable {canned : Canned} {object : Identity → Option Code}
  {printed : Identity → Option String}

mutual

/-- The plain writer prints the values that are written out in full. -/
theorem valueText_eq (same : ∀ identity, printed identity = (object identity).map Code.written) :
    (value : Value) →
    valueText canned printed value = (unfold canned object value).map Code.written
  | .scalar _ => rfl
  | .list identity items => by
    rw [valueText, unfold]
    cases canned.find? identity with
    | some code => exact congrArg some (Code.written_value code)
    | none =>
      show Option.map _ (itemsText canned printed items) = _
      rw [itemsText_eq same items, Option.map_map, Option.map_map]
      rfl
  | .object live => by
    rw [valueText, unfold]
    cases canned.find? live.identity with
    | some code => exact congrArg some (Code.written_value code)
    | none => exact same live.identity

theorem itemsText_eq (same : ∀ identity, printed identity = (object identity).map Code.written) :
    (items : List Value) → itemsText canned printed items =
      (unfoldAll canned object items).map (Expr.additionsText Deferred.finished)
  | [] => rfl
  | first :: rest => by
    rw [itemsText, unfoldAll, valueText_eq same first, itemsText_eq same rest]
    cases unfold canned object first with
    | none => rfl
    | some code => cases unfoldAll canned object rest <;> rfl

end

theorem methodsText_eq {write : Value → Option Code} {printed : Value → Option String}
    (same : ∀ value, printed value = (write value).map Code.written) (accessors : List Method)
    (answers : List Value) : methodsText printed accessors answers =
      (methods write accessors answers).map (Expr.overridesText Deferred.finished) := by
  induction accessors generalizing answers with
  | nil => cases answers <;> rfl
  | cons method rest inductionHypothesis =>
    by_cases void : method.returns = .void
    · have later : methodsText printed (method :: rest) answers =
          (methodsText printed rest answers).map fun others =>
            Expr.methodOpening method.name method.returns ++ "\x7d\n" ++ others := by
        cases answers <;> rw [methodsText, if_pos void]
      rw [later, methods_of_void rest answers void, inductionHypothesis, Option.map_map,
        Option.map_map]
      rfl
    · cases answers with
      | nil =>
        rw [methods_cons_nil rest void, methodsText, if_neg void]
        rfl
      | cons answer later =>
        rw [methodsText, methods, if_neg void, if_neg void, same answer,
          inductionHypothesis later]
        cases write answer with
        | none => rfl
        | some code => cases methods write rest later <;> rfl

end Writing

/-- The plain writer prints the plain expansion. -/
theorem objectText_eq (story : Story) (depth : Nat) (identity : Identity) :
    story.objectText depth identity = (story.expansion depth identity).map Code.written := by
  induction depth generalizing identity with
  | zero => rfl
  | succ depth inductionHypothesis =>
    rw [objectText, expansion]
    cases story.told identity with
    | none => rfl
    | some told =>
      obtain ⟨target, answers⟩ := told
      show (target.accessors.toOption.bind _) = Option.map _ (target.accessors.toOption.bind _)
      cases target.accessors.toOption with
      | none => rfl
      | some accessors =>
        show (methodsText _ accessors answers).bind _ =
          Option.map _ ((methods _ accessors answers).bind _)
        rw [methodsText_eq (valueText_eq inductionHypothesis) accessors answers]
        cases methods (unfold story.canned (story.expansion depth)) accessors answers <;> rfl

theorem Expands.prints {story : Story} {identity : Identity} {tree : Code}
    (expands : story.Expands identity tree) : story.Prints identity tree.written := by
  obtain ⟨depth, found⟩ := expands
  refine ⟨depth, ?_⟩
  rw [objectText_eq, found]
  rfl

end Story

/-! ### Sessions that know the table -/

/-- A session knows a table of canned representations: whatever is found there is found here. -/
def Session.KnowsTable (session : Session) (canned : Canned) : Prop :=
  ∀ identity code, canned.find? identity = some code →
    session.memo.find? identity = some code

namespace Session.KnowsTable

variable {canned : Canned} {before after : Session}

theorem opening (canned : Canned) : (opening canned).KnowsTable canned :=
  fun identity _ stands => (opening_find? canned identity).trans stands

theorem restored (knows : before.KnowsTable canned) (restored : Restored before after) :
    after.KnowsTable canned :=
  fun identity code stands => restored.known (knows identity code stands)

theorem of_memo_eq (knows : before.KnowsTable canned) (same : after.memo = before.memo) :
    after.KnowsTable canned := by
  intro identity code stands
  rw [same]
  exact knows identity code stands

/-- What is not known is not in the table. -/
theorem free (knows : before.KnowsTable canned) {identity : Identity}
    (unknown : before.memo.find? identity = none) : canned.find? identity = none :=
  Canned.find?_eq_none (knows identity) unknown

end Session.KnowsTable

/-! ### What is known is answered first -/

/-- Recording what is known already changes nothing. -/
theorem Run.recordFor_of_known {run : Run} {value : Value} {identity : Identity} {code other : Code}
    (identified : value.identity? = some identity)
    (known : run.session.memo.find? identity = some code) : run.recordFor value other = run := by
  have knows : run.session.memo.knows identity = true := by
    rw [Memo.knows, known, Option.isSome_some]
  simp only [recordFor, identified, record, Session.record, Memo.record, knows, if_true]

section Known

variable {attempt : Attempt} {run : Run} {value : Value} {identity : Identity} {code : Code}

theorem expandObject_of_known {live : LiveObject}
    (known : run.session.memo.find? live.identity = some code) (registry : Registry)
    (expansions : Expansions) (target : Target) :
    expandObject attempt registry expansions live target run = .ok code run := by
  rw [expandObject, Walk.bind_get, known]
  rfl

theorem Encode.value_of_known (identified : value.identity? = some identity)
    (known : run.session.memo.find? identity = some code) (registry : Registry)
    (expansions : Expansions) (declared : Option DeclaredType)
    (expand : LiveObject → Target → Walk Code) :
    Encode.value expand registry expansions declared value run = .ok code run := by
  cases value with
  | scalar scalar => cases identified
  | list listed items =>
    cases identified
    rw [Encode.value, Walk.bind_get, known]
    rfl
  | object live =>
    cases identified
    rw [Encode.value, Walk.bind_get, known]
    rfl

/-- Whether anything is in progress or not, an answer that is known is routed to its expression. -/
theorem Route.choose_of_known {session : Session} (identified : value.identity? = some identity)
    (known : session.memo.find? identity = some code) (registry : Registry)
    (expansions : Expansions) (declared : DeclaredType) :
    choose registry expansions session declared value = .ok (.known code) := by
  have present : value.isNull = false := by
    cases value with
    | scalar scalar => cases identified
    | list _ _ | object _ => rfl
  have found : known? session value = some code := by
    rw [known?, identified, Option.bind_some, known]
  rw [choose, present, if_neg Bool.false_ne_true, found]

theorem Node.express_of_known (identified : value.identity? = some identity)
    (known : run.session.memo.find? identity = some code) (node : Node)
    (registry inner : Registry) (declared : DeclaredType) :
    node.express attempt registry inner declared value run = .ok code run := by
  have routed := Route.choose_of_known identified known registry node.expansions declared
  rw [express, Walk.bind_get, routed]
  exact (record_run value code run).trans
    (congrArg (EStateM.Result.ok code) (Run.recordFor_of_known identified known))

end Known

/-- How nodes are rendered under a table: in every state in which the table is known, whatever else
is known or in progress. -/
structure Attempt.Substitutes (attempt : Attempt) (heap : Heap) (canned : Canned) : Prop where
  /-- An answer of the table is its entry at once. -/
  answer : ∀ {run : Run} {value identity code}, run.session.KnowsTable canned →
    value.identity? = some identity → canned.find? identity = some code →
    ∀ (node : Node) registry inner declared,
      node.express attempt registry inner declared value run = .ok code run
  /-- So is an item of the table. -/
  item : ∀ {run : Run} {value identity code}, run.session.KnowsTable canned →
    value.identity? = some identity → canned.find? identity = some code →
    ∀ registry expansions declared,
      Encode.value (expandObject attempt registry expansions) registry expansions declared value
        run = .ok code run
  /-- So is an object of the table where it would be expanded. -/
  object : ∀ {run : Run} {live : LiveObject} {code}, run.session.KnowsTable canned →
    canned.find? live.identity = some code → ∀ registry expansions target,
      expandObject attempt registry expansions live target run = .ok code run
  /-- After each answer that is written, and after each item, the table is still known. -/
  kept : ∀ {run : Run}, run.session.KnowsTable canned → ∀ (node : Node) registry inner,
    (∀ declared value,
      (node.express attempt registry inner declared value).Leaves run (·.KnowsTable canned)) ∧
    (∀ expansions items,
      (Encode.allItems (expandObject attempt inner expansions) inner expansions items).Leaves run
        (·.KnowsTable canned)) ∧
    ∀ ledger methods,
      (node.overrides heap attempt registry inner ledger methods).Leaves run (·.KnowsTable canned)

theorem Node.attempt_substitutes (heap : Heap) (fuel : Nat) (canned : Canned) :
    (attempt heap fuel).Substitutes heap canned where
  answer knows identified stands node registry inner declared :=
    node.express_of_known identified (knows _ _ stands) registry inner declared
  item knows identified stands registry expansions declared :=
    Encode.value_of_known identified (knows _ _ stands) registry expansions declared _
  object knows stands registry expansions target :=
    expandObject_of_known (knows _ _ stands) registry expansions target
  kept {run} knows node registry inner := by
    have restores := attempt_restores heap fuel
    have keeps {α : Type} {walk : Walk α} (walked : walk.Restores) :
        walk.Leaves run (·.KnowsTable canned) := (walked run).mono knows.restored
    refine ⟨fun declared value => keeps ?_, fun expansions items => keeps ?_,
      fun ledger methods => keeps ?_⟩
    · exact express_restores restores node registry inner declared value
    · exact Encode.allItems_restores (expandObject_restores restores inner expansions) inner
        expansions items
    · exact overrides_restores restores heap node registry inner methods ledger

/-! ### What closes a cycle -/

/-- A cycle is closed by one of some values: something in them that is not in the table, and has the
identity of a member. -/
def Closes (canned : Canned) (members : List Identity) (values : List Value) : Prop :=
  ∃ part ∈ Value.partsOfAll values, ∃ taken ∈ members, part.identity? = some taken ∧
    canned.find? taken = none

namespace Closes

variable {canned : Canned} {members : List Identity} {first second : List Value}

theorem of_parts (closes : Closes canned members first)
    (more : ∀ part ∈ Value.partsOfAll first, part ∈ Value.partsOfAll second) :
    Closes canned members second := by
  obtain ⟨part, member, rest⟩ := closes
  exact ⟨part, more part member, rest⟩

theorem of_subset (closes : Closes canned members first)
    (more : ∀ value ∈ first, value ∈ second) : Closes canned members second := by
  refine closes.of_parts fun part member => ?_
  obtain ⟨value, listed, own⟩ := Value.mem_partsOfAll.mp member
  exact Value.mem_partsOfAll.mpr ⟨value, more value listed, own⟩

/-- A value closes a cycle by itself if its identity is unknown and in progress. -/
theorem of_busy {session : Session} {value : Value} {identity : Identity}
    (knows : session.KnowsTable canned) (unknown : session.memo.find? identity = none)
    (identified : value.identity? = some identity) (busy : session.chain.contains identity)
    (member : value ∈ first) : Closes canned session.chain.identities first :=
  ⟨value, Value.mem_partsOfAll.mpr ⟨value, member, Value.mem_parts_self value⟩, identity,
    Chain.contains_iff.mp busy, identified, knows.free unknown⟩

end Closes

/-- A walk that stops at a cycle has been handed something in progress that is not in the table: in
the values that it had to write, or in an answer that it got on the way. -/
theorem Stopped.closes {heap : Heap} {task : Task} {before after : Run} {events : List Event}
    {stop : Stop} (stopped : Stopped heap task before events stop after) {canned : Canned}
    (knows : before.session.KnowsTable canned) {members : List Identity}
    (cycle : stop.cycle? = some members) :
    Closes canned members (task.values ++ Invocation.answers (Event.invocations events)) := by
  induction stopped with
  | list unknown _ inductionHypothesis =>
    refine (inductionHypothesis knows cycle).of_parts fun part member => ?_
    rw [Task.values, Value.partsOfAll_append, List.mem_append] at member
    rw [Task.values, Value.partsOfAll_append, List.mem_append]
    refine member.imp_left fun inner => ?_
    rw [Value.partsOfAll, Value.parts]
    exact List.mem_append_left _ (List.mem_cons_of_mem _ inner)
  | untargeted => cases cycle
  | literalObject _ _ _ inductionHypothesis => exact inductionHypothesis knows cycle
  | item _ inductionHypothesis =>
    have own := inductionHypothesis (knows.of_memo_eq (Run.retain_memo _ _)) cycle
    refine own.of_subset fun value member => ?_
    rcases List.mem_append.mp member with first | answered
    · exact List.mem_append_left _ (List.mem_cons.mpr (.inl (List.mem_singleton.mp first)))
    · exact List.mem_append_right _ answered
  | @laterItem _ _ _ _ _ _ between _ _ _ _ headWalked _ inductionHypothesis =>
    have kept : between.session.KnowsTable canned := by
      intro identity code stands
      refine headWalked.find?_of_some ?_
      rw [Run.retain_memo]
      exact knows identity code stands
    refine (inductionHypothesis kept cycle).of_subset fun value member => ?_
    rw [Event.invocations_append, Invocation.answers_append]
    rcases List.mem_append.mp member with later | answered
    · exact List.mem_append_left _ (List.mem_cons_of_mem _ later)
    · exact List.mem_append_right _ (List.mem_append_right _ answered)
  | unbuilt _ refused =>
    rw [Node.cycle?_of_build refused] at cycle
    cases cycle
  | reentered unknown built busy =>
    obtain rfl := Option.some.inj cycle
    exact .of_busy knows unknown rfl busy List.mem_cons_self
  | exhausted => cases cycle
  | unrendered _ _ _ _ inductionHypothesis =>
    rw [Stop.cycle?_noteOn] at cycle
    have inner := inductionHypothesis (knows.of_memo_eq (Run.enter_memo _ _ _)) cycle
    exact inner.of_subset fun value member => List.mem_append_right _ member
  | @unrouted _ _ _ value _ _ refused =>
    cases Route.chosen_of_eq refused with
    | unregistered => cases cycle
    | busy unknown busy =>
      obtain rfl := Option.some.inj cycle
      cases identified : value.identity? with
      | none => simp [Route.isInProgress, identified] at busy
      | some identity =>
        rw [Route.isInProgress, identified] at busy
        exact .of_busy knows (Route.find?_eq_none unknown identified) identified busy
          List.mem_cons_self
  | literal _ _ inductionHypothesis => exact inductionHypothesis knows cycle
  | expanded _ _ inductionHypothesis => exact inductionHypothesis knows cycle
  | shapeless => cases cycle
  | skipped _ _ inductionHypothesis => exact inductionHypothesis knows cycle
  | unanswered =>
    have plain := cycle.symm.trans (Stop.cycle?_noteAccessor _ _ _ (.failed _))
    cases plain
  | unexpressed _ _ recorded _ inductionHypothesis =>
    rw [Stop.cycle?_noteAccessor] at cycle
    exact inductionHypothesis (knows.of_memo_eq (Ledger.memo_of_record recorded)) cycle
  | @laterMethod _ _ _ _ _ _ _ _ _ _ _ between _ _ _ _ _ _ recorded expressedWalked _
      inductionHypothesis =>
    have kept : between.session.KnowsTable canned := by
      intro identity code stands
      refine expressedWalked.find?_of_some ?_
      rw [Ledger.memo_of_record recorded]
      exact knows identity code stands
    refine (inductionHypothesis kept cycle).of_subset fun value member => ?_
    rw [Event.invocations_cons_call, Event.invocations_append, Invocation.answers_cons_ok,
      Invocation.answers_append]
    exact List.mem_cons_of_mem _ (List.mem_append_right _ member)

/-! ### The session of a rendering -/

/-- A known expression stays where a walk fails, too. -/
theorem Stopped.find?_of_some {heap : Heap} {task : Task} {before after : Run}
    {events : List Event} {stop : Stop} (stopped : Stopped heap task before events stop after)
    {identity : Identity} {code : Code}
    (known : before.session.memo.find? identity = some code) :
    after.session.memo.find? identity = some code := by
  induction stopped with
  | untargeted | unbuilt | reentered | exhausted | unrouted | shapeless | unanswered => exact known
  | list _ _ inductionHypothesis => exact inductionHypothesis known
  | literalObject _ _ _ inductionHypothesis => exact inductionHypothesis known
  | item _ inductionHypothesis => exact inductionHypothesis (by rwa [Run.retain_memo])
  | laterItem headWalked _ inductionHypothesis =>
    exact inductionHypothesis (headWalked.find?_of_some (by rwa [Run.retain_memo]))
  | unrendered _ _ _ _ inductionHypothesis => exact inductionHypothesis known
  | literal _ _ inductionHypothesis => exact inductionHypothesis known
  | expanded _ _ inductionHypothesis => exact inductionHypothesis known
  | skipped _ _ inductionHypothesis => exact inductionHypothesis known
  | unexpressed _ _ recorded _ inductionHypothesis =>
    exact inductionHypothesis (by rwa [Ledger.memo_of_record recorded])
  | laterMethod _ _ recorded expressedWalked _ inductionHypothesis =>
    exact inductionHypothesis
      (expressedWalked.find?_of_some (by rwa [Ledger.memo_of_record recorded]))

namespace Heap

variable {heap : Heap} {world : World} {number : Nat} {snapshot : Snapshot} {registry : Registry}

/-- A rendering is one of the root in the session of its snapshot, which is dropped afterwards. -/
theorem render_eq_renderIn (placed : world.snapshots[number]? = some snapshot)
    (uncached : snapshot.root.cached = none) :
    heap.render world number registry =
      { heap.renderIn world (.opening snapshot.canned) number registry with
        session := .empty } := by
  rw [render, perform, snapshotText_run placed uncached, Walk.inSession, renderIn, perform]
  cases renderRoot (heap.attempt world) number registry ⟨world, .opening snapshot.canned⟩ <;> rfl

/-- However a rendering ends, its session knows the table then. -/
theorem renderIn_knowsTable {value : Value} {target : Target} {canned : Canned}
    {expanded : List Target} (planned : Snapshot.plan value target canned expanded = .ok snapshot)
    (plain : canned.IsPlain) (placed : world.snapshots[number]? = some snapshot) :
    (heap.renderIn world (.opening canned) number registry).session.KnowsTable canned := by
  obtain ⟨live, rfl, built, rfl⟩ := Snapshot.built_of_plan planned
  obtain ⟨_, _, _, pending, uncached, _, _⟩ := Node.built_of_build built
  have begun : (world.begun number snapshot).session.KnowsTable snapshot.canned :=
    Session.KnowsTable.opening snapshot.canned
  have followed : Attempted heap (.ofSnapshot number) snapshot.root registry
      (world.begun number snapshot)
      (heap.attempt world (.ofSnapshot number) snapshot.root registry) :=
    Node.attempt_follows _ _ _ _ _ _ ((Session.opening_isReady plain).of_memo_eq rfl)
  cases followed with
  | @ok overrides events after ended walked =>
    have found : after.world.root? number = some snapshot.root.start := by
      rw [walked.growsBy.roots]
      exact World.root?_onRoot _ (congrArg (Option.map Snapshot.root) placed)
    rw [renderIn, perform, renderRoot_ok placed pending uncached ended found]
    exact fun identity code stands => walked.find?_of_some (begun identity code stands)
  | @error stop events after ended stopped =>
    rw [renderIn, perform, renderRoot_error placed pending uncached ended]
    exact fun identity code stands => stopped.find?_of_some (begun identity code stands)
  | outOfFuel ended =>
    rw [renderIn, perform, renderRoot_error placed pending uncached ended]
    exact begun

end Heap

/-! ### Every rendering -/

/-- What a rendering that began in a world makes of the table. -/
structure Heap.Ended.Substitutes (ended : Heap.Ended String) (world : World) (root : Identity)
    (canned : Canned) (options : Layout.Options) : Prop where
  /-- A text is the one of the plain writer, which asks the table at each position, laid out. Only
  the references that the accessors handed out have to be coherent: an identity is one list. -/
  printed : ∀ text, ended.result = .ok text →
    Value.Coherent (Invocation.answers (ended.world.since world)) →
    ∃ plain, (ended.story world canned).Prints root plain ∧ text = Layout.format options plain
  /-- No accessor of an object in the table is invoked, but for the root. -/
  uninvoked : ∀ invocation ∈ ended.world.since world,
    invocation.object = root ∨ canned.find? invocation.object = none
  /-- What closes a cycle was handed out by an accessor and is not in the table. -/
  closed : ∀ report members, ended.result = .error (.failed report) →
    report.fault.cycleMembers? = some members →
    Closes canned members (Invocation.answers (ended.world.since world))

/-- What comes after the beginning of a rendering walks through each object once, and through none
that is known from the start. -/
theorem RootWalk.begun_once {heap : Heap} {world : World} {number : Nat} {snapshot : Snapshot}
    {registry : Registry} {result : Except Stop String} {events : List Event}
    (root : RootWalk heap world number snapshot registry result events) :
    Once False (some snapshot.root.object.identity) (Method.asked snapshot.root.accessors)
      (world.begun number snapshot).session events := by
  cases root with
  | ok _ walked => exact (walked.once fun _ => World.begun_contains).mono False.elim
  | error _ stopped => exact stopped.once fun _ => World.begun_contains
  | outOfFuel => exact .stopped _ _ _

namespace Heap

theorem substitutes_of_render {value : Value} {target : Target} {canned : Canned}
    {expanded : List Target} {snapshot : Snapshot} {world : World} {number : Nat} (heap : Heap)
    (registry : Registry) (planned : Snapshot.plan value target canned expanded = .ok snapshot)
    (plain : canned.IsPlain) (placed : world.snapshots[number]? = some snapshot) :
    (heap.render world number registry).Substitutes world snapshot.root.object.identity canned
      registry.options where
  printed text rendered coherent := by
    obtain ⟨⟨tree, expands, printed⟩, _⟩ :=
      expands_of_render heap registry planned plain placed rendered coherent
    exact ⟨tree.written, expands.prints, printed⟩
  uninvoked invocation member := by
    obtain ⟨_, rfl, built, rfl⟩ := Snapshot.built_of_plan planned
    obtain ⟨events, root, invocations, _⟩ := render_rootWalk heap registry planned plain placed
    rw [invocations] at member
    have begun : (world.begun number snapshot).session.KnowsTable snapshot.canned :=
      Session.KnowsTable.opening snapshot.canned
    rcases root.begun_once.owned invocation member with own | host
    · exact .inr (begun.free (root.begun_once.unknown _ own))
    · exact .inl (Option.some.inj host).symm
  closed report members failed cycle := by
    obtain ⟨_, rfl, built, rfl⟩ := Snapshot.built_of_plan planned
    obtain ⟨events, root, invocations, _⟩ := render_rootWalk heap registry planned plain placed
    rw [failed] at root
    rw [invocations]
    cases root with
    | error noted stopped =>
      refine stopped.closes (Session.KnowsTable.opening snapshot.canned) ?_
      rw [← Stop.cycle?_noteOn snapshot.root, ← noted]
      exact cycle

/-- A canned representation takes the place of its list or object everywhere. In every rendering it
is printed wherever its identity occurs, as the source of its expression without the wrappers around
it; what it stands in for is not asked, and closes no cycle, since in every state of the rendering
what is in the table is answered before anything else is looked at; and the session of the rendering
knows each entry until its end. -/
theorem render_substitutes {value : Value} {target : Target} {canned : Canned}
    {expanded : List Target} {snapshot : Snapshot} {world : World} {number : Nat} (heap : Heap)
    (registry : Registry) (planned : Snapshot.plan value target canned expanded = .ok snapshot)
    (plain : canned.IsPlain) (placed : world.snapshots[number]? = some snapshot) :
    (heap.render world number registry).Substitutes world snapshot.root.object.identity canned
        registry.options ∧
      (∀ identity code, canned.find? identity = some code → ∀ attempt registry,
        code.value.source (Deferred.generate attempt registry) = pure (Code.written code.value)) ∧
      (heap.attempt world).Substitutes heap canned ∧
      (heap.render world number registry =
          { heap.renderIn world (.opening canned) number registry with session := .empty } ∧
        (Session.opening canned).KnowsTable canned ∧
        (heap.renderIn world (.opening canned) number registry).session.KnowsTable canned) := by
  refine ⟨substitutes_of_render heap registry planned plain placed, ?_, ?_, ?_, ?_, ?_⟩
  · intro identity code stands attempt registry
    exact Code.source_value (plain.statements_eq_nil stands) attempt registry
  · exact Node.attempt_substitutes heap (heap.fuel world) canned
  · obtain ⟨_, rfl, built, rfl⟩ := Snapshot.built_of_plan planned
    obtain ⟨_, _, _, _, uncached, _, _⟩ := Node.built_of_build built
    exact render_eq_renderIn placed uncached
  · exact Session.KnowsTable.opening canned
  · exact renderIn_knowsTable planned plain placed

end Heap

/-! ### A ring that leads back to a variable -/

namespace Ring

/-- The first node is a variable, in a `return` statement that is wrapped once more. -/
def outer : Code :=
  .ret (.returnReference "outer")

/-- The first node is never expanded where it is met. -/
def table : Canned :=
  Canned.empty.insert first outer

theorem table_isPlain : table.IsPlain := by
  intro entry member
  rw [List.mem_singleton.mp member]
  rfl

/-- The first node is planned although something stands in for it. -/
def openSnapshot : Snapshot :=
  { snapshot with canned := table }

/-- Nothing has happened but the planning. -/
def openWorld : World :=
  { World.initial with snapshots := [openSnapshot] }

theorem openPlanned : Snapshot.plan (.object first) node table [node] = .ok openSnapshot := by
  obtain ⟨_, same, built, _⟩ := Snapshot.built_of_plan planned
  cases same
  rw [Snapshot.plan, built]
  rfl

theorem openPlaced : openWorld.snapshots[0]? = some openSnapshot := rfl

theorem openRendered : ∃ text, (heap.render openWorld 0 .root).result = .ok text :=
  Heap.Ended.exists_text (by decide +kernel)

theorem render_substitutes_ring :
    (∃ text plain, (heap.render openWorld 0 .root).result = .ok text ∧
      ((heap.render openWorld 0 .root).story openWorld table).Prints first.identity plain ∧
      text = Layout.format Registry.root.options plain) ∧
    outer.value.source (Deferred.generate (heap.attempt openWorld) .root) = pure "outer" ∧
    (heap.renderIn openWorld (.opening table) 0 .root).session.memo.find? first.identity =
      some outer := by
  obtain ⟨text, rendered⟩ := openRendered
  obtain ⟨substitutes, sources, _, _, _, knows⟩ :=
    Heap.render_substitutes heap .root openPlanned table_isPlain openPlaced
  obtain ⟨plain, prints, printed⟩ := substitutes.printed text rendered
    (keeps.coherent_of_render .root openPlanned table_isPlain openPlaced)
  refine ⟨⟨text, plain, rendered, prints, printed⟩, ?_, knows _ _ rfl⟩
  exact sources first.identity outer rfl (heap.attempt openWorld) .root

end Ring

end FrozenGraph
