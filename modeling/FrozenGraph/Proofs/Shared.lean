/-
This file shows that sharing does not show in the text. A rendering writes every list and object
once and uses its expression again wherever the same identity occurs; the text is the same as if
every occurrence were written out in full from what the accessors answered.

The invariant is one about sessions: the expression that is known for an identity prints like the
plain expansion of every value with that identity. A nested text is laid out on its own before it
is printed into the text around it, so two prints need only be alike up to layout.
-/

import FrozenGraph.Proofs.Once
import FrozenGraph.Proofs.Relaid
import FrozenGraph.Proofs.Supplied
import FrozenGraph.Proofs.Unfolded

namespace FrozenGraph

/-! ### What is told of a rendering -/

/-- The answers of the accessors of one object, in their order. -/
def Invocation.answersOf (object : Identity) (invocations : List Invocation) : List Value :=
  answers (on object invocations)

/-- What some renderings and invocations tell: every object has the target that it was written as
first, and the answers that its accessors gave. -/
def Story.of (canned : Canned) (renderings : List Rendering) (invocations : List Invocation) :
    Story where
  canned
  told object := (renderings.find? (·.object = object)).map fun rendering =>
    (rendering.target, Invocation.answersOf object invocations)

namespace Story

/-- Whether a story tells of every object that is rendered with some events what happens there. -/
def Tells (story : Story) (events : List Event) : Prop :=
  ∀ rendering ∈ Event.renderings events,
    story.told rendering.object =
      some (rendering.target, Invocation.answers (Event.on rendering.object events))

/-- Where no object is rendered twice, its first rendering is its only one. -/
theorem find?_of_nodup {renderings : List Rendering} {rendering : Rendering}
    (nodup : (renderings.map (·.object)).Nodup) (member : rendering ∈ renderings) :
    renderings.find? (·.object = rendering.object) = some rendering := by
  induction renderings with
  | nil => cases member
  | cons first rest inductionHypothesis =>
    obtain ⟨fresh, others⟩ := List.nodup_cons.mp nodup
    rcases List.mem_cons.mp member with rfl | later
    · exact List.find?_cons_of_pos (by simp)
    · have apart : first.object ≠ rendering.object := by
        intro same
        exact fresh (List.mem_map.mpr ⟨rendering, later, same.symm⟩)
      rw [List.find?_cons_of_neg (by simpa using apart)]
      exact inductionHypothesis others later

/-- Where no object is rendered twice, the events make up their own story. -/
theorem tells_of (canned : Canned) {events : List Event} (nodup : (Event.objects events).Nodup) :
    (Story.of canned (Event.renderings events) (Event.invocations events)).Tells events := by
  intro rendering member
  show Option.map _ _ = _
  rw [Option.map_eq_some_iff]
  exact ⟨rendering, find?_of_nodup nodup member, rfl⟩

namespace Tells

variable {story : Story} {host : Option Identity} {before : Session}
  {first second events : List Event}

/-- What is told of events one after the other is told of either part. -/
theorem of_append (tells : story.Tells (first ++ second))
    (nodup : (Event.objects (first ++ second)).Nodup)
    (walked : Once True none [] before first)
    (owned : ∀ invocation ∈ Event.invocations second,
      invocation.object ∈ Event.objects second ∨ host = some invocation.object)
    (aside : ∀ object, host = some object → object ∉ Event.objects (first ++ second)) :
    story.Tells first ∧ story.Tells second := by
  rw [Event.objects_append] at nodup aside
  have apart : ∀ object ∈ Event.objects first, object ∉ Event.objects second :=
    fun object early late => (List.nodup_append.mp nodup).2.2 object early object late rfl
  constructor
  · intro rendering member
    have own : rendering.object ∈ Event.objects first := List.mem_map_of_mem member
    have absent : Event.on rendering.object second = [] := by
      refine Invocation.on_eq_nil fun invocation later same => ?_
      rcases owned invocation later with inner | hosted
      · exact apart _ own (same ▸ inner)
      · exact aside _ (same ▸ hosted) (List.mem_append_left _ own)
    have told := tells rendering (by
      rw [Event.renderings_append]
      exact List.mem_append_left _ member)
    rwa [Event.on_append, absent, List.append_nil] at told
  · intro rendering member
    have own : rendering.object ∈ Event.objects second := List.mem_map_of_mem member
    have told := tells rendering (by
      rw [Event.renderings_append]
      exact List.mem_append_right _ member)
    rwa [Event.on_append, walked.on_eq_nil (fun early => apart _ early own) nofun,
      List.nil_append] at told

/-- What is told of events is told of them without a call of another object. -/
theorem of_call {object : Identity} {method : Method} {outcome : Except AccessorFault Value}
    (tells : story.Tells (.call object method outcome :: events))
    (other : object ∉ Event.objects events) : story.Tells events := by
  intro rendering member
  have told := tells rendering member
  have apart : object ≠ rendering.object := by
    intro same
    exact other (same ▸ List.mem_map_of_mem member)
  rwa [Event.on, Event.invocations_cons_call, Invocation.on_cons_of_ne _ apart] at told

theorem of_rendering {rendering : Rendering}
    (tells : story.Tells (.rendering rendering :: events)) :
    story.told rendering.object =
        some (rendering.target, Invocation.answers (Event.on rendering.object events)) ∧
      story.Tells events :=
  ⟨tells rendering List.mem_cons_self, fun inner member =>
    tells inner (List.mem_cons_of_mem _ member)⟩

end Tells

end Story

/-! ### Expressions that print like the plain expansion -/

open Layout (AlikeText)

namespace Story

/-- Whether an expression prints like a value written out in full, up to layout. -/
def Faithful (story : Story) (value : Value) (code : Code) : Prop :=
  ∃ tree, story.Unfolds value tree ∧ AlikeText code.written tree.written

/-- Whether expressions print like some values written out in full. -/
def FaithfulAll (story : Story) (items : List Value) (codes : List Code) : Prop :=
  ∃ trees, story.UnfoldsAll items trees ∧
    AlikeText (Expr.additionsText Deferred.finished codes)
      (Expr.additionsText Deferred.finished trees)

/-- Whether overriding methods print like those for some answers written out in full. -/
def FaithfulMethods (story : Story) (accessors : List Method) (answers : List Value)
    (overrides : List (Override Deferred)) : Prop :=
  ∃ trees, story.UnfoldsMethods accessors answers trees ∧
    AlikeText (Expr.overridesText Deferred.finished overrides)
      (Expr.overridesText Deferred.finished trees)

variable {story : Story} {holds : Value → Prop}

theorem FaithfulAll.nil : story.FaithfulAll [] [] := ⟨[], .nil, .refl _⟩

theorem FaithfulAll.cons {item : Value} {items : List Value} {code : Code} {codes : List Code}
    (head : story.Faithful item code) (tail : story.FaithfulAll items codes) :
    story.FaithfulAll (item :: items) (code :: codes) := by
  obtain ⟨tree, unfolds, alike⟩ := head
  obtain ⟨trees, all, others⟩ := tail
  refine ⟨tree :: trees, .cons unfolds all, ?_⟩
  rw [Expr.additionsText_cons, Expr.additionsText_cons]
  exact (((AlikeText.refl _).append alike).append (.refl _)).append others

theorem Faithful.scalar (scalar : Scalar) : story.Faithful (.scalar scalar) (.literal scalar) :=
  ⟨_, .scalar scalar, .refl _⟩

theorem Faithful.list {identity : Identity} {items : List Value} {codes : List Code}
    (free : story.canned.find? identity = none) (all : story.FaithfulAll items codes) :
    story.Faithful (.list identity items) (.list codes) := by
  obtain ⟨trees, unfold, alike⟩ := all
  refine ⟨.list trees, .list free unfold, ?_⟩
  rw [Code.written, Code.written, Expr.text_list, Expr.text_list]
  exact ((AlikeText.refl _).append alike).append (.refl _)

theorem FaithfulMethods.nil : story.FaithfulMethods [] [] [] := ⟨[], .nil, .refl _⟩

theorem FaithfulMethods.void {method : Method} {rest : List Method} {answers : List Value}
    {overrides : List (Override Deferred)} (void : method.returns = .void)
    (later : story.FaithfulMethods rest answers overrides) :
    story.FaithfulMethods (method :: rest) answers
      (.empty method.name method.returns :: overrides) := by
  obtain ⟨trees, unfold, alike⟩ := later
  refine ⟨_, unfold.void void, ?_⟩
  rw [Expr.overridesText_empty, Expr.overridesText_empty]
  exact (AlikeText.refl _).append alike

theorem FaithfulMethods.returning {method : Method} {rest : List Method} {answer : Value}
    {answers : List Value} {code : Code} {overrides : List (Override Deferred)}
    (answering : method.returns ≠ .void) (head : story.Faithful answer code)
    (later : story.FaithfulMethods rest answers overrides) :
    story.FaithfulMethods (method :: rest) (answer :: answers)
      (.returning method.name method.returns code :: overrides) := by
  obtain ⟨tree, unfolds, alike⟩ := head
  obtain ⟨trees, all, others⟩ := later
  refine ⟨_, all.returning answering unfolds, ?_⟩
  rw [Expr.overridesText_returning, Expr.overridesText_returning]
  exact (((((AlikeText.refl _).append (.refl _)).append alike).append (.refl _)).append
    (.refl _)).append others

/-- The text of a class neither begins nor ends with white space. -/
theorem solid_anonymous (extended : DeclaredType) (overrides : List (Override Deferred)) :
    Layout.Solid (Code.written (.anonymous extended overrides)).toList := by
  rw [Code.written, Expr.text_anonymous]
  exact Layout.solid_class _ _

/-- A node that is complete prints like the class that was printed for it. -/
theorem alikeText_complete {node : Node} (registry : Registry)
    (overrides : List (Override Deferred)) (uncached : node.cached = none) :
    AlikeText (Code.written (.deferred (.node (node.complete (node.classText registry overrides)))))
      (Code.written (.anonymous node.target.declaredType overrides)) := by
  have printed : Code.written (.deferred (.node
      (node.complete (node.classText registry overrides)))) =
      node.classText registry overrides := by
    rw [Code.written, Expr.text_deferred, Deferred.finished, Deferred.finished?, Node.complete,
      uncached]
    rfl
  rw [printed]
  exact Layout.alikeText_format _ _ (solid_anonymous _ _)

theorem Expands.of_faithfulMethods {identity : Identity} {target : Target}
    {answers : List Value} {accessors : List Method} {overrides : List (Override Deferred)}
    (told : story.told identity = some (target, answers))
    (listed : target.accessors = .ok accessors)
    (written : story.FaithfulMethods accessors answers overrides) :
    ∃ tree, story.Expands identity tree ∧
      AlikeText (Code.written (.anonymous target.declaredType overrides)) tree.written := by
  obtain ⟨trees, unfold, alike⟩ := written
  refine ⟨_, .intro told listed unfold, ?_⟩
  rw [Code.written, Code.written, Expr.text_anonymous, Expr.text_anonymous]
  exact ((AlikeText.refl _).append alike).append (.refl _)

/-- A rendered object prints like the class that is told of it. -/
theorem Faithful.rendered {node : Node} (registry : Registry) {answers : List Value}
    {overrides : List (Override Deferred)}
    (free : story.canned.find? node.object.identity = none)
    (told : story.told node.object.identity = some (node.target, answers))
    (listed : node.target.accessors = .ok node.accessors) (uncached : node.cached = none)
    (methods : story.FaithfulMethods node.accessors answers overrides) :
    story.Faithful (.object node.object)
      (.deferred (.node (node.complete (node.classText registry overrides)))) := by
  obtain ⟨tree, expands, alike⟩ := Expands.of_faithfulMethods told listed methods
  exact ⟨tree, .object free expands, (alikeText_complete registry overrides uncached).trans alike⟩

/-- What holds of a value holds of every value with its identity. -/
theorem Faithful.transport {value other : Value} {identity : Identity} {code : Code}
    (whole : Universe holds) (held : holds value) (otherHeld : holds other)
    (identified : value.identity? = some identity)
    (otherIdentified : other.identity? = some identity) (faithful : story.Faithful value code) :
    story.Faithful other code := by
  cases value with
  | scalar scalar => cases identified
  | list listed items =>
    cases identified
    rwa [whole.coherent held otherHeld otherIdentified]
  | object live =>
    cases other with
    | scalar scalar => cases otherIdentified
    | list listed items =>
      cases otherIdentified
      rwa [← whole.coherent otherHeld held identified]
    | object otherLive =>
      -- Only its identity takes part in the expansion of an object.
      obtain ⟨tree, ⟨depth, found⟩, alike⟩ := faithful
      refine ⟨tree, ⟨depth, ?_⟩, alike⟩
      have same : otherLive.identity = live.identity :=
        Option.some.inj (otherIdentified.trans identified.symm)
      rw [unfold] at found ⊢
      rwa [same]

/-- A session knows all canned representations, and otherwise only expressions that print like the
plain expansion. -/
structure Knows (story : Story) (holds : Value → Prop) (session : Session) : Prop where
  canned : ∀ {identity code}, story.canned.find? identity = some code →
    session.memo.find? identity = some code
  faithful : ∀ {value identity code}, holds value → value.identity? = some identity →
    session.memo.find? identity = some code → story.Faithful value code

namespace Knows

theorem of_memo_eq {first second : Session} (knows : story.Knows holds first)
    (same : second.memo = first.memo) : story.Knows holds second where
  canned stands := by rw [same]; exact knows.canned stands
  faithful held identified found := knows.faithful held identified (by rwa [← same])

/-- What is not known is not canned. -/
theorem free {session : Session} {identity : Identity} (knows : story.Knows holds session)
    (unknown : session.memo.find? identity = none) :
    story.canned.find? identity = none :=
  Canned.find?_eq_none (fun _ stands => knows.canned stands) unknown

theorem record {session : Session} {value : Value} {identity : Identity} {code : Code}
    (knows : story.Knows holds session) (whole : Universe holds) (held : holds value)
    (identified : value.identity? = some identity) (faithful : story.Faithful value code) :
    story.Knows holds (session.record identity code) where
  canned stands := Memo.find?_record_of_some (knows.canned stands)
  faithful otherHeld otherIdentified found := by
    rcases Memo.find?_record_iff.mp found with earlier | ⟨_, rfl, rfl⟩
    · exact knows.faithful otherHeld otherIdentified earlier
    · exact faithful.transport whole held otherHeld identified otherIdentified

theorem recordFor {run : Run} {value : Value} {code : Code}
    (knows : story.Knows holds run.session) (whole : Universe holds) (held : holds value)
    (faithful : story.Faithful value code) :
    story.Knows holds (run.recordFor value code).session := by
  unfold Run.recordFor
  split
  · rename_i identity identified
    exact knows.record whole held identified faithful
  · exact knows

end Knows

end Story

/-! ### Every walk -/

/-- The values that a part of a walk writes. -/
def Part.values : Part → List Value
  | .value _ _ _ content _ | .answer _ _ _ content _ => [content]
  | .items _ _ contents _ => contents
  | .object _ _ live _ _ => [.object live]
  | .methods .. => []

/-- Whether what comes of a part prints like the plain expansion of what it writes. The answers of
a node are those that its accessors give in the course of the part. -/
def Part.Faithful (story : Story) (events : List Event) : Part → Prop
  | .value _ _ _ content code | .answer _ _ _ content code => story.Faithful content code
  | .items _ _ contents codes => story.FaithfulAll contents codes
  | .object _ _ live _ code => story.Faithful (.object live) code
  | .methods node _ _ accessors overrides =>
    story.FaithfulMethods accessors
      (Invocation.answers (Event.on node.object.identity events)) overrides

/-- Whether every object that is rendered with some events has a plain expansion. -/
def Story.ExpandsAll (story : Story) (events : List Event) : Prop :=
  ∀ object ∈ Event.objects events, ∃ tree, story.Expands object tree

theorem Story.ExpandsAll.append {story : Story} {first second : List Event}
    (early : story.ExpandsAll first) (late : story.ExpandsAll second) :
    story.ExpandsAll (first ++ second) := by
  intro object member
  rw [Event.objects_append, List.mem_append] at member
  exact member.elim (early object) (late object)

/-- Sharing changes nothing: whatever a part of a walk writes prints like the plain expansion, and
the plain expansion of every object that is rendered on the way ends. -/
theorem Walked.faithful {heap : Heap} {part : Part} {before after : Run} {events : List Event}
    (walked : Walked heap part before events after) {story : Story} {holds : Value → Prop}
    (whole : Universe holds)
    (busy : ∀ object, part.host? = some object → before.session.chain.contains object)
    (tells : story.Tells events) (held : ∀ value ∈ part.values, holds value)
    (answered : ∀ value ∈ Invocation.answers (Event.invocations events), holds value)
    (knows : story.Knows holds before.session) :
    part.Faithful story events ∧ story.Knows holds after.session ∧ story.ExpandsAll events := by
  induction walked with
  | scalar => exact ⟨.scalar _, knows, nofun⟩
  | known identified found =>
    exact ⟨knows.faithful (held _ List.mem_cons_self) identified found, knows, nofun⟩
  | list unknown _ inductionHypothesis =>
    have own := held _ List.mem_cons_self
    obtain ⟨all, later, expands⟩ := inductionHypothesis nofun tells (whole.items own) answered knows
    have faithful := Story.Faithful.list (knows.free unknown) all
    exact ⟨faithful, later.record whole own rfl faithful, expands⟩
  | literalObject _ _ _ inductionHypothesis =>
    exact inductionHypothesis nofun tells held answered knows
  | noItem => exact ⟨.nil, knows, nofun⟩
  | item headWalked tailWalked head tail =>
    have once := (Walked.item headWalked tailWalked).once nofun
    obtain ⟨early, late⟩ := tells.of_append once.nodup (headWalked.once nofun)
      (tailWalked.once nofun).owned nofun
    rw [Event.invocations_append, Invocation.answers_append] at answered
    obtain ⟨first, between, expands⟩ := head nofun early
      (fun value member => held value (List.mem_cons.mpr (.inl (List.mem_singleton.mp member))))
      (fun value member => answered value (List.mem_append_left _ member))
      (knows.of_memo_eq (Run.retain_memo _ _))
    obtain ⟨rest, after, others⟩ := tail nofun late
      (fun value member => held value (List.mem_cons_of_mem _ member))
      (fun value member => answered value (List.mem_append_right _ member)) between
    exact ⟨.cons first rest, after, expands.append others⟩
  | reused found => exact ⟨knows.faithful (held _ List.mem_cons_self) rfl found, knows, nofun⟩
  | @rendered registry _ _ _ _ _ _ _ _ unknown built _ _ inductionHypothesis =>
    obtain ⟨rfl, rfl, _, _, uncached, _, listed⟩ := Node.built_of_build built
    obtain ⟨told, inner⟩ := tells.of_rendering
    have own := held _ List.mem_cons_self
    obtain ⟨methods, later, others⟩ := inductionHypothesis
      (fun object hosted => Option.some.inj hosted ▸ Run.enter_contains _ _ _) inner nofun
      answered (knows.of_memo_eq (Run.enter_memo _ _ _))
    have faithful := Story.Faithful.rendered registry (knows.free unknown) told listed uncached
      methods
    obtain ⟨tree, expands, _⟩ := Story.Expands.of_faithfulMethods told listed methods
    refine ⟨faithful, (later.of_memo_eq (Run.leave_memo _ _)).record whole own rfl faithful, ?_⟩
    exact fun object member => (List.mem_cons.mp member).elim
      (fun same => ⟨tree, same ▸ expands⟩) (others object)
  | null => exact ⟨.scalar _, knows, nofun⟩
  | recalled routed =>
    obtain ⟨identity, identified, found⟩ := Route.known_of_choose routed
    have own := held _ List.mem_cons_self
    have faithful := knows.faithful own identified found
    exact ⟨faithful, knows.recordFor whole own faithful, nofun⟩
  | literal _ _ inductionHypothesis =>
    obtain ⟨faithful, later, expands⟩ := inductionHypothesis nofun tells held answered knows
    exact ⟨faithful, later.recordFor whole (held _ List.mem_cons_self) faithful, expands⟩
  | expanded _ _ inductionHypothesis =>
    obtain ⟨faithful, later, expands⟩ := inductionHypothesis nofun tells held answered knows
    exact ⟨faithful, later.record whole (held _ List.mem_cons_self) rfl faithful, expands⟩
  | noMethod => exact ⟨.nil, knows, nofun⟩
  | skipped void _ inductionHypothesis =>
    obtain ⟨methods, later, expands⟩ := inductionHypothesis busy tells nofun answered knows
    exact ⟨methods.void void, later, expands⟩
  | @method node _ _ _ method _ value _ _ _ _ _ between first second _ answers replied recorded
      expressedWalked laterWalked expressed later =>
    have once := (Walked.method answers replied recorded expressedWalked laterWalked).once busy
    have aside : ∀ object, some node.object.identity = some object →
        object ∉ Event.objects (first ++ second) := by
      rintro object hosted member
      exact Bool.false_ne_true ((once.free object member).symm.trans (busy object hosted))
    have chain : ∀ object, some node.object.identity = some object →
        between.session.chain.contains object := by
      intro object hosted
      rw [expressedWalked.chain_eq, Ledger.chain_of_record recorded]
      exact busy object hosted
    obtain ⟨early, late⟩ := (tells.of_call (aside _ rfl)).of_append once.nodup
      (expressedWalked.once nofun) (laterWalked.once chain).owned aside
    have fresh : node.object.identity ∉ Event.objects first := fun member =>
      aside _ rfl (by
        rw [Event.objects_append]
        exact List.mem_append_left _ member)
    rw [Event.invocations_cons_call, Event.invocations_append, Invocation.answers_cons_ok,
      Invocation.answers_append] at answered
    obtain ⟨faithful, kept, expands⟩ := expressed nofun early
      (fun answer member =>
        answered answer (List.mem_cons.mpr (.inl (List.mem_singleton.mp member))))
      (fun answer member => answered answer
        (List.mem_cons_of_mem _ (List.mem_append_left _ member)))
      (knows.of_memo_eq (Ledger.memo_of_record recorded))
    obtain ⟨methods, after, others⟩ := later chain late nofun
      (fun answer member => answered answer
        (List.mem_cons_of_mem _ (List.mem_append_right _ member))) kept
    refine ⟨?_, after, expands.append others⟩
    rw [Part.Faithful, (expressedWalked.once nofun).on_call_append fresh]
    exact methods.returning answers faithful

/-! ### Every rendering -/

/-- What a rendering that began in a world told of the objects that it expanded. -/
def Heap.Ended.story (ended : Heap.Ended String) (world : World) (canned : Canned) : Story :=
  .of canned (ended.world.renderingsSince world) (ended.world.since world)

theorem Except.isOk_iff {ε α : Type} {result : Except ε α} :
    result.isOk ↔ ∃ answer, result = .ok answer := by
  cases result with
  | ok answer => exact ⟨fun _ => ⟨answer, rfl⟩, fun _ => rfl⟩
  | error reason => exact ⟨nofun, nofun⟩

theorem Heap.Ended.exists_text {ended : Heap.Ended String} (succeeds : ended.result.isOk) :
    ∃ text, ended.result = .ok text :=
  Except.isOk_iff.mp succeeds

/-- The events of a rendering make up its story. -/
theorem Heap.Ended.story_eq {ended : Heap.Ended String} {world : World} (canned : Canned)
    (events : List Event) (invocations : ended.world.since world = Event.invocations events)
    (renderings : ended.world.renderingsSince world = Event.renderings events) :
    ended.story world canned =
      .of canned (Event.renderings events) (Event.invocations events) := by
  rw [story, invocations, renderings]

/-- A session that opens knows the canned representations only. -/
theorem Story.knows_begun (story : Story) (holds : Value → Prop) (world : World) (number : Nat)
    {snapshot : Snapshot} (canned : story.canned = snapshot.canned) :
    story.Knows holds (world.begun number snapshot).session where
  canned {identity _} stands := by
    rw [canned] at stands
    exact (Session.opening_find? snapshot.canned identity).trans stands
  faithful {_ identity code} _ identified found := by
    refine ⟨code, .canned identified ?_, .refl _⟩
    rw [canned]
    exact (Session.opening_find? snapshot.canned identity).symm.trans found

namespace Heap

/-- What a rendering that succeeds prints is the plain expansion of its object, and the plain
expansion of every object that it expanded ends. -/
theorem expands_of_render {value : Value} {target : Target} {canned : Canned}
    {expanded : List Target} {snapshot : Snapshot} {world : World} {number : Nat} {text : String}
    (heap : Heap) (registry : Registry)
    (planned : Snapshot.plan value target canned expanded = .ok snapshot)
    (plain : canned.IsPlain) (placed : world.snapshots[number]? = some snapshot)
    (rendered : (heap.render world number registry).result = .ok text)
    (coherent : Value.Coherent
      (Invocation.answers ((heap.render world number registry).world.since world))) :
    (∃ tree, ((heap.render world number registry).story world canned).Expands
        snapshot.root.object.identity tree ∧
      text = Layout.format registry.options tree.written) ∧
    ∀ rendering ∈ (heap.render world number registry).world.renderingsSince world,
      ∃ tree, ((heap.render world number registry).story world canned).Expands
        rendering.object tree := by
  obtain ⟨live, rfl, built, rfl⟩ := Snapshot.built_of_plan planned
  obtain ⟨_, rfl, _, _, _, _, listed⟩ := Node.built_of_build built
  obtain ⟨events, root, invocations, renderings, once⟩ :=
    render_once heap registry planned plain placed
  have whole := Ended.story_eq snapshot.canned (.rendering _ :: events) invocations renderings
  obtain ⟨told, tells⟩ := (Story.tells_of snapshot.canned once.nodup).of_rendering
  rw [rendered] at root
  rw [invocations] at coherent
  rw [whole, renderings]
  cases root with
  | ok printed walked =>
    obtain ⟨methods, _, others⟩ := walked.faithful (Universe.of_coherent coherent)
      (fun object hosted => World.begun_contains hosted) tells nofun
      (fun answer member => Value.mem_partsOfAll.mpr ⟨answer, member, Value.mem_parts_self answer⟩)
      (Story.knows_begun _ _ world number rfl)
    obtain ⟨tree, expands, alike⟩ := Story.Expands.of_faithfulMethods told listed methods
    refine ⟨⟨tree, expands, ?_⟩, fun rendering member => ?_⟩
    · rw [printed]
      exact Layout.format_eq_of_alike registry.options alike
    · rcases List.mem_cons.mp member with rfl | later
      · exact ⟨tree, expands⟩
      · exact others rendering.object (List.mem_map_of_mem later)

/-- A rendering that succeeds prints its object as if every occurrence of every object and list,
however often they are shared, were written out in full: each object as the target that it was
written as first, from the answers that its accessors gave in this rendering. There is only one such
expression, and no memo and no check for cycles takes part in it. Only the references that the
accessors handed out have to be coherent: an identity is one list. -/
theorem render_eq_expansion {value : Value} {target : Target} {canned : Canned}
    {expanded : List Target} {snapshot : Snapshot} {world : World} {number : Nat} {text : String}
    (heap : Heap) (registry : Registry)
    (planned : Snapshot.plan value target canned expanded = .ok snapshot)
    (plain : canned.IsPlain) (placed : world.snapshots[number]? = some snapshot)
    (rendered : (heap.render world number registry).result = .ok text)
    (coherent : Value.Coherent
      (Invocation.answers ((heap.render world number registry).world.since world))) :
    ∃ tree, ((heap.render world number registry).story world canned).Expands
        snapshot.root.object.identity tree ∧
      (∀ other, ((heap.render world number registry).story world canned).Expands
        snapshot.root.object.identity other → other = tree) ∧
      text = Layout.format registry.options tree.written := by
  obtain ⟨⟨tree, expands, printed⟩, _⟩ :=
    expands_of_render heap registry planned plain placed rendered coherent
  exact ⟨tree, expands, fun other found => found.unique expands, printed⟩

end Heap

namespace Twins

theorem rendered : ∃ text, (heap.render world 0 .root).result = .ok text :=
  Heap.Ended.exists_text (by decide +kernel)

theorem keeps : heap.Keeps script.values :=
  Script.IsCoherent.keeps (by decide +kernel)

theorem coherent :
    Value.Coherent (Invocation.answers ((heap.render world 0 .root).world.since world)) :=
  keeps.coherent_of_render .root planned Canned.empty_isPlain rfl

theorem render_eq_expansion_leaf :
    ∃ text, (heap.render world 0 .root).result = .ok text ∧
      ∃ tree, ((heap.render world 0 .root).story world .empty).Expands holderObject.identity tree ∧
        (∀ other, ((heap.render world 0 .root).story world .empty).Expands holderObject.identity
          other → other = tree) ∧
        text = Layout.format Registry.root.options tree.written := by
  obtain ⟨text, rendered⟩ := rendered
  exact ⟨text, rendered, Heap.render_eq_expansion heap .root planned Canned.empty_isPlain rfl
    rendered coherent⟩

end Twins

end FrozenGraph
