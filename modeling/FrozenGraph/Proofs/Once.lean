/-
This file shows that a rendering walks through each object once. However many accessors and lists
share an object, its rendering begins at most once, and its accessors are invoked at most once each,
in order; none is left out unless the whole rendering fails.

The invariant is one about events: the objects whose rendering begins in a part of a walk are
neither known nor in progress before that part, and they are known after it.
-/

import FrozenGraph.Graph.Script
import FrozenGraph.Proofs.Assembled
import Mathlib.Data.List.Nodup

namespace FrozenGraph

/-! ### Objects and accessors in a log -/

/-- The methods that answer something, in their order. -/
def Method.asked (methods : List Method) : List Method :=
  methods.filter (·.returns ≠ .void)

/-- The names of the methods that answer something, in their order. -/
def Method.answering (methods : List Method) : List String :=
  (asked methods).map (·.name)

namespace Invocation

/-- The invocations of the accessors of one object, in their order. -/
def on (object : Identity) (invocations : List Invocation) : List Invocation :=
  invocations.filter (·.object = object)

/-- The accessors of an object that were invoked, in their order. -/
def accessorsOf (object : Identity) (invocations : List Invocation) : List String :=
  (on object invocations).map (·.accessor)

theorem on_append (object : Identity) (first second : List Invocation) :
    on object (first ++ second) = on object first ++ on object second :=
  List.filter_append first second

theorem on_cons_self (invocation : Invocation) (rest : List Invocation) :
    on invocation.object (invocation :: rest) = invocation :: on invocation.object rest :=
  List.filter_cons_of_pos (by simp)

theorem on_cons_of_ne {object : Identity} {invocation : Invocation} (rest : List Invocation)
    (other : invocation.object ≠ object) : on object (invocation :: rest) = on object rest :=
  List.filter_cons_of_neg (by simpa using other)

theorem on_eq_nil {object : Identity} {invocations : List Invocation}
    (absent : ∀ invocation ∈ invocations, invocation.object ≠ object) :
    on object invocations = [] :=
  List.filter_eq_nil_iff.mpr fun invocation member => by simpa using absent invocation member

end Invocation

namespace Method

theorem asked_cons_of_void {method : Method} (rest : List Method)
    (void : method.returns = .void) : asked (method :: rest) = asked rest :=
  List.filter_cons_of_neg (by simpa using void)

theorem asked_cons {method : Method} (rest : List Method) (answers : method.returns ≠ .void) :
    asked (method :: rest) = method :: asked rest :=
  List.filter_cons_of_pos (by simpa using answers)

end Method

/-- The objects whose rendering begins with some events. -/
def Event.objects (events : List Event) : List Identity :=
  (Event.renderings events).map (·.object)

/-- The invocations of the accessors of one object among some events, in their order. -/
def Event.on (object : Identity) (events : List Event) : List Invocation :=
  Invocation.on object (Event.invocations events)

namespace Event

/-- The method that an event calls, if it is one of an object. -/
def calledOn? (object : Identity) : Event → Option Method
  | .rendering _ => none
  | .call caller method _ => if caller = object then some method else none

/-- The methods of one object that are called with some events, in their order. -/
def called (object : Identity) (events : List Event) : List Method :=
  events.filterMap (calledOn? object)

theorem objects_cons_call (object : Identity) (method : Method)
    (outcome : Except AccessorFault Value) (events : List Event) :
    objects (.call object method outcome :: events) = objects events := rfl

theorem objects_append (first second : List Event) :
    objects (first ++ second) = objects first ++ objects second := by
  rw [objects, renderings_append, List.map_append]
  rfl

theorem on_append (object : Identity) (first second : List Event) :
    on object (first ++ second) = on object first ++ on object second := by
  rw [on, invocations_append, Invocation.on_append]
  rfl

theorem on_cons_self (object : Identity) (method : Method)
    (outcome : Except AccessorFault Value) (events : List Event) :
    on object (.call object method outcome :: events) =
      ⟨object, method.name, outcome⟩ :: on object events :=
  Invocation.on_cons_self ⟨object, method.name, outcome⟩ _

theorem called_append (object : Identity) (first second : List Event) :
    called object (first ++ second) = called object first ++ called object second :=
  List.filterMap_append

theorem called_cons_self (object : Identity) (method : Method)
    (outcome : Except AccessorFault Value) (events : List Event) :
    called object (.call object method outcome :: events) = method :: called object events :=
  List.filterMap_cons_some (if_pos rfl)

theorem called_cons_of_ne {object other : Identity} (method : Method)
    (outcome : Except AccessorFault Value) (events : List Event) (apart : object ≠ other) :
    called other (.call object method outcome :: events) = called other events :=
  List.filterMap_cons_none (if_neg apart)

/-- The methods that are called are those whose names are noted. -/
theorem called_map_name (object : Identity) (events : List Event) :
    (called object events).map (·.name) = (on object events).map (·.accessor) := by
  induction events with
  | nil => rfl
  | cons event rest inductionHypothesis =>
    cases event with
    | rendering begun => exact inductionHypothesis
    | call caller method outcome =>
      by_cases own : caller = object
      · subst own
        rw [called_cons_self, on_cons_self, List.map_cons, List.map_cons, inductionHypothesis]
      · rw [called_cons_of_ne method outcome rest own, on, invocations_cons_call,
          Invocation.on_cons_of_ne _ own, inductionHypothesis]
        rfl

/-- Where nothing is noted, no method is called. -/
theorem called_eq_nil {object : Identity} {events : List Event} (silent : on object events = []) :
    called object events = [] := by
  have names := called_map_name object events
  rw [silent] at names
  exact List.map_eq_nil_iff.mp names

end Event

/-! ### The invariant of the events -/

/-- Calls go through the first methods of a list, and through all of them if they have to. -/
structure Covers (whole : Prop) (called methods : List Method) : Prop where
  isPrefix : called <+: methods
  eq_of_whole : whole → called = methods

namespace Covers

theorem refl (whole : Prop) : Covers whole [] [] :=
  ⟨List.nil_prefix, fun _ => rfl⟩

theorem nil (methods : List Method) : Covers False [] methods :=
  ⟨List.nil_prefix, False.elim⟩

theorem cons {whole : Prop} {called methods : List Method}
    (covers : Covers whole called methods) (method : Method) :
    Covers whole (method :: called) (method :: methods) :=
  ⟨(List.prefix_cons_inj _).mpr covers.isPrefix,
    fun all => congrArg _ (covers.eq_of_whole all)⟩

/-- Where calls go through methods, the accessors that are noted go through their names. -/
theorem accessorsOf {whole : Prop} {object : Identity} {events : List Event}
    {accessors : List Method}
    (covers : Covers whole (Event.called object events) (Method.asked accessors)) :
    Invocation.accessorsOf object (Event.invocations events) <+: Method.answering accessors ∧
      (whole → Invocation.accessorsOf object (Event.invocations events) =
        Method.answering accessors) := by
  have noted : Invocation.accessorsOf object (Event.invocations events) =
      (Event.called object events).map (·.name) := (Event.called_map_name object events).symm
  rw [noted]
  exact ⟨covers.isPrefix.map _, fun all => congrArg _ (covers.eq_of_whole all)⟩

end Covers

/-- Events that walk through each object once. They start in a session; they may call methods of one
object in progress, the host, which are compared with some methods, and the methods of every other
object are compared with those that its target has. -/
structure Once (whole : Prop) (host : Option Identity) (methods : List Method) (before : Session)
    (events : List Event) : Prop where
  nodup : (Event.objects events).Nodup
  unknown : ∀ object ∈ Event.objects events, before.memo.find? object = none
  free : ∀ object ∈ Event.objects events, before.chain.contains object = false
  owned : ∀ invocation ∈ Event.invocations events,
    invocation.object ∈ Event.objects events ∨ host = some invocation.object
  answered : ∀ rendering ∈ Event.renderings events, ∃ accessors,
    rendering.target.accessors = .ok accessors ∧
      Covers whole (Event.called rendering.object events) (Method.asked accessors)
  hosted : ∀ object, host = some object → Covers whole (Event.called object events) methods

namespace Once

variable {whole : Prop} {host : Option Identity} {methods : List Method}
  {before between : Session} {first second events : List Event}

/-- Nothing happens, and nothing has to. -/
theorem nil (whole : Prop) (host : Option Identity) (before : Session) :
    Once whole host [] before [] where
  nodup := List.nodup_nil
  unknown := fun _ member => nomatch member
  free := fun _ member => nomatch member
  owned := fun _ member => nomatch member
  answered := fun _ member => nomatch member
  hosted := fun _ _ => .refl _

/-- Nothing happens that would have to go on. -/
theorem stopped (host : Option Identity) (methods : List Method) (before : Session) :
    Once False host methods before [] where
  nodup := List.nodup_nil
  unknown := fun _ member => nomatch member
  free := fun _ member => nomatch member
  owned := fun _ member => nomatch member
  answered := fun _ member => nomatch member
  hosted := fun _ _ => .nil _

/-- What is known before and in progress before is all that the events depend on. -/
theorem of_session {other : Session} (once : Once whole host methods before events)
    (memo : before.memo = other.memo) (chain : before.chain = other.chain) :
    Once whole host methods other events where
  nodup := once.nodup
  unknown := memo ▸ once.unknown
  free := chain ▸ once.free
  owned := once.owned
  answered := once.answered
  hosted := once.hosted

/-- Where nothing is known before, there is less to be said. -/
theorem forget (once : Once whole host methods before events) :
    Once whole host methods { before with memo := .empty } events where
  nodup := once.nodup
  unknown := fun _ _ => rfl
  free := once.free
  owned := once.owned
  answered := once.answered
  hosted := once.hosted

/-- Less can be asked of the accessors that are invoked. -/
theorem mono {weaker : Prop} (once : Once whole host methods before events)
    (implies : weaker → whole) : Once weaker host methods before events where
  nodup := once.nodup
  unknown := once.unknown
  free := once.free
  owned := once.owned
  answered rendering member := by
    obtain ⟨accessors, listed, covers⟩ := once.answered rendering member
    exact ⟨accessors, listed, covers.isPrefix, fun all => covers.eq_of_whole (implies all)⟩
  hosted object same :=
    have covers := once.hosted object same
    ⟨covers.isPrefix, fun all => covers.eq_of_whole (implies all)⟩

/-- What is invoked belongs to the host or to an object whose rendering begins. -/
theorem on_eq_nil (once : Once whole host methods before events) {object : Identity}
    (fresh : object ∉ Event.objects events) (other : host ≠ some object) :
    Event.on object events = [] := by
  refine Invocation.on_eq_nil fun invocation member same => ?_
  subst same
  rcases once.owned invocation member with own | hosted
  · exact fresh own
  · exact other hosted

/-- A method of the host or of an object whose rendering begins is called, and no other. -/
theorem called_eq_nil (once : Once whole host methods before events) {object : Identity}
    (fresh : object ∉ Event.objects events) (other : host ≠ some object) :
    Event.called object events = [] :=
  Event.called_eq_nil (once.on_eq_nil fresh other)

/-- A method of an object is called, and its answer written without the object. -/
theorem on_call_append {object : Identity} (once : Once True none [] before first)
    (fresh : object ∉ Event.objects first) (method : Method)
    (outcome : Except AccessorFault Value) (second : List Event) :
    Event.on object (.call object method outcome :: (first ++ second)) =
      ⟨object, method.name, outcome⟩ :: Event.on object second := by
  rw [Event.on_cons_self, Event.on_append, once.on_eq_nil fresh nofun, List.nil_append]

/-- Events follow on events without a host after which every object that was rendered is known. -/
theorem append (walked : Once True none [] before first)
    (later : Once whole host methods between second)
    (settled : ∀ object ∈ Event.objects first, ∃ code, between.memo.find? object = some code)
    (kept : ∀ {object code}, before.memo.find? object = some code →
      between.memo.find? object = some code)
    (chain : between.chain = before.chain)
    (busy : ∀ object, host = some object → before.chain.contains object) :
    Once whole host methods before (first ++ second) := by
  have apart : ∀ object ∈ Event.objects first, object ∉ Event.objects second := by
    intro object early late
    obtain ⟨code, known⟩ := settled object early
    rw [later.unknown object late] at known
    cases known
  have aside : ∀ object ∈ Event.objects first, host ≠ some object :=
    fun object early hosted =>
      Bool.false_ne_true ((walked.free object early).symm.trans (busy object hosted))
  have mem {object : Identity} : object ∈ Event.objects (first ++ second) ↔
      object ∈ Event.objects first ∨ object ∈ Event.objects second := by
    rw [Event.objects_append, List.mem_append]
  have fromSecond : ∀ object ∉ Event.objects first,
      Event.called object (first ++ second) = Event.called object second := by
    intro object fresh
    rw [Event.called_append, walked.called_eq_nil fresh nofun, List.nil_append]
  refine ⟨?_, fun object member => ?_, fun object member => ?_, fun invocation member => ?_,
    fun rendering member => ?_, fun object hosted => ?_⟩
  · rw [Event.objects_append]
    refine List.nodup_append.mpr ⟨walked.nodup, later.nodup, fun object early other late => ?_⟩
    rintro rfl
    exact apart object early late
  · rcases mem.mp member with early | late
    · exact walked.unknown object early
    · cases known : before.memo.find? object with
      | none => rfl
      | some code => rw [← kept known, later.unknown object late]
  · rcases mem.mp member with early | late
    · exact walked.free object early
    · exact chain ▸ later.free object late
  · rw [Event.invocations_append, List.mem_append] at member
    rcases member with early | late
    · exact .inl (mem.mpr (.inl ((walked.owned invocation early).resolve_right nofun)))
    · exact (later.owned invocation late).imp_left fun own => mem.mpr (.inr own)
  · rw [Event.renderings_append, List.mem_append] at member
    rcases member with early | late
    · have own : rendering.object ∈ Event.objects first := List.mem_map_of_mem early
      obtain ⟨accessors, listed, covers⟩ := walked.answered rendering early
      refine ⟨accessors, listed, ?_⟩
      rw [Event.called_append, later.called_eq_nil (apart _ own) (aside _ own), List.append_nil]
      exact ⟨covers.isPrefix, fun _ => covers.eq_of_whole trivial⟩
    · have own : rendering.object ∈ Event.objects second := List.mem_map_of_mem late
      obtain ⟨accessors, listed, covers⟩ := later.answered rendering late
      refine ⟨accessors, listed, ?_⟩
      rw [fromSecond _ fun early => apart _ early own]
      exact covers
  · rw [fromSecond _ fun early => aside _ early hosted]
    exact later.hosted object hosted

/-- Events without a host are events of any host, none of whose accessors they invoke. -/
theorem of_none {object : Identity} (once : Once whole none [] before events)
    (covers : Covers whole [] methods) (busy : before.chain.contains object) :
    Once whole (some object) methods before events where
  nodup := once.nodup
  unknown := once.unknown
  free := once.free
  owned invocation member := (once.owned invocation member).imp_right nofun
  answered := once.answered
  hosted other same := by
    have fresh : other ∉ Event.objects events := by
      intro member
      rw [← Option.some.inj same] at member
      exact Bool.false_ne_true ((once.free object member).symm.trans busy)
    rw [once.called_eq_nil fresh nofun]
    exact covers

/-- A method of the host is called before other events. -/
theorem call {object : Identity} (once : Once whole (some object) methods before events)
    (busy : before.chain.contains object) (method : Method)
    (outcome : Except AccessorFault Value) :
    Once whole (some object) (method :: methods) before
      (.call object method outcome :: events) where
  nodup := once.nodup
  unknown := once.unknown
  free := once.free
  owned invocation member := by
    rcases List.mem_cons.mp member with rfl | later
    · exact .inr rfl
    · exact once.owned invocation later
  answered rendering member := by
    obtain ⟨accessors, listed, covers⟩ := once.answered rendering member
    refine ⟨accessors, listed, ?_⟩
    have other : object ≠ rendering.object := by
      rintro rfl
      have free := once.free _ (List.mem_map_of_mem member)
      exact Bool.false_ne_true (free.symm.trans busy)
    rw [Event.called_cons_of_ne method outcome events other]
    exact covers
  hosted other same := by
    obtain rfl := Option.some.inj same
    rw [Event.called_cons_self]
    exact (once.hosted object rfl).cons method

/-- The rendering of an object encloses the events of its accessors. -/
theorem rendering (run : Run) {object : LiveObject} {target : Target} {accessors : List Method}
    (once : Once whole (some object.identity) (Method.asked accessors)
      (run.enter object target).session events)
    (listed : target.accessors = .ok accessors)
    (unknown : run.session.memo.find? object.identity = none)
    (free : run.session.chain.contains object.identity = false) :
    Once whole none [] run.session (.rendering ⟨object.identity, target⟩ :: events) := by
  have entered : ∀ other ∈ Event.objects events,
      run.session.chain.contains other = false ∧ other ≠ object.identity := by
    intro other member
    have apart := once.free other member
    simp only [Chain.contains, Run.enter, List.any_append, List.any_cons, List.any_nil,
      Bool.or_false, Bool.or_eq_false_iff, beq_eq_false_iff_ne] at apart
    exact ⟨apart.1, apart.2.symm⟩
  refine ⟨?_, fun other member => ?_, fun other member => ?_, fun invocation member => ?_,
    fun rendering member => ?_, fun other hosted => ?_⟩
  · exact List.nodup_cons.mpr ⟨fun member => (entered _ member).2 rfl, once.nodup⟩
  · rcases List.mem_cons.mp member with rfl | later
    · exact unknown
    · exact once.unknown other later
  · rcases List.mem_cons.mp member with rfl | later
    · exact free
    · exact (entered other later).1
  · rcases once.owned invocation member with own | hosted
    · exact .inl (List.mem_cons_of_mem _ own)
    · rw [← Option.some.inj hosted]
      exact .inl List.mem_cons_self
  · rcases List.mem_cons.mp member with rfl | later
    · exact ⟨accessors, listed, once.hosted _ rfl⟩
    · exact once.answered rendering later
  · cases hosted

end Once

/-! ### Every walk -/

/-- The object whose accessors a part invokes itself. -/
def Part.host? : Part → Option Identity
  | .methods node _ _ _ _ => some node.object.identity
  | .value .. | .items .. | .object .. | .answer .. => none

/-- The methods of the host that a part calls. -/
def Part.asked : Part → List Method
  | .methods _ _ _ accessors _ => Method.asked accessors
  | .value .. | .items .. | .object .. | .answer .. => []

/-- The object whose accessors a part invokes itself. -/
def Task.host? : Task → Option Identity
  | .methods node _ _ _ => some node.object.identity
  | .value .. | .items .. | .object .. | .answer .. => none

/-- The methods of the host that a part would call. -/
def Task.asked : Task → List Method
  | .methods _ _ _ accessors => Method.asked accessors
  | .value .. | .items .. | .object .. | .answer .. => []

/-- An object that was entered last is on the chain. -/
theorem Run.enter_contains (run : Run) (object : LiveObject) (target : Target) :
    (run.enter object target).session.chain.contains object.identity := by
  simp [Run.enter, Chain.contains]

/-- Every object that was rendered in a part of a walk is known after it. -/
theorem Walked.settled {heap : Heap} {part : Part} {before after : Run} {events : List Event}
    (walked : Walked heap part before events after) :
    ∀ object ∈ Event.objects events, ∃ code, after.session.memo.find? object = some code := by
  induction walked with
  | scalar | known | noItem | reused | null | recalled | noMethod =>
    exact fun _ member => nomatch member
  | list _ _ inductionHypothesis =>
    intro object member
    obtain ⟨code, known⟩ := inductionHypothesis object member
    exact ⟨code, Memo.find?_record_of_some known⟩
  | literalObject _ _ _ inductionHypothesis => exact inductionHypothesis
  | item _ tailWalked head tail =>
    intro object member
    rw [Event.objects_append, List.mem_append] at member
    rcases member with early | late
    · obtain ⟨code, known⟩ := head object early
      exact ⟨code, tailWalked.find?_of_some known⟩
    · exact tail object late
  | rendered _ _ _ _ inductionHypothesis =>
    intro object member
    rcases List.mem_cons.mp member with rfl | later
    · exact Option.isSome_iff_exists.mp (Memo.find?_record_self _ _ _)
    · obtain ⟨code, known⟩ := inductionHypothesis object later
      exact ⟨code, Memo.find?_record_of_some known⟩
  | literal _ _ inductionHypothesis =>
    intro object member
    obtain ⟨code, known⟩ := inductionHypothesis object member
    exact ⟨code, Run.recordFor_find? known⟩
  | expanded _ _ inductionHypothesis =>
    intro object member
    obtain ⟨code, known⟩ := inductionHypothesis object member
    exact ⟨code, Memo.find?_record_of_some known⟩
  | skipped _ _ inductionHypothesis => exact inductionHypothesis
  | method _ _ _ _ laterWalked expressed later =>
    intro object member
    rw [Event.objects_cons_call, Event.objects_append, List.mem_append] at member
    rcases member with early | late
    · obtain ⟨code, known⟩ := expressed object early
      exact ⟨code, laterWalked.find?_of_some known⟩
    · exact later object late

/-- A part that ends with an answer walks through each object once. -/
theorem Walked.once {heap : Heap} {part : Part} {before after : Run} {events : List Event}
    (walked : Walked heap part before events after)
    (busy : ∀ object, part.host? = some object → before.session.chain.contains object) :
    Once True part.host? part.asked before.session events := by
  induction walked with
  | scalar | known | noItem | reused | null | recalled | noMethod => exact .nil _ _ _
  | list _ _ inductionHypothesis => exact inductionHypothesis nofun
  | literalObject _ _ _ inductionHypothesis => exact inductionHypothesis nofun
  | item headWalked _ head tail =>
    refine .append ((head nofun).of_session (Run.retain_memo _ _) (Run.retain_chain _ _))
      (tail nofun) headWalked.settled (fun known => headWalked.find?_of_some ?_) ?_ nofun
    · rwa [Run.retain_memo]
    · rw [headWalked.chain_eq, Run.retain_chain]
  | @rendered _ _ _ target _ _ before _ _ unknown built free _ inductionHypothesis =>
    obtain ⟨rfl, _, _, _, _, _, listed⟩ := Node.built_of_build built
    refine Once.rendering _ (inductionHypothesis fun object hosted => ?_) listed unknown free
    rw [← Option.some.inj hosted]
    exact Run.enter_contains _ _ _
  | literal _ _ inductionHypothesis => exact inductionHypothesis nofun
  | expanded _ _ inductionHypothesis => exact inductionHypothesis nofun
  | skipped void _ inductionHypothesis =>
    rw [Part.asked, Method.asked_cons_of_void _ void]
    exact inductionHypothesis busy
  | method answers _ recorded expressedWalked _ expressed later =>
    have memo := Ledger.memo_of_record recorded
    have chain := Ledger.chain_of_record recorded
    rw [Part.asked, Method.asked_cons _ answers]
    refine Once.call (.append ((expressed nofun).of_session memo chain) (later ?_)
      expressedWalked.settled (fun known => expressedWalked.find?_of_some ?_) ?_ busy)
      (busy _ rfl) _ _
    · rwa [expressedWalked.chain_eq, chain]
    · rwa [memo]
    · rw [expressedWalked.chain_eq, chain]

/-- So does a part that fails, up to the place where it does. -/
theorem Stopped.once {heap : Heap} {task : Task} {before after : Run} {events : List Event}
    {stop : Stop} (stopped : Stopped heap task before events stop after)
    (busy : ∀ object, task.host? = some object → before.session.chain.contains object) :
    Once False task.host? task.asked before.session events := by
  induction stopped with
  | untargeted | unbuilt | reentered | unrouted | shapeless => exact .nil _ _ _
  | list _ _ inductionHypothesis => exact inductionHypothesis nofun
  | literalObject _ _ _ inductionHypothesis => exact inductionHypothesis nofun
  | item _ inductionHypothesis =>
    exact (inductionHypothesis nofun).of_session (Run.retain_memo _ _) (Run.retain_chain _ _)
  | laterItem headWalked _ tail =>
    refine .append ((headWalked.once nofun).of_session (Run.retain_memo _ _)
      (Run.retain_chain _ _)) (tail nofun) headWalked.settled
      (fun known => headWalked.find?_of_some ?_) ?_ nofun
    · rwa [Run.retain_memo]
    · rw [headWalked.chain_eq, Run.retain_chain]
  | exhausted unknown built free =>
    obtain ⟨rfl, _, _, _, _, _, listed⟩ := Node.built_of_build built
    exact Once.rendering _ (.stopped _ _ _) listed unknown free
  | unrendered unknown built free _ inductionHypothesis =>
    obtain ⟨rfl, _, _, _, _, _, listed⟩ := Node.built_of_build built
    refine Once.rendering _ (inductionHypothesis fun object hosted => ?_) listed unknown free
    rw [← Option.some.inj hosted]
    exact Run.enter_contains _ _ _
  | literal _ _ inductionHypothesis => exact inductionHypothesis nofun
  | expanded _ _ inductionHypothesis => exact inductionHypothesis nofun
  | skipped void _ inductionHypothesis =>
    rw [Task.asked, Method.asked_cons_of_void _ void]
    exact inductionHypothesis busy
  | unanswered answers _ =>
    rw [Task.asked, Method.asked_cons _ answers]
    exact Once.call (.stopped _ _ _) (busy _ rfl) _ _
  | unexpressed answers _ recorded _ inductionHypothesis =>
    have inner := (inductionHypothesis nofun).of_session (Ledger.memo_of_record recorded)
      (Ledger.chain_of_record recorded)
    rw [Task.asked, Method.asked_cons _ answers]
    exact Once.call (inner.of_none (.nil _) (busy _ rfl)) (busy _ rfl) _ _
  | laterMethod answers _ recorded expressedWalked _ later =>
    have memo := Ledger.memo_of_record recorded
    have chain := Ledger.chain_of_record recorded
    rw [Task.asked, Method.asked_cons _ answers]
    refine Once.call (.append ((expressedWalked.once nofun).of_session memo chain)
      (later ?_) expressedWalked.settled (fun known => expressedWalked.find?_of_some ?_) ?_ busy)
      (busy _ rfl) _ _
    · rwa [expressedWalked.chain_eq, chain]
    · rwa [memo]
    · rw [expressedWalked.chain_eq, chain]

/-! ### Every rendering -/

/-- A rendering that began in a world walked through each object once, whether it succeeded or not.
Only what the trace of the rendering says is compared: the nodes whose rendering began, and the
accessors that were invoked. -/
structure Heap.Ended.WalkedOnce (ended : Heap.Ended String) (world : World) : Prop where
  /-- No object is expanded twice, however many accessors and lists share it. -/
  nodup : ((ended.world.renderingsSince world).map (·.object)).Nodup
  /-- The accessors of an expanded object are invoked in the order of its target, each once, as far
  as the rendering comes; all of them are if it succeeds. -/
  invoked : ∀ rendering ∈ ended.world.renderingsSince world, ∃ accessors,
    rendering.target.accessors = .ok accessors ∧
      Invocation.accessorsOf rendering.object (ended.world.since world) <+:
        Method.answering accessors ∧
      ((∃ text, ended.result = .ok text) →
        Invocation.accessorsOf rendering.object (ended.world.since world) =
          Method.answering accessors)
  /-- Nothing else is invoked: no accessor that answers nothing, and none of another object. -/
  owned : ∀ invocation ∈ ended.world.since world,
    ∃ rendering ∈ ended.world.renderingsSince world, rendering.object = invocation.object ∧
      ∃ accessors, rendering.target.accessors = .ok accessors ∧
        ∃ method ∈ accessors, method.name = invocation.accessor ∧ method.returns ≠ .void

theorem Method.exists_of_mem_answering {accessors : List Method} {name : String}
    (member : name ∈ answering accessors) :
    ∃ method ∈ accessors, method.name = name ∧ method.returns ≠ .void := by
  obtain ⟨method, kept, named⟩ := List.mem_map.mp member
  obtain ⟨listed, answers⟩ := List.mem_filter.mp kept
  exact ⟨method, listed, named, of_decide_eq_true answers⟩

theorem Invocation.mem_accessorsOf {invocations : List Invocation} {invocation : Invocation}
    (member : invocation ∈ invocations) :
    invocation.accessor ∈ accessorsOf invocation.object invocations :=
  List.mem_map_of_mem (List.mem_filter.mpr ⟨member, decide_eq_true rfl⟩)

/-- The events of a whole rendering, that of the root being the first, walk through each object
once. -/
theorem RootWalk.once {heap : Heap} {world : World} {number : Nat} {snapshot : Snapshot}
    {registry : Registry} {result : Except Stop String} {events : List Event}
    (root : RootWalk heap world number snapshot registry result events)
    (listed : snapshot.root.target.accessors = .ok snapshot.root.accessors) :
    Once (∃ text, result = .ok text) none [] .empty
      (.rendering ⟨snapshot.root.object.identity, snapshot.root.target⟩ :: events) := by
  -- The root itself may be known from the start, by a canned representation.
  have enclosed : ∀ {whole : Prop},
      Once whole (some snapshot.root.object.identity) (Method.asked snapshot.root.accessors)
        (world.begun number snapshot).session events →
      Once whole none [] .empty
        (.rendering ⟨snapshot.root.object.identity, snapshot.root.target⟩ :: events) :=
    fun once => Once.rendering ⟨world, .empty⟩ (once.forget.of_session rfl rfl) listed rfl
      rfl
  cases root with
  | ok _ walked =>
    exact (enclosed (walked.once fun _ => World.begun_contains)).mono fun _ => trivial
  | error _ stopped =>
    exact (enclosed (stopped.once fun _ => World.begun_contains)).mono
      fun ⟨_, impossible⟩ => nomatch impossible
  | outOfFuel => exact (enclosed (.stopped _ _ _)).mono fun ⟨_, impossible⟩ => nomatch impossible

namespace Heap

/-- The first rendering of a snapshot is a walk through the accessors of its root, and its events
walk through each object once. -/
theorem render_once {value : Value} {target : Target} {canned : Canned} {expanded : List Target}
    {snapshot : Snapshot} {world : World} {number : Nat} (heap : Heap) (registry : Registry)
    (planned : Snapshot.plan value target canned expanded = .ok snapshot)
    (plain : canned.IsPlain) (placed : world.snapshots[number]? = some snapshot) :
    ∃ events,
      RootWalk heap world number snapshot registry (heap.render world number registry).result
        events ∧
      (heap.render world number registry).world.since world = Event.invocations events ∧
      (heap.render world number registry).world.renderingsSince world =
        ⟨snapshot.root.object.identity, snapshot.root.target⟩ :: Event.renderings events ∧
      Once (∃ text, (heap.render world number registry).result = .ok text) none [] .empty
        (.rendering ⟨snapshot.root.object.identity, snapshot.root.target⟩ :: events) := by
  obtain ⟨_, rfl, built, rfl⟩ := Snapshot.built_of_plan planned
  obtain ⟨_, rfl, _, _, _, _, listed⟩ := Node.built_of_build built
  obtain ⟨events, root, invocations, renderings⟩ :=
    render_rootWalk heap registry planned plain placed
  exact ⟨events, root, invocations, renderings, root.once listed⟩

/-- One rendering walks through each object once, and putting the texts together is no part of the
walk: the rendering is the same when they are a function of the overriding methods. -/
theorem render_walkedOnce {value : Value} {target : Target} {canned : Canned}
    {expanded : List Target} {snapshot : Snapshot} {world : World} {number : Nat} (heap : Heap)
    (registry : Registry) (planned : Snapshot.plan value target canned expanded = .ok snapshot)
    (plain : canned.IsPlain) (placed : world.snapshots[number]? = some snapshot) :
    (heap.render world number registry).WalkedOnce world ∧
      heap.render world number registry = heap.renderPurely world number registry := by
  refine ⟨?_, render_eq_renderPurely heap registry planned plain placed⟩
  obtain ⟨events, _, invocations, renderings, once⟩ :=
    render_once heap registry planned plain placed
  refine ⟨?_, fun rendering member => ?_, fun invocation member => ?_⟩
  · rw [renderings]
    exact once.nodup
  · rw [renderings] at member
    obtain ⟨accessors, listed, covers⟩ := once.answered rendering member
    rw [invocations]
    exact ⟨accessors, listed, covers.accessorsOf⟩
  · rw [invocations] at member
    have own := (once.owned invocation member).resolve_right nofun
    obtain ⟨rendering, begun, same⟩ := List.mem_map.mp own
    obtain ⟨accessors, listed, covers⟩ := once.answered rendering begun
    rw [renderings]
    have called := Invocation.mem_accessorsOf member
    rw [← same] at called
    exact ⟨rendering, begun, same, accessors, listed,
      Method.exists_of_mem_answering (covers.accessorsOf.1.subset called)⟩

end Heap

/-! ### A list with one object twice -/

namespace Twins

/-- A leaf has a name. -/
def leaf : Target :=
  (Target.interface "Leaf").accessor "getName" .string

/-- A holder has leaves. -/
def holder : Target :=
  (Target.interface "Holder").accessor "getLeaves" (.listOf leaf.declaredType)

/-- The only leaf. -/
def leafObject : LiveObject :=
  ⟨.entry "leaf", ⟨leaf.name, []⟩, none⟩

/-- The holder of the leaf. -/
def holderObject : LiveObject :=
  ⟨.entry "holder", ⟨holder.name, []⟩, none⟩

/-- The holder answers a list that names the leaf twice. -/
def script : Script :=
  [⟨holderObject, [("getLeaves",
      .value (.fresh [.existing (.object leafObject), .existing (.object leafObject)]))]⟩,
    ⟨leafObject, [("getName", .value (.existing (.scalar (.string "leaf"))))]⟩]

/-- The heap of the holder and the leaf. -/
def heap : Heap :=
  script.heap

/-- The holder is planned, and leaves are expanded. -/
def snapshot : Snapshot where
  root := ⟨holderObject, holder, holder.methods, .ofList [leaf], .pending, none⟩
  canned := .empty
  origins := .empty

/-- Nothing has happened but the planning. -/
def world : World :=
  { World.initial with snapshots := [snapshot] }

theorem planned :
    Snapshot.plan (.object holderObject) holder .empty [leaf] = .ok snapshot := by
  have built : Node.build holderObject holder (.ofList [leaf]) = .ok snapshot.root := by
    decide +kernel
  rw [Snapshot.plan, built]
  rfl

theorem render_walkedOnce_leaf :
    (heap.render world 0 .root).WalkedOnce world ∧
      heap.render world 0 .root = heap.renderPurely world 0 .root :=
  Heap.render_walkedOnce heap .root planned Canned.empty_isPlain rfl

end Twins

end FrozenGraph
