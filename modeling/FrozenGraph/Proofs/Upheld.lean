/-
This file shows that what is asked of the expressions a session knows holds at every moment. What
exactly is asked is a parameter: it may depend on the expression, and on the values that the session
keeps. A walk records an expression only once it is made and once a value with its identity is kept,
so a session that begins as it should stays so at each moment, however the walk ends; and so do the
sessions that wait for it.

A session only grows while it is open: it forgets no expression, and lets no value go.
-/

import FrozenGraph.Proofs.Watched

namespace FrozenGraph

/-! ### Sessions from moment to moment -/

/-- A session forgets no expression and lets no value go. -/
structure Session.Grows (earlier later : Session) : Prop where
  known : ∀ {identity code}, earlier.memo.find? identity = some code →
    later.memo.find? identity = some code
  retained : earlier.retained ⊆ later.retained

namespace Session.Grows

theorem refl (session : Session) : session.Grows session :=
  ⟨id, List.Subset.refl _⟩

theorem trans {first second third : Session} (early : first.Grows second)
    (late : second.Grows third) : first.Grows third :=
  ⟨late.known ∘ early.known, List.Subset.trans early.retained late.retained⟩

theorem retain (session : Session) (value : Value) : session.Grows (session.retain value) := by
  unfold Session.retain
  split
  · exact ⟨id, List.subset_cons_self _ _⟩
  · exact refl session

theorem record (session : Session) (identity : Identity) (code : Code) :
    session.Grows (session.record identity code) :=
  ⟨Memo.find?_record_of_some, List.Subset.refl _⟩

end Session.Grows

namespace Moment

/-- How one moment follows another: the session at hand goes on, one is opened for which it waits,
or it is closed and the one goes on that waited for it. -/
inductive Next (earlier later : Moment) : Prop
  | onward (waiting : later.waiting = earlier.waiting)
    (grown : earlier.run.session.Grows later.run.session)
  | opens (waiting : later.waiting = earlier.sessions)
  | closes (waiting : later.sessions = earlier.waiting)

/-- Some moments lead one by one from a first to a last. -/
inductive Course : Moment → List Moment → Moment → Prop
  | done {moment} : Course moment [] moment
  | next {first second rest last} (step : first.Next second) (later : Course second rest last) :
    Course first (second :: rest) last

theorem Next.inside {earlier later : Moment} (next : earlier.Next later) (outer : Session) :
    (earlier.inside outer).Next (later.inside outer) := by
  cases next with
  | onward waiting grown => exact .onward (congrArg (· ++ [outer]) waiting) grown
  | opens waiting => exact .opens (congrArg (· ++ [outer]) waiting)
  | closes waiting => exact .closes (congrArg (· ++ [outer]) waiting)

/-- The session that is open at a level: no session waits for it but those of lower levels. -/
def session? (moment : Moment) (level : Nat) : Option Session :=
  moment.sessions.reverse[level]?

/-- A session grows as long as it is open. -/
theorem Next.grows {earlier later : Moment} (next : earlier.Next later) {level : Nat}
    {session : Session} (opened : earlier.session? level = some session)
    (still : level < later.sessions.length) :
    ∃ grown, later.session? level = some grown ∧ session.Grows grown := by
  rw [session?, sessions, List.reverse_cons] at opened
  cases next with
  | onward waiting grown =>
    rw [session?, sessions, List.reverse_cons, waiting]
    rw [sessions, List.length_cons, waiting] at still
    rcases Nat.lt_succ_iff_lt_or_eq.mp still with lower | own
    · rw [List.getElem?_append_left (by simpa using lower)] at opened ⊢
      exact ⟨session, opened, .refl session⟩
    · have last (current : Session) :
          (earlier.waiting.reverse ++ [current])[level]? = some current := by
        rw [own, ← List.length_reverse, List.getElem?_concat_length]
      rw [last] at opened ⊢
      exact ⟨_, rfl, Option.some.inj opened ▸ grown⟩
  | opens waiting =>
    refine ⟨session, ?_, .refl session⟩
    rw [session?, sessions, waiting, List.reverse_cons, sessions, List.reverse_cons]
    exact List.getElem?_append_left (List.getElem?_eq_some_iff.mp opened).1 ▸ opened
  | closes waiting =>
    refine ⟨session, ?_, .refl session⟩
    rw [← waiting, List.getElem?_append_left (by simpa using still)] at opened
    exact opened

namespace Course

variable {first middle last : Moment} {moments others : List Moment}

theorem append (begun : Course first moments middle) (later : Course middle others last) :
    Course first (moments ++ others) last := by
  induction begun with
  | done => exact later
  | next step _ inductionHypothesis => exact .next step (inductionHypothesis later)

theorem inside (course : Course first moments last) (outer : Session) :
    Course (first.inside outer) (moments.map (.inside outer)) (last.inside outer) := by
  induction course with
  | done => exact .done
  | next step _ inductionHypothesis => exact .next (step.inside outer) inductionHypothesis

/-- What comes between two moments of a course leads from the one to the other. -/
theorem between {before rest : List Moment} {earlier later : Moment}
    (course : Course first (before ++ earlier :: (moments ++ later :: rest)) last) :
    Course earlier (moments ++ [later]) later := by
  have begun {first : Moment} {moments rest : List Moment} {later : Moment}
      (course : Course first (moments ++ later :: rest) last) :
      Course first (moments ++ [later]) later ∧ Course later rest last := by
    induction moments generalizing first with
    | nil =>
      cases course with
      | next step later => exact ⟨.next step .done, later⟩
    | cons next moments inductionHypothesis =>
      cases course with
      | next step onward =>
        obtain ⟨reached, after⟩ := inductionHypothesis onward
        exact ⟨.next step reached, after⟩
  exact (begun (begun course).2).1

theorem grows (course : Course first moments last) {level : Nat} {session : Session}
    (opened : first.session? level = some session)
    (still : ∀ moment ∈ moments, level < moment.sessions.length) :
    ∃ grown, last.session? level = some grown ∧ session.Grows grown := by
  induction course generalizing session with
  | done => exact ⟨session, opened, .refl session⟩
  | next step _ inductionHypothesis =>
    obtain ⟨here, others⟩ := List.forall_mem_cons.mp still
    obtain ⟨onward, reached, first⟩ := step.grows opened here
    obtain ⟨grown, ended, second⟩ := inductionHypothesis reached others
    exact ⟨grown, ended, first.trans second⟩

end Course

end Moment

/-! ### What is asked of sessions -/

/-- Whether a session keeps a value with an identity. -/
def Session.Retains (session : Session) (identity : Identity) : Prop :=
  ∃ value ∈ session.retained, value.identity? = some identity

/-- Whether a session keeps a value, if that has an identity. -/
def Session.Keeps (session : Session) (value : Value) : Prop :=
  ∀ identity, value.identity? = some identity → session.Retains identity

/-- Whether all statements of an expression are fit. -/
def Code.Fits (code : Code) (fit : Deferred → Prop) : Prop :=
  ∀ statement ∈ code.statements, fit statement

namespace Code.Fits

variable {fit : Deferred → Prop}

theorem literal (scalar : Scalar) : Fits (.literal scalar) fit :=
  nofun

theorem rendered {statement : Deferred} (fits : fit statement) : Fits (.deferred statement) fit :=
  List.forall_mem_singleton.mpr fits

theorem noItem : Fits (.list []) fit :=
  nofun

theorem item {code : Code} {codes : List Code} (head : code.Fits fit)
    (tail : Fits (.list codes) fit) : Fits (.list (code :: codes)) fit :=
  List.forall_mem_append.mpr ⟨head, tail⟩

theorem noMethod (extended : DeclaredType) : Fits (.anonymous extended []) fit :=
  nofun

theorem method {extended : DeclaredType} {name : String} {returns : DeclaredType} {code : Code}
    {overrides : List (Override Deferred)} (head : code.Fits fit)
    (tail : Fits (.anonymous extended overrides) fit) :
    Fits (.anonymous extended (.returning name returns code :: overrides)) fit :=
  List.forall_mem_append.mpr ⟨head, tail⟩

end Code.Fits

/-- What is asked of sessions. -/
structure Upkeep where
  /-- Which statements may be embedded in what is recorded. -/
  fit : Deferred → Prop
  /-- What is asked of an expression that is known for an identity, where some values are kept. -/
  asks : List Value → Identity → Code → Prop
  /-- What is asked of the canned representations of all snapshots. -/
  admits : List Canned → Prop
  fit_rendered : ∀ node text, fit (.node (Node.complete node text))
  fits_of_asks : ∀ {retained identity code}, asks retained identity code → code.Fits fit
  asks_of_fits : ∀ {retained : List Value} {identity code},
    (∃ value ∈ retained, value.identity? = some identity) → code.Fits fit →
    asks retained identity code
  asks_of_subset : ∀ {retained more identity code}, retained ⊆ more →
    asks retained identity code → asks more identity code

variable {upkeep : Upkeep}

/-- Whether a session is as it is asked to be. -/
def Session.IsUpheld (session : Session) (upkeep : Upkeep) : Prop :=
  ∀ identity code, session.memo.find? identity = some code →
    upkeep.asks session.retained identity code

/-- Whether a state is as it is asked to be, and its session keeps some values. -/
structure Run.IsUpheld (run : Run) (upkeep : Upkeep) (kept : List Value) : Prop where
  session : run.session.IsUpheld upkeep
  keeps : ∀ value ∈ kept, run.session.Keeps value
  admits : upkeep.admits (run.world.snapshots.map Snapshot.canned)

theorem Session.Keeps.grows {earlier later : Session} {value : Value} (keeps : earlier.Keeps value)
    (grown : earlier.Grows later) : later.Keeps value := by
  intro identity identified
  obtain ⟨other, listed, same⟩ := keeps identity identified
  exact ⟨other, grown.retained listed, same⟩

/-- A value that is retained is kept. -/
theorem Session.keeps_retain (session : Session) (value : Value) :
    (session.retain value).Keeps value := by
  intro identity identified
  rw [Session.retain, identified, Option.isSome_some, if_pos rfl]
  exact ⟨value, List.mem_cons_self, identified⟩

theorem Session.empty_isUpheld : Session.empty.IsUpheld upkeep :=
  nofun

namespace Session.IsUpheld

variable {session : Session}

theorem of_memo_eq {other : Session} (upheld : session.IsUpheld upkeep)
    (same : other.memo = session.memo) (grown : session.retained ⊆ other.retained) :
    other.IsUpheld upkeep := by
  intro identity code found
  rw [same] at found
  exact upkeep.asks_of_subset grown (upheld identity code found)

theorem retain (upheld : session.IsUpheld upkeep) (value : Value) :
    (session.retain value).IsUpheld upkeep := by
  refine upheld.of_memo_eq ?_ (Session.Grows.retain session value).retained
  unfold Session.retain
  split <;> rfl

/-- An expression is recorded once it is made and a value with its identity is kept. -/
theorem record (upheld : session.IsUpheld upkeep) {identity : Identity} {code : Code}
    (retains : session.Retains identity) (fits : code.Fits upkeep.fit) :
    (session.record identity code).IsUpheld upkeep := by
  intro other found known
  rcases Memo.find?_record_iff.mp known with earlier | ⟨_, rfl, rfl⟩
  · exact upheld other found earlier
  · exact upkeep.asks_of_fits retains fits

end Session.IsUpheld

namespace Run.IsUpheld

variable {run after : Run} {kept : List Value}

/-- A state whose session has grown and whose snapshots have kept their canned representations. -/
theorem of_grows (upheld : run.IsUpheld upkeep kept) (session : after.session.IsUpheld upkeep)
    (grown : run.session.Grows after.session)
    (same : after.world.snapshots.map Snapshot.canned = run.world.snapshots.map Snapshot.canned) :
    after.IsUpheld upkeep kept where
  session := session
  keeps value member := (upheld.keeps value member).grows grown
  admits := same ▸ upheld.admits

theorem keeping (upheld : run.IsUpheld upkeep kept) {value : Value}
    (keeps : run.session.Keeps value) : run.IsUpheld upkeep (value :: kept) where
  session := upheld.session
  keeps := List.forall_mem_cons.mpr ⟨keeps, upheld.keeps⟩
  admits := upheld.admits

theorem of_cons {value : Value} (upheld : run.IsUpheld upkeep (value :: kept)) :
    run.IsUpheld upkeep kept where
  session := upheld.session
  keeps := (List.forall_mem_cons.mp upheld.keeps).2
  admits := upheld.admits

end Run.IsUpheld

/-! ### Walks that uphold it -/

/-- A watched walk upholds what is asked from a state on: its moments lead one by one to the state
in which it ends, every session that is open at one of them is as it is asked to be, and the values
that were kept are kept. -/
structure Watched.Upholds {α : Type} (watched : Watched α) (upkeep : Upkeep) (kept : List Value)
    (run : Run) (answers : α → Run → Prop) : Prop where
  course : Moment.Course (.only run) (watched.moments run) (.only (watched.walk.last run))
  moments : ∀ moment ∈ watched.moments run, ∀ session ∈ moment.sessions, session.IsUpheld upkeep
  last : (watched.walk.last run).IsUpheld upkeep kept
  answered : ∀ {answer after}, watched.walk run = .ok answer after → answers answer after

/-- A way to render nodes upholds what is asked. -/
def WatchedAttempt.Upholds (attempt : WatchedAttempt) (upkeep : Upkeep) : Prop :=
  ∀ ⦃kept run⦄ ledger node registry, run.IsUpheld upkeep kept →
    (attempt ledger node registry).Upholds upkeep kept run fun _ _ => True

/-- Printing an expression of fit statements upholds what is asked. -/
def WatchedAttempt.Prints (attempt : WatchedAttempt) (upkeep : Upkeep) : Prop :=
  ∀ ⦃kept run⦄ registry (code : Code), run.IsUpheld upkeep kept → code.Fits upkeep.fit →
    (code.source (Watched.generate attempt registry)).Upholds upkeep kept run fun _ _ => True

namespace Watched

namespace Upholds

variable {α β : Type} {watched : Watched α} {kept : List Value} {run after : Run}
  {answers between : α → Run → Prop} {results : β → Run → Prop}

/-- A walk that ends in the state in which it began. -/
theorem resting {walk : Walk α} (upheld : run.IsUpheld upkeep kept) (same : walk.last run = run)
    (answered : ∀ {answer after}, walk run = .ok answer after → answers answer after) :
    (still walk).Upholds upkeep kept run answers where
  course := by
    show Moment.Course _ [] (.only (walk.last run))
    rw [same]
    exact .done
  moments := nofun
  last := by
    show (walk.last run).IsUpheld upkeep kept
    rwa [same]
  answered := answered

theorem given {answer : α} (upheld : run.IsUpheld upkeep kept) (answered : answers answer run) :
    (pure answer : Watched α).Upholds upkeep kept run answers := by
  refine resting upheld rfl fun same => ?_
  cases same
  exact answered

theorem failing (report : Report) (upheld : run.IsUpheld upkeep kept) :
    (fail report : Watched α).Upholds upkeep kept run answers :=
  resting upheld rfl nofun

/-- A walk of one step. -/
theorem single {walk : Walk α} (grown : run.session.Grows (walk.last run).session)
    (last : (walk.last run).IsUpheld upkeep kept)
    (answered : ∀ {answer after}, walk run = .ok answer after → answers answer after) :
    (step walk).Upholds upkeep kept run answers where
  course := .next (.onward rfl grown) .done
  moments := by
    intro moment member session opened
    rw [List.mem_singleton.mp member] at opened
    rw [List.mem_singleton.mp opened]
    exact last.session
  last := last
  answered := answered

/-- A walk may look at the state that it begins in. -/
theorem looking {next : Run → Watched β} (later : (next run).Upholds upkeep kept run results) :
    (look >>= next).Upholds upkeep kept run results :=
  ⟨later.course, later.moments, later.last, later.answered⟩

/-- A walk that goes through some moments and then goes on as another one. -/
theorem followed {whole rest : Watched β} {begun : List Moment}
    (course : Moment.Course (.only run) begun (.only after))
    (moments : ∀ moment ∈ begun, ∀ session ∈ moment.sessions, session.IsUpheld upkeep)
    (later : rest.Upholds upkeep kept after results) (same : whole.walk run = rest.walk after)
    (listed : whole.moments run = begun ++ rest.moments after) :
    whole.Upholds upkeep kept run results := by
  have finish : whole.walk.last run = rest.walk.last after := by
    rw [Walk.last, Walk.last, same]
  constructor
  · rw [listed, finish]
    exact course.append later.course
  · rw [listed]
    exact List.forall_mem_append.mpr ⟨moments, later.moments⟩
  · rw [finish]
    exact later.last
  · intro answer final arrived
    exact later.answered (same.symm.trans arrived)

theorem bind {next : α → Watched β} (first : watched.Upholds upkeep kept run between)
    (later : ∀ {answer after}, between answer after → after.IsUpheld upkeep kept →
      (next answer).Upholds upkeep kept after results) :
    (watched >>= next).Upholds upkeep kept run results := by
  obtain ⟨course, moments, last, answered⟩ := first
  have listed : (watched >>= next).moments run =
      watched.moments run ++ following next (watched.walk run) := rfl
  cases ended : watched.walk run with
  | ok answer after =>
    rw [Walk.last_ok ended] at course last
    rw [ended] at listed
    exact followed course moments (later (answered ended) last) (Walk.bind_ok ended) listed
  | error stop after =>
    rw [Walk.last_error ended] at course last
    rw [ended] at listed
    have stopped : (still (throw stop) : Watched β).Upholds upkeep kept after results :=
      resting last rfl nofun
    exact followed course moments stopped (Walk.bind_error ended) listed

/-- What is kept more than has to be does no harm. -/
theorem of_cons (value : Value) (upholds : watched.Upholds upkeep (value :: kept) run answers) :
    watched.Upholds upkeep kept run answers :=
  ⟨upholds.course, upholds.moments, upholds.last.of_cons, upholds.answered⟩

theorem annotatedAfter (upholds : watched.Upholds upkeep kept run answers)
    (note : Run → Report → Report) :
    (annotatedAfter note watched).Upholds upkeep kept run answers where
  course := by
    show Moment.Course _ _ (.only ((Walk.annotatedAfter note watched.walk).last run))
    rw [Walk.last_annotatedAfter]
    exact upholds.course
  moments := upholds.moments
  last := by
    show ((Walk.annotatedAfter note watched.walk).last run).IsUpheld upkeep kept
    rw [Walk.last_annotatedAfter]
    exact upholds.last
  answered := by
    intro answer after ended
    cases own : watched.walk run with
    | ok found final =>
      have same := (Walk.annotatedAfter_ok own).symm.trans ended
      cases same
      exact upholds.answered own
    | error stop final =>
      have same := (Walk.annotatedAfter_error own).symm.trans ended
      cases same

/-- An object leaves the chain, however the walk has ended. -/
theorem leaving (upholds : watched.Upholds upkeep kept run between) (identity : Identity) :
    (ensuring (fun run => { run with session := run.session.leave identity }) watched).Upholds
      upkeep kept run fun _ _ => True := by
  have grown : (watched.walk.last run).session.Grows
      ((watched.walk.last run).session.leave identity) := ⟨id, List.Subset.refl _⟩
  have left : Run.IsUpheld { watched.walk.last run with
      session := (watched.walk.last run).session.leave identity } upkeep kept :=
    upholds.last.of_grows upholds.last.session grown rfl
  constructor
  · show Moment.Course _ _ (.only ((Walk.ensuring _ watched.walk).last run))
    rw [Walk.last_ensuring]
    exact upholds.course.append (.next (.onward rfl grown) .done)
  · refine List.forall_mem_append.mpr ⟨upholds.moments, List.forall_mem_singleton.mpr ?_⟩
    exact List.forall_mem_singleton.mpr left.session
  · show ((Walk.ensuring _ watched.walk).last run).IsUpheld upkeep kept
    rwa [Walk.last_ensuring]
  · exact fun _ => trivial

/-- A failure is handled. -/
theorem handling {handle : Stop → Watched α} (upholds : watched.Upholds upkeep kept run answers)
    (again : ∀ stop {after}, after.IsUpheld upkeep kept →
      (handle stop).Upholds upkeep kept after answers) :
    (handling watched handle).Upholds upkeep kept run answers := by
  obtain ⟨course, moments, last, answered⟩ := upholds
  cases ended : watched.walk run with
  | ok answer after =>
    rw [Walk.last_ok ended] at course last
    have settled : (pure answer : Watched α).Upholds upkeep kept after answers :=
      given last (answered ended)
    refine followed course moments settled (Walk.tryCatch_ok ended) ?_
    show watched.moments run ++ _ = _
    rw [ended]
    rfl
  | error stop after =>
    rw [Walk.last_error ended] at course last
    refine followed course moments (again stop last) (Walk.tryCatch_error ended) ?_
    show watched.moments run ++ _ = _
    rw [ended]

/-- A session is opened, and closed again; the one at hand waits for it. -/
theorem inSession {session : Session} (upheld : run.IsUpheld upkeep kept)
    (opened : session.IsUpheld upkeep)
    (upholds : watched.Upholds upkeep [] { run with session } between) :
    (inSession session watched).Upholds upkeep kept run fun _ _ => True := by
  obtain ⟨course, moments, last, -⟩ := upholds
  have finish : (Walk.inSession session watched.walk).last run =
      { watched.walk.last { run with session } with session := run.session } :=
    Walk.last_inSession session watched.walk run
  have closed : ((Walk.inSession session watched.walk).last run).IsUpheld upkeep kept := by
    rw [finish]
    exact ⟨upheld.session, upheld.keeps, last.admits⟩
  constructor
  · refine .next (.opens rfl) ((course.inside run.session).append (.next (.closes ?_) .done))
    show [((Walk.inSession session watched.walk).last run).session] = [run.session]
    rw [finish]
  · intro moment member
    rcases List.mem_cons.mp member with rfl | inner
    · exact List.forall_mem_cons.mpr ⟨opened, List.forall_mem_singleton.mpr upheld.session⟩
    · rcases List.mem_append.mp inner with within | after
      · obtain ⟨own, listed, rfl⟩ := List.mem_map.mp within
        show ∀ session ∈ own.sessions ++ [run.session], session.IsUpheld upkeep
        exact List.forall_mem_append.mpr
          ⟨moments own listed, List.forall_mem_singleton.mpr upheld.session⟩
      · rw [List.mem_singleton.mp after]
        exact List.forall_mem_singleton.mpr closed.session
  · exact closed
  · exact fun _ => trivial

end Upholds

/-! ### Single steps -/

section Steps

variable {kept : List Value} {run : Run}

theorem retain_upholds (upheld : run.IsUpheld upkeep kept) (value : Value) :
    (step (Walk.retain value)).Upholds upkeep kept run
      fun _ after => after.session.Keeps value := by
  have grown := Session.Grows.retain run.session value
  refine .single grown (upheld.of_grows (upheld.session.retain value) grown rfl) fun ended => ?_
  cases ended
  exact Session.keeps_retain run.session value

theorem record_upholds (upheld : run.IsUpheld upkeep kept) {value : Value} (member : value ∈ kept)
    {identity : Identity} (identified : value.identity? = some identity) {code : Code}
    (fits : code.Fits upkeep.fit) :
    (step (Walk.record identity code)).Upholds upkeep kept run fun _ _ => True := by
  have grown := Session.Grows.record run.session identity code
  have retains := upheld.keeps value member identity identified
  exact .single grown (upheld.of_grows (upheld.session.record retains fits) grown rfl)
    fun _ => trivial

/-- `Watched.record_upholds` for a value of any kind. -/
theorem recordFor_upholds (upheld : run.IsUpheld upkeep kept) {value : Value}
    (member : value ∈ kept) {code : Code} (fits : code.Fits upkeep.fit) :
    (recordFor value code).Upholds upkeep kept run fun code _ => code.Fits upkeep.fit := by
  unfold recordFor
  cases identified : value.identity? with
  | none => exact .given upheld fits
  | some identity =>
    exact (record_upholds upheld member identified fits).bind fun _ noted => .given noted fits

theorem enter_upholds (upheld : run.IsUpheld upkeep kept) (node : Node) :
    (step node.enter).Upholds upkeep kept run fun _ _ => True := by
  have entered := node.enter_run run
  split at entered
  · have same : node.enter.last run = run := Walk.last_error entered
    refine .single ?_ (by rwa [same]) fun _ => trivial
    rw [same]
    exact .refl _
  · have same : node.enter.last run = run.enter node.object node.target := Walk.last_ok entered
    have grown : run.session.Grows (run.enter node.object node.target).session :=
      ⟨id, List.Subset.refl _⟩
    refine .single ?_ ?_ fun _ => trivial
    · rwa [same]
    · rw [same]
      exact upheld.of_grows upheld.session grown rfl

/-- A change of a snapshot that leaves its canned representations. -/
theorem onSnapshot_upholds (upheld : run.IsUpheld upkeep kept) (number : Nat)
    (change : Snapshot → Snapshot) (same : ∀ snapshot, (change snapshot).canned = snapshot.canned) :
    (step (Walk.onSnapshot number change)).Upholds upkeep kept run fun _ _ => True := by
  refine .single (.refl _) (upheld.of_grows upheld.session (.refl _) ?_) fun _ => trivial
  refine List.ext_getElem? fun position => ?_
  show ((run.world.snapshots.modify number change).map Snapshot.canned)[position]? = _
  rw [List.getElem?_map, List.getElem?_map, List.getElem?_modify]
  cases run.world.snapshots[position]? with
  | none => rfl
  | some snapshot => by_cases own : number = position <;> simp [own, same]

theorem invoke_upholds (upheld : run.IsUpheld upkeep kept) (heap : Heap) (object : LiveObject)
    (accessor : String) :
    (step (Walk.invoke heap object accessor)).Upholds upkeep kept run fun _ _ => True := by
  cases replied : heap.reply run.world object.identity accessor with
  | mk outcome allocated =>
    have same : (Walk.invoke heap object accessor).last run =
        run.note ⟨object.identity, accessor, outcome⟩ allocated := by
      cases outcome with
      | error fault => exact Walk.last_ok (Walk.invoke_error replied)
      | ok value => exact Walk.last_ok (Walk.invoke_ok replied)
    refine .single ?_ ?_ fun _ => trivial
    · rw [same]
      exact .refl _
    · rw [same]
      exact upheld.of_grows upheld.session (.refl _) rfl

theorem ledger_upholds (upheld : run.IsUpheld upkeep kept) (ledger : Ledger) (method : Method)
    (value : Value) :
    (step (ledger.record method value)).Upholds upkeep kept run fun _ _ => True := by
  cases ledger with
  | own origins => exact .single (.refl _) upheld fun _ => trivial
  | ofSnapshot number =>
    have changed := onSnapshot_upholds upheld number
      (fun snapshot => { snapshot with origins := snapshot.origins.recordValue method value })
      fun _ => rfl
    exact .single (.refl _) changed.last fun _ => trivial

end Steps

/-! ### The walks of the library -/

section Parts

variable {attempt : WatchedAttempt} {kept : List Value} {run : Run}

theorem renderFresh_upholds (attempts : attempt.Upholds upkeep) (upheld : run.IsUpheld upkeep kept)
    (node : Node) (registry : Registry) :
    (renderFresh attempt node registry).Upholds upkeep kept run fun _ _ => True :=
  (enter_upholds upheld node).bind fun _ entered => attempts .empty node registry entered

/-- An object is recorded once it is rendered; it is kept since it was met. -/
theorem expandObject_upholds (attempts : attempt.Upholds upkeep)
    (upheld : run.IsUpheld upkeep kept) (registry : Registry) (expansions : Expansions)
    {object : LiveObject} (member : .object object ∈ kept) (target : Target) :
    (expandObject attempt registry expansions object target).Upholds upkeep kept run
      fun code _ => code.Fits upkeep.fit := by
  refine .looking ?_
  cases found : run.session.memo.find? object.identity with
  | some code => exact .given upheld (upkeep.fits_of_asks (upheld.session _ _ found))
  | none =>
    cases built : Node.build object target expansions with
    | error report => exact .failing report upheld
    | ok node =>
      refine (renderFresh_upholds attempts upheld node registry).bind fun {text _} _ rendered => ?_
      have fits : Code.Fits (.deferred (.node (node.complete text))) upkeep.fit :=
        .rendered (upkeep.fit_rendered node text)
      exact (record_upholds rendered member rfl fits).bind fun _ recorded => .given recorded fits

mutual

theorem value_upholds (attempts : attempt.Upholds upkeep) (registry : Registry)
    (expansions : Expansions) (declared : Option DeclaredType) : (value : Value) →
    {kept : List Value} → {run : Run} → run.IsUpheld upkeep kept → value ∈ kept →
    (Watched.value (expandObject attempt registry expansions) registry expansions declared
      value).Upholds upkeep kept run fun code _ => code.Fits upkeep.fit
  | .scalar scalar, _, _, upheld, _ => .given upheld (.literal scalar)
  | .list identity items, kept, run, upheld, member => by
    rw [Watched.value]
    refine .looking ?_
    cases found : run.session.memo.find? identity with
    | some code => exact .given upheld (upkeep.fits_of_asks (upheld.session _ _ found))
    | none =>
      have makes := allItems_upholds attempts registry expansions items upheld
      refine makes.bind fun fits written => ?_
      exact (record_upholds written member rfl fits).bind fun _ recorded => .given recorded fits
  | .object live, kept, run, upheld, member => by
    rw [Watched.value]
    refine .looking ?_
    cases found : run.session.memo.find? live.identity with
    | some code => exact .given upheld (upkeep.fits_of_asks (upheld.session _ _ found))
    | none =>
      cases Encode.targetFor? registry expansions declared live.runtime with
      | none => exact .failing _ upheld
      | some target => exact expandObject_upholds attempts upheld registry expansions member target

/-- An item is kept before it is written. -/
theorem allItems_upholds (attempts : attempt.Upholds upkeep) (registry : Registry)
    (expansions : Expansions) : (items : List Value) → {kept : List Value} → {run : Run} →
    run.IsUpheld upkeep kept →
    (allItems (expandObject attempt registry expansions) registry expansions items).Upholds upkeep
      kept run fun codes _ => Code.Fits (.list codes) upkeep.fit
  | [], _, _, upheld => .given upheld .noItem
  | first :: rest, kept, run, upheld => by
    rw [allItems]
    refine (retain_upholds upheld first).bind fun keeps retained => .of_cons first ?_
    refine (value_upholds attempts registry expansions none first (retained.keeping keeps)
      List.mem_cons_self).bind fun head written => ?_
    refine (allItems_upholds attempts registry expansions rest written).bind fun tail others => ?_
    exact .given others (.item head tail)

end

/-- An answer is kept as soon as it is there. -/
theorem answer_upholds (upheld : run.IsUpheld upkeep kept) (heap : Heap) (node : Node)
    (method : Method) :
    (answer heap node method).Upholds upkeep kept run fun value after =>
      after.session.Keeps value := by
  refine (invoke_upholds upheld heap node.object method.name).bind fun {outcome _} _ invoked => ?_
  cases outcome with
  | error fault => exact .failing _ invoked
  | ok value =>
    refine (retain_upholds invoked value).bind fun keeps retained => ?_
    exact .given retained keeps

theorem express_upholds (attempts : attempt.Upholds upkeep) (upheld : run.IsUpheld upkeep kept)
    (node : Node) (registry inner : Registry) (declared : DeclaredType) {value : Value}
    (member : value ∈ kept) :
    (express attempt node registry inner declared value).Upholds upkeep kept run
      fun code _ => code.Fits upkeep.fit := by
  refine .looking ?_
  cases routed : Route.choose registry node.expansions run.session declared value with
  | error report => exact .failing report upheld
  | ok route =>
    have recorded {made : Watched Code}
        (makes : made.Upholds upkeep kept run fun code _ => code.Fits upkeep.fit) :
        (made >>= recordFor value).Upholds upkeep kept run fun code _ => code.Fits upkeep.fit :=
      makes.bind fun fits written => recordFor_upholds written member fits
    rw [lift_ok]
    cases route with
    | null => exact recorded (.given upheld (.literal .null))
    | known code =>
      obtain ⟨identity, _, found⟩ := Route.known_of_choose routed
      exact recorded (.given upheld (upkeep.fits_of_asks (upheld.session _ _ found)))
    | literal =>
      exact recorded
        (value_upholds attempts inner node.expansions (some declared) value upheld member)
    | expand target =>
      cases value with
      | scalar scalar => exact recorded (.failing _ upheld)
      | list identity items => exact recorded (.failing _ upheld)
      | object live =>
        exact recorded
          (expandObject_upholds attempts upheld inner node.expansions member target)

theorem overrides_upholds (attempts : attempt.Upholds upkeep) (heap : Heap) (node : Node)
    (registry inner : Registry) (extended : DeclaredType) (methods : List Method) :
    (ledger : Ledger) → {kept : List Value} → {run : Run} → run.IsUpheld upkeep kept →
    (overrides heap attempt node registry inner ledger methods).Upholds upkeep kept run
      fun overrides _ => Code.Fits (.anonymous extended overrides) upkeep.fit := by
  induction methods with
  | nil => exact fun _ _ _ upheld => .given upheld (.noMethod extended)
  | cons method rest inductionHypothesis =>
    intro ledger kept run upheld
    rw [overrides]
    split
    · refine (inductionHypothesis ledger upheld).bind fun fits others => ?_
      exact .given others fits
    · refine ((answer_upholds upheld heap node method).annotatedAfter _).bind
        fun {value _} keeps answered => .of_cons value ?_
      have held := answered.keeping keeps
      refine (ledger_upholds held ledger method value).bind fun {ledger _} _ noted => ?_
      refine ((express_upholds attempts noted node registry inner method.returns
        List.mem_cons_self).annotatedAfter _).bind fun head written => ?_
      refine (inductionHypothesis ledger written).bind fun tail others => ?_
      exact .given others (.method head tail)

theorem classSource_upholds (attempts : attempt.Upholds upkeep) (prints : attempt.Prints upkeep)
    (upheld : run.IsUpheld upkeep kept) (heap : Heap) (ledger : Ledger) (node : Node)
    (registry : Registry) :
    (classSource heap attempt ledger node registry).Upholds upkeep kept run fun _ _ => True :=
  (overrides_upholds attempts heap node registry _ node.target.declaredType node.accessors ledger
    upheld).bind fun fits written => prints _ _ written fits

end Parts

/-- Where printing upholds what is asked, so does the rendering of nodes with any fuel. -/
theorem attempt_upholds (heap : Heap)
    (prints : ∀ ⦃attempt : WatchedAttempt⦄, attempt.Upholds upkeep → attempt.Prints upkeep)
    (fuel : Nat) : WatchedAttempt.Upholds (attempt heap fuel) upkeep := by
  induction fuel with
  | zero => exact fun _ _ _ _ _ upheld => .resting upheld rfl nofun
  | succ fuel inductionHypothesis =>
    intro kept run ledger node registry upheld
    refine .annotatedAfter ?_ _
    refine ((classSource_upholds inductionHypothesis (prints inductionHypothesis) upheld heap ledger
      node registry).leaving _).bind fun _ written => ?_
    exact .given written trivial

section Whole

variable {attempt : WatchedAttempt} {kept : List Value} {run : Run}

theorem renderRoot_upholds (attempts : attempt.Upholds upkeep) (upheld : run.IsUpheld upkeep kept)
    (number : Nat) (registry : Registry) :
    (renderRoot attempt number registry).Upholds upkeep kept run fun _ _ => True := by
  have changed {kept : List Value} {run : Run} (upheld : run.IsUpheld upkeep kept)
      (change : Node → Node) :
      (step (Walk.onRoot number change)).Upholds upkeep kept run fun _ _ => True :=
    onSnapshot_upholds upheld number _ fun _ => rfl
  refine .looking ?_
  split
  · exact .failing _ upheld
  · rename_i snapshot _
    dsimp only
    split
    · exact .given upheld trivial
    · exact .failing _ upheld
    · refine (enter_upholds upheld snapshot.root).bind fun _ entered => ?_
      refine (changed entered Node.start).bind fun _ started => ?_
      refine .bind (.handling (attempts _ _ _ started) fun _ _ failed => ?_)
        fun {text _} _ ended => ?_
      · exact (changed failed Node.fail).bind fun _ noted => .resting noted rfl nofun
      · exact (changed ended (·.complete text)).bind fun _ noted => .looking (.given noted trivial)

/-- A snapshot is rendered in a session that knows its canned representations. -/
theorem snapshotText_upholds (attempts : attempt.Upholds upkeep)
    (upheld : run.IsUpheld upkeep kept) (number : Nat)
    (opens : ∀ snapshot, run.world.snapshots[number]? = some snapshot →
      (Session.opening snapshot.canned).IsUpheld upkeep) (registry : Registry) :
    (snapshotText attempt number registry).Upholds upkeep kept run fun _ _ => True := by
  refine .looking ?_
  cases placed : run.world.snapshots[number]? with
  | none => exact .failing _ upheld
  | some snapshot =>
    dsimp only
    cases snapshot.root.cached with
    | some text => exact .given upheld trivial
    | none =>
      have opened := opens snapshot placed
      have begun : Run.IsUpheld ⟨run.world, .opening snapshot.canned⟩ upkeep [] :=
        ⟨opened, List.forall_mem_nil _, upheld.admits⟩
      exact .inSession upheld opened (renderRoot_upholds attempts begun number registry)

theorem literalText_upholds (attempts : attempt.Upholds upkeep) (prints : attempt.Prints upkeep)
    (upheld : run.IsUpheld upkeep kept) (value : Value) (registry : Registry) :
    (literalText attempt value registry).Upholds upkeep kept run fun _ _ => True := by
  refine (retain_upholds upheld value).bind fun keeps retained => .of_cons value ?_
  refine (value_upholds attempts registry .none none value (retained.keeping keeps)
    List.mem_cons_self).bind fun fits written => ?_
  refine (prints registry _ written fits).bind fun _ printed => ?_
  exact .given printed trivial

end Whole

end Watched

end FrozenGraph
