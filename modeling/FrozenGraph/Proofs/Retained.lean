/-
This file shows that no identity that a session knows can come to belong to something else. At every
moment of a run, and for every session that is open then, each identity with an expression is that
of a value that the session keeps: a canned key, an answer, an item of a list, or the value that is
written. The session keeps it as long as it is open, so nothing that comes into being later can get
that identity. Nothing is asked of the expressions, statements that open sessions of their own among
them.
-/

import FrozenGraph.Proofs.Upheld

namespace FrozenGraph

/-! ### Canned representations -/

namespace Canned

/-- Whether each key is the identity of the value that it was taken from. -/
def IsKeyed (canned : Canned) : Prop :=
  ∀ entry ∈ canned.entries, entry.2.1.identity? = some entry.1

theorem empty_isKeyed : empty.IsKeyed :=
  nofun

theorem IsKeyed.put {canned : Canned} (keyed : canned.IsKeyed) {identity : Identity} {key : Value}
    (identified : key.identity? = some identity) (code : Code) :
    (canned.put identity key code).IsKeyed := by
  refine List.forall_mem_append.mpr ⟨fun entry member => ?_, ?_⟩
  · exact keyed entry (List.mem_filter.mp member).1
  · exact List.forall_mem_singleton.mpr identified

theorem IsKeyed.insert {canned : Canned} (keyed : canned.IsKeyed) (object : LiveObject)
    (code : Code) : (canned.insert object code).IsKeyed :=
  keyed.put rfl code

theorem IsKeyed.insertValue {canned other : Canned} (keyed : canned.IsKeyed) {key : Value}
    {code : Code} (inserted : canned.insertValue key code = .ok other) : other.IsKeyed := by
  unfold Canned.insertValue at inserted
  split at inserted
  · rename_i identified
    cases inserted
    exact keyed.put identified code
  · cases inserted

end Canned

/-! ### Sessions that keep what they know -/

/-- What is asked of a session: it keeps a value with each identity that it knows. -/
def Upkeep.retention : Upkeep where
  fit _ := True
  asks retained identity _ := ∃ value ∈ retained, value.identity? = some identity
  admits tables := ∀ canned ∈ tables, canned.IsKeyed
  fit_rendered _ _ := trivial
  fits_of_asks _ _ _ := trivial
  asks_of_fits retains _ := retains
  asks_of_subset more retains := by
    obtain ⟨value, listed, identified⟩ := retains
    exact ⟨value, more listed, identified⟩

/-- A session that opens keeps the keys of what it knows. -/
theorem Session.opening_retains {canned : Canned} (keyed : canned.IsKeyed) :
    (opening canned).IsUpheld .retention := by
  have equipped (entries : List (Identity × Value × Code)) {session : Session}
      (upheld : session.IsUpheld .retention)
      (keyed : ∀ entry ∈ entries, entry.2.1.identity? = some entry.1) :
      (entries.foldl equip session).IsUpheld .retention := by
    induction entries generalizing session with
    | nil => exact upheld
    | cons entry rest inductionHypothesis =>
      obtain ⟨own, others⟩ := List.forall_mem_cons.mp keyed
      have kept : Session.IsUpheld { session with retained := entry.2.1 :: session.retained }
          .retention := upheld.of_memo_eq rfl (List.subset_cons_self _ _)
      exact inductionHypothesis
        (kept.record ⟨entry.2.1, List.mem_cons_self, own⟩ fun _ _ => trivial) others
  rw [opening_eq]
  exact equipped canned.entries empty_isUpheld keyed

/-! ### Printing -/

namespace Watched

variable {attempt : WatchedAttempt} {kept : List Value} {run : Run}

/-- A statement may open a session of its own; that keeps what it knows as well. -/
theorem generate_retains (attempts : attempt.Upholds .retention)
    (upheld : run.IsUpheld .retention kept) (registry : Registry) (statement : Deferred) :
    (generate attempt registry statement).Upholds .retention kept run fun _ _ => True := by
  cases statement with
  | text content => exact .given upheld trivial
  | failing details => exact .failing _ upheld
  | node planned =>
    rw [generate]
    split
    · exact .given upheld trivial
    · have begun : Run.IsUpheld ⟨run.world, .empty⟩ .retention [] :=
        ⟨Session.empty_isUpheld, List.forall_mem_nil _, upheld.admits⟩
      exact .inSession upheld Session.empty_isUpheld
        (renderFresh_upholds attempts begun planned registry)
  | snapshot number =>
    refine snapshotText_upholds attempts upheld number (fun snapshot placed => ?_) registry
    exact Session.opening_retains
      (upheld.admits _ (List.mem_map_of_mem (List.mem_of_getElem? placed)))

end Watched

theorem WatchedAttempt.prints_retaining {attempt : WatchedAttempt}
    (attempts : attempt.Upholds .retention) : attempt.Prints .retention := by
  intro kept run registry code upheld _
  have printed := Expr.source_induction
    (fun watched : Watched String => ∀ ⦃run⦄, run.IsUpheld .retention kept →
      watched.Upholds .retention kept run fun _ _ => True)
    (fun text _ upheld => .given upheld trivial)
    (fun first later _ upheld => (first upheld).bind fun _ onward => later _ onward)
    (fun statement _ upheld => Watched.generate_retains attempts upheld registry statement) code
  exact printed upheld

/-! ### Every moment -/

/-- No identity that is known in a watched walk can pass on to something else. -/
structure Watched.RetainsKnown {α : Type} (watched : Watched α) (run : Run) : Prop where
  /-- The moments lead one by one to the state in which the walk ends. -/
  course : Moment.Course (.only run) (watched.moments run) (.only (watched.walk.last run))
  /-- At each moment every open session keeps a value with each identity that it knows. -/
  retains : ∀ moment ∈ watched.moments run, ∀ session ∈ moment.sessions, ∀ identity code,
    session.memo.find? identity = some code → session.Retains identity
  /-- So a session does not know what comes into being at a moment, where the identities of values
  that it keeps are not given away again. -/
  unknown : ∀ moment ∈ watched.moments run, ∀ session ∈ moment.sessions, ∀ identity,
    ¬ session.Retains identity → session.memo.find? identity = none
  /-- What a session knows at one moment it knows at each later one before it is closed, and still
  keeps a value with that identity. -/
  lasts : ∀ {before earlier between later rest level session},
    watched.moments run = before ++ earlier :: (between ++ later :: rest) →
    earlier.session? level = some session →
    (∀ moment ∈ between ++ [later], level < moment.sessions.length) →
    ∃ grown, later.session? level = some grown ∧ ∀ identity code,
      session.memo.find? identity = some code →
        grown.memo.find? identity = some code ∧ grown.Retains identity

/-- A walk that upholds retention lets no identity go that it knows. -/
theorem Watched.Upholds.retainsKnown {α : Type} {watched : Watched α} {kept : List Value}
    {run : Run} {answers : α → Run → Prop}
    (upholds : watched.Upholds .retention kept run answers) : watched.RetainsKnown run where
  course := upholds.course
  retains := upholds.moments
  unknown := by
    intro moment listed session opened identity released
    refine Option.eq_none_iff_forall_ne_some.mpr fun code known => released ?_
    exact upholds.moments moment listed session opened identity code known
  lasts := by
    intro before earlier between later rest level session split opened still
    have course := upholds.course
    rw [split] at course
    obtain ⟨grown, reached, grows⟩ := course.between.grows opened still
    have listed : later ∈ watched.moments run := by simp [split]
    have here : grown ∈ later.sessions :=
      List.mem_reverse.mp (List.mem_of_getElem? reached)
    refine ⟨grown, reached, fun identity code found => ?_⟩
    have known := grows.known found
    exact ⟨known, upholds.moments later listed grown here identity code known⟩

namespace Heap

/-- No known identity goes stale, neither in the rendering of a snapshot nor in the writing of a
literal: whatever the heap answers, whatever stands in for its objects, and however the run ends. -/
theorem retains_known (heap : Heap) (world : World) (registry : Registry)
    (keyed : ∀ snapshot ∈ world.snapshots, snapshot.canned.IsKeyed) :
    (∀ number, heap.render world number registry =
        perform world .empty (heap.watchedRender world number registry).walk ∧
      (heap.watchedRender world number registry).RetainsKnown ⟨world, .empty⟩) ∧
    ∀ value, heap.load world value registry =
        perform world .empty (heap.watchedLoad world value registry).walk ∧
      (heap.watchedLoad world value registry).RetainsKnown ⟨world, .empty⟩ := by
  have begun : Run.IsUpheld ⟨world, .empty⟩ .retention [] :=
    ⟨Session.empty_isUpheld, List.forall_mem_nil _, List.forall_mem_map.mpr keyed⟩
  have attempts : WatchedAttempt.Upholds (Watched.attempt heap (heap.fuel world)) .retention :=
    Watched.attempt_upholds heap (fun _ attempts => WatchedAttempt.prints_retaining attempts)
      (heap.fuel world)
  constructor
  · intro number
    refine ⟨heap.render_eq_watched world number registry, ?_⟩
    refine (Watched.snapshotText_upholds attempts begun number (fun snapshot placed => ?_)
      registry).retainsKnown
    exact Session.opening_retains (keyed snapshot (List.mem_of_getElem? placed))
  · intro value
    refine ⟨heap.load_eq_watched world value registry, ?_⟩
    exact (Watched.literalText_upholds attempts (WatchedAttempt.prints_retaining attempts) begun
      value registry).retainsKnown

end Heap

/-! ### A session that waits for another one -/

namespace Twins

/-- The leaf, planned by itself. -/
def leafSnapshot : Snapshot where
  root := ⟨leafObject, leaf, leaf.methods, .none, .pending, none⟩
  canned := .empty
  origins := .empty

/-- The leaf is the snapshot of it, which is rendered when it is printed. -/
def leafTable : Canned :=
  Canned.empty.insert leafObject (.deferred (.snapshot 1))

/-- Nothing has happened but the planning of both. -/
def plannedWorld : World :=
  { World.initial with snapshots := [{ snapshot with canned := leafTable }, leafSnapshot] }

theorem isKeyed : ∀ snapshot ∈ plannedWorld.snapshots, snapshot.canned.IsKeyed :=
  List.forall_mem_cons.mpr ⟨Canned.empty_isKeyed.insert _ _,
    List.forall_mem_singleton.mpr Canned.empty_isKeyed⟩

theorem exists_waiting :
    ∃ moment ∈ (heap.watchedRender plannedWorld 0 .root).moments ⟨plannedWorld, .empty⟩,
      moment.run.session.chain.contains leafObject.identity ∧ ∃ session ∈ moment.waiting,
        ∃ code, session.memo.find? leafObject.identity = some code := by
  have found : ((heap.watchedRender plannedWorld 0 .root).moments ⟨plannedWorld, .empty⟩).any
      (fun moment => moment.run.session.chain.contains leafObject.identity &&
        moment.waiting.any (·.memo.knows leafObject.identity)) = true := by
    decide +kernel
  obtain ⟨moment, listed, both⟩ := List.any_eq_true.mp found
  obtain ⟨busy, waits⟩ := Bool.and_eq_true_iff.mp both
  obtain ⟨session, waiting, known⟩ := List.any_eq_true.mp waits
  exact ⟨moment, listed, busy, session, waiting, Option.isSome_iff_exists.mp known⟩

theorem retains_known_leaf :
    (∀ snapshot ∈ plannedWorld.snapshots, snapshot.canned.IsKeyed) ∧
    ∃ moment ∈ (heap.watchedRender plannedWorld 0 .root).moments ⟨plannedWorld, .empty⟩,
      moment.run.session.chain.contains leafObject.identity ∧ ∃ session ∈ moment.waiting,
        ∃ code, session.memo.find? leafObject.identity = some code ∧
          session.Retains leafObject.identity := by
  obtain ⟨moment, listed, busy, session, waiting, code, found⟩ := exists_waiting
  have retains := ((Heap.retains_known heap plannedWorld .root isKeyed).1 0).2.retains moment
    listed session (List.mem_cons_of_mem _ waiting) _ code found
  exact ⟨isKeyed, moment, listed, busy, session, waiting, code, found, retains⟩

end Twins

end FrozenGraph
