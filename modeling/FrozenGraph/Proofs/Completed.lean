/-
This file shows that everything a session knows can be printed at any time. At every moment of a
run, every node that is embedded in an expression that is known is complete and has its text: a node
is recorded after it was rendered, never while it is in progress and never after it has failed. So
to print such an expression is no work at all. It never fails, invokes nothing, opens no session,
and gives the same text in every registry.
-/

import FrozenGraph.Proofs.Substituted
import FrozenGraph.Proofs.Upheld

namespace FrozenGraph

/-! ### Complete statements -/

/-- Whether a statement is a node that is complete and has its text. -/
def Deferred.IsComplete (statement : Deferred) : Prop :=
  ∃ node, statement = .node node ∧ node.state = .complete ∧ node.cached.isSome

/-- Whether every statement of an expression is a node that is complete and has its text. -/
def Code.IsComplete (code : Code) : Prop :=
  code.Fits Deferred.IsComplete

theorem Deferred.IsComplete.isSome_finished? {statement : Deferred}
    (complete : statement.IsComplete) : statement.finished?.isSome := by
  obtain ⟨node, rfl, -, cached⟩ := complete
  exact cached

theorem Code.IsComplete.isFinished {code : Code} (complete : code.IsComplete) : code.IsFinished :=
  fun statement member => (complete statement member).isSome_finished?

/-! ### Printing at once -/

namespace Watched

variable {generate : Deferred → Watched String} {finished : Deferred → String}

mutual

/-- Where every statement is given, so is the expression, and nothing happens. -/
theorem valueSource_given : (code : Code) →
    (∀ statement ∈ code.statements, generate statement = pure (finished statement)) →
    code.valueSource generate = pure (code.text finished)
  | .literal _, _ => rfl
  | .reference _, _ => rfl
  | .raw _, _ => rfl
  | .anonymous _ overrides, given => by
    rw [Expr.valueSource, overridesSource_given overrides given]
    rfl
  | .list items, given => by
    rw [Expr.valueSource, additionsSource_given items given]
    rfl
  | .ret inner, given => by
    rw [Expr.valueSource, valueSource_given inner given]
    rfl
  | .deferred statement, given => given statement List.mem_cons_self

theorem overridesSource_given : (overrides : List (Override Deferred)) →
    (∀ statement ∈ Expr.overridesStatements overrides,
      generate statement = pure (finished statement)) →
    Expr.overridesSource generate overrides = pure (Expr.overridesText finished overrides)
  | [], _ => rfl
  | .empty _ _ :: rest, given => by
    rw [Expr.overridesSource, overridesSource_given rest given]
    rfl
  | .returning _ _ value :: rest, given => by
    obtain ⟨own, later⟩ := List.forall_mem_append.mp given
    rw [Expr.overridesSource, valueSource_given value own, overridesSource_given rest later]
    rfl

theorem additionsSource_given : (items : List Code) →
    (∀ statement ∈ Expr.itemsStatements items,
      generate statement = pure (finished statement)) →
    Expr.additionsSource generate items = pure (Expr.additionsText finished items)
  | [], _ => rfl
  | item :: rest, given => by
    obtain ⟨own, later⟩ := List.forall_mem_append.mp given
    rw [Expr.additionsSource, valueSource_given item own, additionsSource_given rest later]
    rfl

end

theorem generate_finished (attempt : WatchedAttempt) (registry : Registry) {statement : Deferred}
    (done : statement.finished?.isSome) :
    Watched.generate attempt registry statement = pure statement.finished := by
  cases statement with
  | text content => rfl
  | failing details => cases done
  | snapshot number => cases done
  | node planned =>
    obtain ⟨content, cached⟩ := Option.isSome_iff_exists.mp done
    have finished : planned.cached = some content := cached
    rw [Watched.generate, Deferred.finished, Deferred.finished?, finished]
    rfl

end Watched

/-- An expression that is printed at once, as a value that has a text. Whatever generates statements
and in whatever registry, it is printed without failing and without a change of the state, always to
the same text; and printing goes through no moment, so that nothing is invoked and no session is
opened. -/
structure Code.IsPrintedAs (code : Code) (text : String) : Prop where
  value : ∀ attempt registry, code.valueSource (Deferred.generate attempt registry) = pure text
  body : ∀ attempt registry,
    code.bodySource (Deferred.generate attempt registry) = pure ("return " ++ text ++ ";")
  whole : ∀ attempt registry, code.source (Deferred.generate attempt registry) =
    pure (if code.isReturn then "return " ++ text ++ ";" else text)
  silent : ∀ attempt registry run,
    (code.source (Watched.generate attempt registry)).moments run = [] ∧
      (code.bodySource (Watched.generate attempt registry)).moments run = []

namespace Code.IsFinished

variable {code : Code}

theorem watchedValue_eq (finished : code.IsFinished) (attempt : WatchedAttempt)
    (registry : Registry) :
    code.valueSource (Watched.generate attempt registry) = pure code.written :=
  Watched.valueSource_given code fun statement member =>
    Watched.generate_finished attempt registry (finished statement member)

theorem watchedSource_eq (finished : code.IsFinished) (attempt : WatchedAttempt)
    (registry : Registry) :
    code.source (Watched.generate attempt registry) =
      pure (if code.isReturn then "return " ++ code.written ++ ";" else code.written) := by
  rw [Expr.source, Expr.bodySource, finished.watchedValue_eq]
  split <;> rfl

theorem isPrintedAs (finished : code.IsFinished) : code.IsPrintedAs code.written where
  value attempt registry := Code.valueSource_eq_pure attempt registry finished
  body attempt registry := by
    rw [Expr.bodySource, Code.valueSource_eq_pure attempt registry finished]
    rfl
  whole attempt registry := by
    rw [Expr.source, Expr.bodySource, Code.valueSource_eq_pure attempt registry finished]
    split <;> rfl
  silent attempt registry run := by
    rw [finished.watchedSource_eq, Expr.bodySource, finished.watchedValue_eq]
    exact ⟨rfl, rfl⟩

end Code.IsFinished

/-! ### Sessions that know complete expressions -/

/-- What is asked of a session: every expression that it knows is complete. -/
def Upkeep.completion : Upkeep where
  fit := Deferred.IsComplete
  asks _ _ code := code.IsComplete
  admits _ := True
  fit_rendered node text := ⟨node.complete text, rfl, rfl, rfl⟩
  fits_of_asks complete := complete
  asks_of_fits _ fits := fits
  asks_of_subset _ complete := complete

namespace Session

theorem IsUpheld.isReady {session : Session} (upheld : session.IsUpheld .completion) :
    session.IsReady :=
  fun identity code found => (upheld identity code found).isFinished

/-- A session that opens without embedded statements knows complete expressions only. -/
theorem opening_isComplete {canned : Canned} (plain : canned.IsPlain) :
    (opening canned).IsUpheld .completion := by
  intro identity code found statement member
  rw [opening_find?] at found
  rw [plain.statements_eq_nil found] at member
  cases member

end Session

/-- Printing complete expressions upholds what is asked, since nothing happens. -/
theorem WatchedAttempt.prints_complete (attempt : WatchedAttempt) :
    attempt.Prints .completion := by
  intro kept run registry code upheld complete
  rw [Code.IsFinished.watchedSource_eq (Code.IsComplete.isFinished complete)]
  exact .given upheld trivial

/-! ### Every moment -/

/-- At a moment everything that is known is complete, and what is known or made there is printed at
once. -/
structure Moment.Prints (moment : Moment) (heap : Heap) : Prop where
  complete : ∀ session ∈ moment.sessions, ∀ identity code,
    session.memo.find? identity = some code → code.IsComplete ∧ ∃ text, code.IsPrintedAs text
  /-- An answer is known already when its way is chosen. -/
  chosen : ∀ registry expansions declared value code,
    Route.choose registry expansions moment.run.session declared value = .ok (.known code) →
      ∃ text, code.IsPrintedAs text
  /-- An answer has been written. -/
  expressed : ∀ fuel node registry declared value code after,
    Node.express (Node.attempt heap fuel) node registry (node.inner registry) declared value
      moment.run = .ok code after → ∃ text, code.IsPrintedAs text
  /-- A value has been written inside an answer, or for itself. -/
  encoded : ∀ fuel registry expansions declared value code after,
    Encode.value (expandObject (Node.attempt heap fuel) registry expansions) registry expansions
      declared value moment.run = .ok code after → ∃ text, code.IsPrintedAs text

theorem Moment.prints_of_upheld {moment : Moment} (heap : Heap)
    (upheld : ∀ session ∈ moment.sessions, session.IsUpheld .completion) : moment.Prints heap := by
  have ready := (upheld _ List.mem_cons_self).isReady
  have traced {task : Task} {part : Code → Part} {walk : Walk Code} {code : Code} {after : Run}
      (follows : Traced heap task part moment.run walk)
      (finished : (part code).IsFinished → code.IsFinished)
      (ended : walk moment.run = .ok code after) : ∃ text, code.IsPrintedAs text := by
    cases follows with
    | error other _ =>
      rw [ended] at other
      cases other
    | ok other walked =>
      rw [ended] at other
      cases other
      exact ⟨_, (finished (walked.ready ready).1).isPrintedAs⟩
  constructor
  · intro session opened identity code found
    have complete : code.IsComplete := upheld session opened identity code found
    exact ⟨complete, _, complete.isFinished.isPrintedAs⟩
  · intro registry expansions declared value code routed
    obtain ⟨identity, _, found⟩ := Route.known_of_choose routed
    exact ⟨_, (ready identity code found).isPrintedAs⟩
  · intro fuel node registry declared value code after ended
    exact traced (Node.express_traced (Node.attempt_follows heap fuel) node registry declared value
      ready) id ended
  · intro fuel registry expansions declared value code after ended
    exact traced (Encode.value_traced registry expansions (Node.attempt_follows heap fuel) declared
      value ready) id ended

namespace Heap

/-- Every expression that is recorded is ready to print, at every moment of a rendering whose canned
representations have no statements in them, and of every literal that is written. -/
theorem remembers_complete (heap : Heap) (world : World) (registry : Registry) :
    (∀ number, (∀ snapshot, world.snapshots[number]? = some snapshot → snapshot.canned.IsPlain) →
      heap.render world number registry =
          perform world .empty (heap.watchedRender world number registry).walk ∧
        ∀ moment ∈ (heap.watchedRender world number registry).moments ⟨world, .empty⟩,
          moment.Prints heap) ∧
    ∀ value,
      heap.load world value registry =
          perform world .empty (heap.watchedLoad world value registry).walk ∧
        ∀ moment ∈ (heap.watchedLoad world value registry).moments ⟨world, .empty⟩,
          moment.Prints heap := by
  have begun : Run.IsUpheld ⟨world, .empty⟩ .completion [] :=
    ⟨Session.empty_isUpheld, List.forall_mem_nil _, trivial⟩
  have attempts : WatchedAttempt.Upholds (Watched.attempt heap (heap.fuel world)) .completion :=
    Watched.attempt_upholds heap (fun attempt _ => attempt.prints_complete) (heap.fuel world)
  constructor
  · intro number plain
    refine ⟨heap.render_eq_watched world number registry, fun moment member => ?_⟩
    have upholds := Watched.snapshotText_upholds attempts begun number
      (fun snapshot placed => Session.opening_isComplete (plain snapshot placed)) registry
    exact Moment.prints_of_upheld heap (upholds.moments moment member)
  · intro value
    refine ⟨heap.load_eq_watched world value registry, fun moment member => ?_⟩
    have upholds := Watched.literalText_upholds attempts (WatchedAttempt.prints_complete _) begun
      value registry
    exact Moment.prints_of_upheld heap (upholds.moments moment member)

end Heap

/-! ### A leaf that is known while its holder is in progress -/

namespace Twins

theorem exists_moment : ∃ moment ∈ (heap.watchedRender world 0 .root).moments ⟨world, .empty⟩,
    moment.run.session.chain.contains holderObject.identity ∧
      ∃ code, moment.run.session.memo.find? leafObject.identity = some code := by
  have found : ((heap.watchedRender world 0 .root).moments ⟨world, .empty⟩).any (fun moment =>
      moment.run.session.chain.contains holderObject.identity &&
        moment.run.session.memo.knows leafObject.identity) = true := by
    decide +kernel
  obtain ⟨moment, listed, both⟩ := List.any_eq_true.mp found
  obtain ⟨busy, known⟩ := Bool.and_eq_true_iff.mp both
  exact ⟨moment, listed, busy, Option.isSome_iff_exists.mp known⟩

theorem remembers_complete_leaf :
    (∀ snapshot, world.snapshots[0]? = some snapshot → snapshot.canned.IsPlain) ∧
    ∃ moment ∈ (heap.watchedRender world 0 .root).moments ⟨world, .empty⟩,
      moment.run.session.chain.contains holderObject.identity ∧
        ∃ code text, moment.run.session.memo.find? leafObject.identity = some code ∧
          code.IsComplete ∧ code.IsPrintedAs text := by
  have plain : ∀ other, world.snapshots[0]? = some other → other.canned.IsPlain := by
    intro other placed
    rw [← Option.some.inj placed]
    exact Canned.empty_isPlain
  obtain ⟨moment, listed, busy, code, found⟩ := exists_moment
  have prints := ((Heap.remembers_complete heap world .root).1 0 plain).2 moment listed
  obtain ⟨complete, text, printed⟩ := prints.complete _ List.mem_cons_self _ code found
  exact ⟨plain, moment, listed, busy, code, text, found, complete, printed⟩

end Twins

end FrozenGraph
