/-
This file shows that putting the text of a class together is no part of the walk. A rendering is the
same when the text of each node is computed from its overriding methods by a function, which can
change nothing: everything that a rendering does to the world, it does before it prints.
-/

import FrozenGraph.Proofs.Rooted

namespace FrozenGraph

/-! ### Renderings that print by a function -/

/-- Renders a node as `Node.attempt` does, but its text is a function of the overriding methods. -/
def Node.attemptPurely (heap : Heap) : (fuel : Nat) → Attempt
  | 0, _, _, _ => throw .outOfFuel
  | fuel + 1, ledger, node, registry =>
    Walk.annotated node.noteOn do
      let overrides ← Walk.ensuring
        (fun run => { run with session := run.session.leave node.object.identity })
        (node.overrides heap (attemptPurely heap fuel) registry (node.inner registry) ledger
          node.accessors)
      pure (node.classText registry overrides)

/-- Renders a snapshot as `Heap.render` does, but every text is a function of the overriding
methods. -/
def Heap.renderPurely (heap : Heap) (world : World) (number : Nat) (registry : Registry) :
    Ended String :=
  perform world .empty
    (snapshotText (Node.attemptPurely heap (heap.fuel world)) number registry)

/-! ### Walks that do the same -/

/-- Two ways to render nodes do the same in every session with finished expressions. -/
def Attempt.Agrees (first second : Attempt) : Prop :=
  ∀ ledger node registry (run : Run), run.session.IsReady →
    first ledger node registry run = second ledger node registry run

theorem Walk.bind_congr {α β : Type} {walk walk' : Walk α} {next next' : α → Walk β} {run : Run}
    (same : walk run = walk' run)
    (later : ∀ answer after, walk run = .ok answer after → next answer after = next' answer after) :
    (walk >>= next) run = (walk' >>= next') run := by
  cases ended : walk run with
  | ok answer after => rw [bind_ok ended, bind_ok (same ▸ ended), later answer after ended]
  | error stop after => rw [bind_error ended, bind_error (same ▸ ended)]

theorem Walk.annotatedAfter_congr {α : Type} {note : Run → Report → Report} {walk walk' : Walk α}
    {run : Run} (same : walk run = walk' run) :
    annotatedAfter note walk run = annotatedAfter note walk' run := by
  rw [annotatedAfter, annotatedAfter, same]

theorem Walk.tryCatch_congr {α : Type} {walk walk' : Walk α} {handle : Stop → Walk α} {run : Run}
    (same : walk run = walk' run) :
    (tryCatch walk handle : Walk α) run = (tryCatch walk' handle : Walk α) run := by
  cases ended : walk run with
  | ok answer after => rw [tryCatch_ok ended, tryCatch_ok (same ▸ ended)]
  | error stop after => rw [tryCatch_error ended, tryCatch_error (same ▸ ended)]

theorem Walk.eq_ok_of_annotatedAfter {α : Type} {note : Run → Report → Report} {walk : Walk α}
    {run after : Run} {answer : α} (ended : annotatedAfter note walk run = .ok answer after) :
    walk run = .ok answer after := by
  cases plain : walk run with
  | ok other later => rwa [annotatedAfter_ok plain] at ended
  | error stop later =>
    rw [annotatedAfter_error plain] at ended
    cases ended

/-- A walk that follows the relations keeps a session ready. -/
theorem Traced.ready {α : Type} {heap : Heap} {task : Task} {part : α → Part} {before after : Run}
    {walk : Walk α} {answer : α} (traced : Traced heap task part before walk)
    (ended : walk before = .ok answer after) (ready : before.session.IsReady) :
    after.session.IsReady := by
  cases traced with
  | ok finished walked =>
    rw [finished] at ended
    cases ended
    exact (walked.ready ready).2
  | error failed _ =>
    rw [failed] at ended
    cases ended

theorem Node.enter_ready {node : Node} {run after : Run} (ended : node.enter run = .ok () after)
    (ready : run.session.IsReady) : after.session.IsReady := by
  rw [enter_run] at ended
  split at ended
  · cases ended
  · cases ended
    exact ready.of_memo_eq (Run.enter_memo _ _ _)

section Agreeing

variable {heap : Heap} {first second : Attempt}

theorem expandObject_agrees (agrees : first.Agrees second) (registry : Registry)
    (expansions : Expansions) (object : LiveObject) (target : Target) {run : Run}
    (ready : run.session.IsReady) :
    expandObject first registry expansions object target run =
      expandObject second registry expansions object target run := by
  rw [expandObject, expandObject, Walk.bind_get, Walk.bind_get]
  cases run.session.memo.find? object.identity with
  | some code => rfl
  | none =>
    cases Node.build object target expansions with
    | error report => rfl
    | ok node =>
      change (node.renderFresh first registry >>= _) run =
        (node.renderFresh second registry >>= _) run
      refine Walk.bind_congr ?_ fun _ _ _ => rfl
      exact Walk.bind_congr rfl fun _ after entered =>
        agrees .empty node registry after (Node.enter_ready entered ready)

namespace Encode

mutual

theorem value_agrees (follows : first.Follows heap) (agrees : first.Agrees second)
    (registry : Registry) (expansions : Expansions) (declared : Option DeclaredType) :
    (value : Value) → {run : Run} → (ready : run.session.IsReady) →
    Encode.value (expandObject first registry expansions) registry expansions declared value run =
      Encode.value (expandObject second registry expansions) registry expansions declared value run
  | .scalar scalar, _, _ => rfl
  | .list identity items, run, ready => by
    rw [Encode.value, Encode.value, Walk.bind_get, Walk.bind_get]
    cases run.session.memo.find? identity with
    | some code => rfl
    | none =>
      exact Walk.bind_congr (allItems_agrees follows agrees registry expansions items ready)
        fun _ _ _ => rfl
  | .object live, run, ready => by
    rw [Encode.value, Encode.value, Walk.bind_get, Walk.bind_get]
    cases run.session.memo.find? live.identity with
    | some code => rfl
    | none =>
      cases targetFor? registry expansions declared live.runtime with
      | none => rfl
      | some target => exact expandObject_agrees agrees registry expansions live target ready

theorem allItems_agrees (follows : first.Follows heap) (agrees : first.Agrees second)
    (registry : Registry) (expansions : Expansions) :
    (items : List Value) → {run : Run} → (ready : run.session.IsReady) →
    Encode.allItems (expandObject first registry expansions) registry expansions items run =
      Encode.allItems (expandObject second registry expansions) registry expansions items run
  | [], _, _ => rfl
  | item :: rest, run, ready => by
    have kept : (run.retain item).session.IsReady := ready.of_memo_eq (Run.retain_memo _ _)
    have retained : Walk.retain item run = .ok () (run.retain item) := rfl
    rw [Encode.allItems, Encode.allItems, Walk.bind_ok retained, Walk.bind_ok retained]
    refine Walk.bind_congr (value_agrees follows agrees registry expansions none item kept)
      fun _ after ended => ?_
    have settled := (value_traced registry expansions follows none item kept).ready ended kept
    exact Walk.bind_congr (allItems_agrees follows agrees registry expansions rest settled)
      fun _ _ _ => rfl

end

end Encode

namespace Node

theorem express_agrees (follows : first.Follows heap) (agrees : first.Agrees second) (node : Node)
    (registry : Registry) (declared : DeclaredType) (value : Value) {run : Run}
    (ready : run.session.IsReady) :
    node.express first registry (node.inner registry) declared value run =
      node.express second registry (node.inner registry) declared value run := by
  rw [express, express, Walk.bind_get, Walk.bind_get]
  cases Route.choose registry node.expansions run.session declared value with
  | error report => rfl
  | ok route =>
    rw [Walk.bind_lift_ok, Walk.bind_lift_ok]
    cases route with
    | null => rfl
    | known code => rfl
    | literal =>
      have same := Encode.value_agrees follows agrees (node.inner registry) node.expansions
        (some declared) value ready
      exact Walk.bind_congr same fun _ _ _ => rfl
    | expand target =>
      cases value with
      | scalar scalar => rfl
      | list identity items => rfl
      | object live =>
        have same :=
          expandObject_agrees agrees (node.inner registry) node.expansions live target ready
        exact Walk.bind_congr same fun _ _ _ => rfl

theorem overrides_agrees (follows : first.Follows heap) (agrees : first.Agrees second)
    (node : Node) (registry : Registry) (methods : List Method) :
    (ledger : Ledger) → {run : Run} → (ready : run.session.IsReady) →
    node.overrides heap first registry (node.inner registry) ledger methods run =
      node.overrides heap second registry (node.inner registry) ledger methods run := by
  induction methods with
  | nil => exact fun _ _ _ => rfl
  | cons method rest inductionHypothesis =>
    intro ledger run ready
    by_cases void : method.returns = .void
    · rw [overrides, overrides, if_pos void, if_pos void]
      exact Walk.bind_congr (inductionHypothesis ledger ready) fun _ _ _ => rfl
    · rw [overrides, overrides, if_neg void, if_neg void]
      cases replied : heap.reply run.world node.object.identity method.name with
      | mk outcome allocated =>
        cases outcome with
        | error fault =>
          have failed : Walk.annotatedAfter (noteAccessor ledger method)
              (node.answer heap method) run = _ :=
            Walk.annotatedAfter_error (answer_error replied)
          rw [Walk.bind_error failed, Walk.bind_error failed]
        | ok value =>
          obtain ⟨ledger', noted, recorded⟩ := record_ok ledger method value
            ((run.note ⟨node.object.identity, method.name, .ok value⟩ allocated).retain value)
          have answered : Walk.annotatedAfter (noteAccessor ledger method)
              (node.answer heap method) run = _ :=
            Walk.annotatedAfter_ok (answer_ok replied)
          have kept : noted.session.IsReady :=
            ready.of_memo_eq (Ledger.memo_of_record recorded)
          rw [Walk.bind_ok answered, Walk.bind_ok answered, Walk.bind_ok recorded,
            Walk.bind_ok recorded]
          refine Walk.bind_congr (Walk.annotatedAfter_congr
            (express_agrees follows agrees node registry method.returns value kept))
            fun _ after expressed => ?_
          have settled := (express_traced follows node registry method.returns value kept).ready
            (Walk.eq_ok_of_annotatedAfter expressed) kept
          exact Walk.bind_congr (inductionHypothesis ledger' settled) fun _ _ _ => rfl

end Node

end Agreeing

namespace Node

/-- Printing the overriding methods that a walk has collected changes nothing. -/
theorem attempt_agrees (heap : Heap) (fuel : Nat) :
    (attempt heap fuel).Agrees (attemptPurely heap fuel) := by
  induction fuel with
  | zero => exact fun _ _ _ _ _ => rfl
  | succ fuel inductionHypothesis =>
    intro ledger node registry run ready
    have follows := attempt_follows heap fuel
    have same := overrides_agrees follows inductionHypothesis node registry node.accessors ledger
      ready
    rw [attempt, attemptPurely]
    refine Walk.annotatedAfter_congr ?_
    cases overrides_traced follows node registry node.accessors ledger ready with
    | error ended _ =>
      have failed : node.classSource heap (attempt heap fuel) ledger registry run = _ :=
        Walk.bind_error ended
      rw [Walk.bind_error (Walk.ensuring_error failed),
        Walk.bind_error (Walk.ensuring_error (same ▸ ended))]
    | ok ended walked =>
      rw [Walk.bind_ok (Walk.ensuring_ok (classSource_ok ended (walked.ready ready).1)),
        Walk.bind_ok (Walk.ensuring_ok (same ▸ ended))]
      rfl

end Node

namespace Heap

/-- A rendering does nothing else than the walk that collects the overriding methods; the texts
are a function of these. -/
theorem render_eq_renderPurely {value : Value} {target : Target} {canned : Canned}
    {expanded : List Target} {snapshot : Snapshot} {world : World} {number : Nat} (heap : Heap)
    (registry : Registry) (planned : Snapshot.plan value target canned expanded = .ok snapshot)
    (plain : canned.IsPlain) (placed : world.snapshots[number]? = some snapshot) :
    heap.render world number registry = heap.renderPurely world number registry := by
  obtain ⟨live, rfl, built, rfl⟩ := Snapshot.built_of_plan planned
  obtain ⟨_, _, _, pending, uncached, _, _⟩ := Node.built_of_build built
  have same := Node.attempt_agrees heap (heap.fuel world) (.ofSnapshot number) snapshot.root
    registry (world.begun number snapshot) ((Session.opening_isReady plain).of_memo_eq rfl)
  have root : renderRoot (heap.attempt world) number registry ⟨world, .opening snapshot.canned⟩ =
      renderRoot (Node.attemptPurely heap (heap.fuel world)) number registry
        ⟨world, .opening snapshot.canned⟩ := by
    rw [renderRoot_run placed pending uncached, renderRoot_run placed pending uncached]
    exact Walk.bind_congr (Walk.tryCatch_congr same) fun _ _ _ => rfl
  rw [render, renderPurely, perform, perform, snapshotText_run placed uncached,
    snapshotText_run placed uncached, Walk.inSession, Walk.inSession, root]

end Heap

end FrozenGraph
