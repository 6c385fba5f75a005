/-
This file shows that every rendering over a closed heap ends, and how much it takes. Neither the
values nor the accessors get smaller from one object to the next, and a list may be written again
while it is being written. What gets smaller is the room on the chain: an object is put there that
was not in progress, so the chain holds different objects of the heap, and between two objects a
walk only goes down a value and a list of methods, which are finite.

So fuel for as many objects as there are is enough, more of it changes nothing, and a rendering that
would give up as soon as more objects than there are were in progress does the same.
-/

import FrozenGraph.Proofs.Confined
import FrozenGraph.Proofs.Cyclic

namespace FrozenGraph

/-! ### Renderings that watch the chain -/

/-- Renders a node as `Node.attempt` does, but gives up as soon as more objects are in progress than
there may be. -/
def Node.attemptWithin (heap : Heap) (limit : Nat) : (fuel : Nat) → Attempt
  | 0, _, _, _ => throw .outOfFuel
  | fuel + 1, ledger, node, registry => do
    if limit < (← get).session.chain.depth then throw .outOfFuel
    else
      Walk.annotated node.noteOn do
        let source ← Walk.ensuring
          (fun run => { run with session := run.session.leave node.object.identity })
          (node.classSource heap (attemptWithin heap limit fuel) ledger registry)
        pure (Layout.format registry.options source)

namespace Heap

/-- Renders a snapshot as `Heap.render` does, with a limit to the objects in progress. -/
def renderWithin (heap : Heap) (limit fuel : Nat) (world : World) (number : Nat)
    (registry : Registry) : Ended String :=
  perform world .empty (snapshotText (Node.attemptWithin heap limit fuel) number registry)

/-- Writes a value as `Heap.load` does, with a limit to the objects in progress. -/
def loadWithin (heap : Heap) (limit fuel : Nat) (world : World) (value : Value)
    (registry : Registry) : Ended String :=
  perform world .empty (literalText (Node.attemptWithin heap limit fuel) value registry)

end Heap

/-! ### Walks that end alike -/

/-- Two walks end alike in a state, and not for want of fuel. -/
structure Walk.EndsLike {α : Type} (walk walk' : Walk α) (run : Run) : Prop where
  same : walk run = walk' run
  ends : ∀ after, walk run ≠ .error .outOfFuel after

namespace Walk.EndsLike

variable {α β : Type} {walk walk' : Walk α} {run after : Run}

theorem of_ok {answer : α} (ended : walk run = .ok answer after)
    (ended' : walk' run = .ok answer after) : walk.EndsLike walk' run where
  same := ended.trans ended'.symm
  ends last impossible := by
    rw [ended] at impossible
    cases impossible

theorem of_failed {report : Report} (ended : walk run = .error (.failed report) after)
    (ended' : walk' run = .error (.failed report) after) : walk.EndsLike walk' run where
  same := ended.trans ended'.symm
  ends last impossible := by
    rw [ended] at impossible
    cases impossible

theorem pure (answer : α) (run : Run) : (pure answer : Walk α).EndsLike (pure answer) run :=
  of_ok rfl rfl

theorem fail (report : Report) (run : Run) :
    (fail report : Walk α).EndsLike (Walk.fail report) run :=
  of_failed rfl rfl

/-- What two walks do is all that counts. -/
theorem of_eq {first second : Walk α} {start : Run} (alike : first.EndsLike second start)
    (left : walk run = first start) (right : walk' run = second start) :
    walk.EndsLike walk' run where
  same := left.trans (alike.same.trans right.symm)
  ends last impossible := alike.ends last (left.symm.trans impossible)

theorem bind {next next' : α → Walk β} (first : walk.EndsLike walk' run)
    (later : ∀ answer after, walk run = .ok answer after →
      (next answer).EndsLike (next' answer) after) :
    (walk >>= next).EndsLike (walk' >>= next') run := by
  cases ended : walk run with
  | ok answer after =>
    have ended' := first.same.symm.trans ended
    exact (later answer after ended).of_eq (bind_ok ended) (bind_ok ended')
  | error stop after =>
    have ended' := first.same.symm.trans ended
    cases stop with
    | failed report => exact of_failed (bind_error ended) (bind_error ended')
    | outOfFuel => exact absurd ended (first.ends after)

theorem annotatedAfter (alike : walk.EndsLike walk' run) (note : Run → Report → Report) :
    (annotatedAfter note walk).EndsLike (annotatedAfter note walk') run := by
  cases ended : walk run with
  | ok answer after =>
    have ended' := alike.same.symm.trans ended
    exact of_ok (annotatedAfter_ok ended) (annotatedAfter_ok ended')
  | error stop after =>
    have ended' := alike.same.symm.trans ended
    cases stop with
    | failed report => exact of_failed (annotatedAfter_error ended) (annotatedAfter_error ended')
    | outOfFuel => exact absurd ended (alike.ends after)

theorem ensuring (alike : walk.EndsLike walk' run) (cleanup : Run → Run) :
    (ensuring cleanup walk).EndsLike (ensuring cleanup walk') run := by
  cases ended : walk run with
  | ok answer after =>
    have ended' := alike.same.symm.trans ended
    exact of_ok (ensuring_ok ended) (ensuring_ok ended')
  | error stop after =>
    have ended' := alike.same.symm.trans ended
    cases stop with
    | failed report => exact of_failed (ensuring_error ended) (ensuring_error ended')
    | outOfFuel => exact absurd ended (alike.ends after)

theorem tryCatch {handle : Stop → Walk α} (alike : walk.EndsLike walk' run)
    (handled : ∀ report after, (handle (.failed report)).EndsLike (handle (.failed report)) after) :
    (tryCatch walk handle : Walk α).EndsLike (tryCatch walk' handle) run := by
  cases ended : walk run with
  | ok answer after =>
    have ended' := alike.same.symm.trans ended
    exact of_ok (tryCatch_ok ended) (tryCatch_ok ended')
  | error stop after =>
    have ended' := alike.same.symm.trans ended
    cases stop with
    | failed report =>
      exact (handled report after).of_eq (tryCatch_error ended) (tryCatch_error ended')
    | outOfFuel => exact absurd ended (alike.ends after)

theorem inSession {session : Session} (alike : walk.EndsLike walk' { run with session }) :
    (inSession session walk).EndsLike (inSession session walk') run where
  same := by rw [Walk.inSession, Walk.inSession, alike.same]
  ends last impossible := by
    rw [Walk.inSession] at impossible
    split at impossible
    · rename_i stop after ended
      cases impossible
      exact alike.ends _ ended
    · cases impossible

end Walk.EndsLike

/-- Walks that end alike are performed alike, and to an end. -/
theorem Heap.perform_of_endsLike {α : Type} {walk walk' : Walk α} {world : World}
    {session : Session} (alike : walk.EndsLike walk' ⟨world, session⟩) :
    perform world session walk' = perform world session walk ∧
      (perform world session walk).result ≠ .error .outOfFuel := by
  refine ⟨by rw [perform, perform, alike.same], fun impossible => ?_⟩
  unfold perform at impossible
  split at impossible
  · cases impossible
  · rename_i stop after ended
    cases impossible
    exact alike.ends _ ended

/-! ### Room on the chain -/

/-- A state of a walk over a heap: different objects of the heap are in progress, and not many more
can be. -/
structure Run.HasRoom (run : Run) (heap : Heap) (room : Nat) : Prop where
  ready : run.session.IsReady
  nodup : run.session.chain.identities.Nodup
  within : ∀ object ∈ run.session.chain.identities, object ∈ heap.objects.map (·.identity)
  enough : heap.objects.length ≤ run.session.chain.depth + room

namespace Run.HasRoom

variable {heap : Heap} {run after : Run} {room : Nat}

/-- There are no more objects in progress than there are objects. -/
theorem depth_le (fits : run.HasRoom heap room) :
    run.session.chain.depth ≤ heap.objects.length := by
  have fewer := (List.subperm_of_subset fits.nodup fits.within).length_le
  rwa [Chain.identities, List.length_map, List.length_map] at fewer

theorem of_session (fits : run.HasRoom heap room) (ready : after.session.IsReady)
    (chain : after.session.chain = run.session.chain) : after.HasRoom heap room where
  ready := ready
  nodup := chain ▸ fits.nodup
  within := chain ▸ fits.within
  enough := chain ▸ fits.enough

theorem retain (fits : run.HasRoom heap room) (value : Value) :
    (run.retain value).HasRoom heap room :=
  fits.of_session (fits.ready.of_memo_eq (Run.retain_memo _ _)) (Run.retain_chain _ _)

theorem walked {part : Part} {events : List Event} (fits : run.HasRoom heap room)
    (walked : Walked heap part run events after) : after.HasRoom heap room :=
  fits.of_session (walked.ready fits.ready).2 walked.chain_eq

/-- An object that is put on the chain takes one of the places that are left. -/
theorem enter {object : LiveObject} (fits : run.HasRoom heap room)
    (known : object ∈ heap.objects)
    (free : run.session.chain.contains object.identity = false) (target : Target) :
    ∃ left < room, (run.enter object target).HasRoom heap left := by
  have fresh : object.identity ∉ run.session.chain.identities := by
    rw [← Chain.contains_iff, free]
    exact Bool.false_ne_true
  have entered : (run.enter object target).session.chain.identities =
      run.session.chain.identities ++ [object.identity] := by
    simp [Run.enter, Chain.identities]
  have deeper : (run.enter object target).session.chain.depth =
      run.session.chain.depth + 1 := by
    simp [Run.enter, Chain.depth]
  have nodup : (run.enter object target).session.chain.identities.Nodup := by
    rw [entered]
    refine List.nodup_append.mpr ⟨fits.nodup, List.nodup_singleton _, ?_⟩
    rintro early member late own rfl
    exact fresh (List.mem_singleton.mp own ▸ member)
  have within : ∀ other ∈ (run.enter object target).session.chain.identities,
      other ∈ heap.objects.map (·.identity) := by
    intro other member
    rw [entered, List.mem_append] at member
    rcases member with early | late
    · exact fits.within other early
    · rw [List.mem_singleton.mp late]
      exact List.mem_map_of_mem known
  have ready : (run.enter object target).session.IsReady :=
    fits.ready.of_memo_eq (Run.enter_memo _ _ _)
  -- A chain of different objects of the heap is not longer than the heap, so there was a place.
  have bound := Run.HasRoom.depth_le ⟨ready, nodup, within, Nat.le_add_left _ _⟩
  have enough := fits.enough
  refine ⟨room - 1, by omega, ready, nodup, within, by omega⟩

end Run.HasRoom

/-- A walk that follows the relations leaves the room that there is. -/
theorem Traced.hasRoom {α : Type} {heap : Heap} {task : Task} {part : α → Part}
    {before after : Run} {walk : Walk α} {answer : α} {room : Nat}
    (traced : Traced heap task part before walk) (ended : walk before = .ok answer after)
    (fits : before.HasRoom heap room) : after.HasRoom heap room := by
  cases traced with
  | ok finished walked =>
    rw [finished] at ended
    cases ended
    exact fits.walked walked
  | error failed _ =>
    rw [failed] at ended
    cases ended

/-! ### Walks with enough fuel -/

/-- Two ways to render nodes over a heap end alike wherever less than some room is left. -/
def Attempt.EndsLike (first second : Attempt) (heap : Heap) (targets : List Target)
    (room : Nat) : Prop :=
  ∀ left < room, ∀ ledger node registry (run : Run), run.HasRoom heap left →
    Task.IsConfined heap targets (.methods node registry ledger node.accessors) →
    (first ledger node registry).EndsLike (second ledger node registry) run

theorem Attempt.EndsLike.mono {first second : Attempt} {heap : Heap} {targets : List Target}
    {room less : Nat} (alike : first.EndsLike second heap targets room) (le : less ≤ room) :
    first.EndsLike second heap targets less :=
  fun left bound => alike left (Nat.lt_of_lt_of_le bound le)

section Ending

variable {heap : Heap} {targets : List Target} {first second : Attempt} {room : Nat} {run : Run}
  {registry : Registry} {expansions : Expansions}

theorem expandObject_endsLike (alike : first.EndsLike second heap targets room)
    (fits : run.HasRoom heap room) {object : LiveObject} {target : Target}
    (confined : Task.IsConfined heap targets (.object registry expansions object target)) :
    (expandObject first registry expansions object target).EndsLike
      (expandObject second registry expansions object target) run := by
  rw [expandObject, expandObject]
  refine .of_eq ?_ (Walk.bind_get _ run) (Walk.bind_get _ run)
  cases run.session.memo.find? object.identity with
  | some code => exact .pure code run
  | none =>
    cases built : Node.build object target expansions with
    | error report => exact .of_failed rfl rfl
    | ok node =>
      have methods : Task.IsConfined heap targets (.methods node registry .empty node.accessors) :=
        confined.built built
      obtain ⟨rfl, rfl, _, _, _, _, _⟩ := Node.built_of_build built
      refine .bind (.pure node run) fun _ _ same => ?_
      cases same
      refine .bind ?_ fun text after _ => .of_ok rfl rfl
      have entered := node.enter_run run
      cases contained : run.session.chain.contains node.object.identity with
      | true =>
        rw [if_pos contained] at entered
        exact .of_failed (Walk.bind_error entered) (Walk.bind_error entered)
      | false =>
        rw [if_neg (by simp [contained])] at entered
        obtain ⟨left, less, entering⟩ := fits.enter confined.2.1 contained node.target
        exact (alike left less .empty node registry _ entering methods).of_eq
          (Walk.bind_ok entered) (Walk.bind_ok entered)

namespace Encode

mutual

theorem value_endsLike (follows : first.Follows heap)
    (alike : first.EndsLike second heap targets room) (declared : Option DeclaredType) :
    (value : Value) → {run : Run} → run.HasRoom heap room →
    Task.IsConfined heap targets (.value registry expansions declared value) →
    (Encode.value (expandObject first registry expansions) registry expansions declared
        value).EndsLike
      (Encode.value (expandObject second registry expansions) registry expansions declared value)
      run
  | .scalar scalar, run, _, _ => .of_ok rfl rfl
  | .list identity items, run, fits, confined => by
    rw [Encode.value, Encode.value]
    refine .of_eq ?_ (Walk.bind_get _ run) (Walk.bind_get _ run)
    cases run.session.memo.find? identity with
    | some code => exact .pure code run
    | none =>
      exact .bind (allItems_endsLike follows alike items fits confined.items) fun _ _ _ =>
        .of_ok rfl rfl
  | .object live, run, fits, confined => by
    rw [Encode.value, Encode.value]
    refine .of_eq ?_ (Walk.bind_get _ run) (Walk.bind_get _ run)
    cases run.session.memo.find? live.identity with
    | some code => exact .pure code run
    | none =>
      cases chosen : targetFor? registry expansions declared live.runtime with
      | none => exact .fail _ run
      | some target => exact expandObject_endsLike alike fits (confined.object chosen)

theorem allItems_endsLike (follows : first.Follows heap)
    (alike : first.EndsLike second heap targets room) :
    (items : List Value) → {run : Run} → run.HasRoom heap room →
    Task.IsConfined heap targets (.items registry expansions items) →
    (Encode.allItems (expandObject first registry expansions) registry expansions items).EndsLike
      (Encode.allItems (expandObject second registry expansions) registry expansions items) run
  | [], run, _, _ => .of_ok rfl rfl
  | item :: rest, run, fits, confined => by
    have retained : Walk.retain item run = .ok () (run.retain item) := rfl
    rw [Encode.allItems, Encode.allItems]
    refine .of_eq ?_ (Walk.bind_ok retained) (Walk.bind_ok retained)
    refine .bind (value_endsLike follows alike none item (fits.retain item) confined.head)
      fun _ after ended => ?_
    have traced := value_traced registry expansions follows none item (fits.retain item).ready
    have later := traced.hasRoom ended (fits.retain item)
    exact .bind (allItems_endsLike follows alike rest later confined.tail) fun _ _ _ =>
      .of_ok rfl rfl

end

end Encode

namespace Node

theorem express_endsLike (follows : first.Follows heap)
    (alike : first.EndsLike second heap targets room) (fits : run.HasRoom heap room)
    {node : Node} {declared : DeclaredType} {value : Value}
    (confined : Task.IsConfined heap targets (.answer node registry declared value)) :
    (node.express first registry (node.inner registry) declared value).EndsLike
      (node.express second registry (node.inner registry) declared value) run := by
  have recorded : ∀ code after, (recording value code).EndsLike (recording value code) after :=
    fun code after => .of_ok (record_run value code after) (record_run value code after)
  rw [express, express]
  refine .of_eq ?_ (Walk.bind_get _ run) (Walk.bind_get _ run)
  cases routed : Route.choose registry node.expansions run.session declared value with
  | error report => exact .of_failed rfl rfl
  | ok route =>
    refine .bind (.pure route run) fun _ _ same => ?_
    cases same
    cases route with
    | null => exact .bind (.pure _ run) fun code after _ => recorded code after
    | known code => exact .bind (.pure _ run) fun code after _ => recorded code after
    | literal =>
      have written := Encode.value_endsLike follows alike (some declared) value fits
        confined.literal
      exact .bind written fun code after _ => recorded code after
    | expand target =>
      cases value with
      | scalar scalar => exact .of_failed rfl rfl
      | list identity items => exact .of_failed rfl rfl
      | object live =>
        have expanded := expandObject_endsLike alike fits (confined.expanded routed)
        exact .bind expanded fun code after _ => recorded code after

theorem overrides_endsLike (closed : heap.IsClosed) (follows : first.Follows heap)
    (alike : first.EndsLike second heap targets room) {node : Node} (methods : List Method) :
    (ledger : Ledger) → {run : Run} → run.HasRoom heap room →
    Task.IsConfined heap targets (.methods node registry ledger methods) →
    (node.overrides heap first registry (node.inner registry) ledger methods).EndsLike
      (node.overrides heap second registry (node.inner registry) ledger methods) run := by
  induction methods with
  | nil => exact fun _ run _ _ => .pure _ run
  | cons method rest inductionHypothesis =>
    intro ledger run fits confined
    by_cases void : method.returns = .void
    · rw [overrides, overrides, if_pos void, if_pos void]
      exact .bind (inductionHypothesis ledger fits confined.methods) fun _ _ _ => .of_ok rfl rfl
    · rw [overrides, overrides, if_neg void, if_neg void]
      cases replied : heap.reply run.world node.object.identity method.name with
      | mk outcome allocated =>
        cases outcome with
        | error fault =>
          have failed : Walk.annotatedAfter (noteAccessor ledger method)
              (node.answer heap method) run = _ :=
            Walk.annotatedAfter_error (answer_error replied)
          exact .of_failed (Walk.bind_error failed) (Walk.bind_error failed)
        | ok value =>
          obtain ⟨ledger', noted, recorded⟩ := record_ok ledger method value
            ((run.note ⟨node.object.identity, method.name, .ok value⟩ allocated).retain value)
          have answered : Walk.annotatedAfter (noteAccessor ledger method)
              (node.answer heap method) run = _ :=
            Walk.annotatedAfter_ok (answer_ok replied)
          have kept : noted.HasRoom heap room :=
            fits.of_session (fits.ready.of_memo_eq (Ledger.memo_of_record recorded))
              (Ledger.chain_of_record recorded)
          refine .of_eq ?_ (Walk.bind_ok answered) (Walk.bind_ok answered)
          refine .of_eq ?_ (Walk.bind_ok recorded) (Walk.bind_ok recorded)
          have expressed := express_endsLike follows alike kept
            (confined.answer closed replied method.returns)
          refine .bind (expressed.annotatedAfter _) fun _ after ended => ?_
          have traced := express_traced follows node registry method.returns value kept.ready
          have later := traced.hasRoom (Walk.eq_ok_of_annotatedAfter ended) kept
          exact .bind (inductionHypothesis ledger' later confined.methods) fun _ _ _ =>
            .of_ok rfl rfl

theorem classSource_endsLike (closed : heap.IsClosed) (follows : first.Follows heap)
    (alike : first.EndsLike second heap targets room) (fits : run.HasRoom heap room)
    {node : Node} {ledger : Ledger}
    (confined : Task.IsConfined heap targets (.methods node registry ledger node.accessors)) :
    (node.classSource heap first ledger registry).EndsLike
      (node.classSource heap second ledger registry) run := by
  have overriding := overrides_endsLike closed follows alike node.accessors ledger fits confined
  refine overriding.bind fun methods after ended => ?_
  cases overrides_traced follows node registry node.accessors ledger fits.ready with
  | error failed _ =>
    rw [failed] at ended
    cases ended
  | ok finished walked =>
    rw [finished] at ended
    cases ended
    have done : Code.IsFinished (.anonymous node.target.declaredType methods) :=
      (walked.ready fits.ready).1
    rw [Expr.source, Expr.source, if_neg (by simp [Expr.isReturn]),
      Code.valueSource_eq_pure _ _ done, Code.valueSource_eq_pure _ _ done]
    exact .pure _ after

/-- Where less room is left than there is fuel, a node ends, with or without a limit to the objects
in progress. -/
theorem attempt_endsLike (closed : heap.IsClosed) (targets : List Target) {room fuel fuel' : Nat}
    (enough : room ≤ fuel) (enough' : room ≤ fuel') :
    (attempt heap fuel).EndsLike (attemptWithin heap heap.objects.length fuel') heap targets
      room := by
  induction room generalizing fuel fuel' with
  | zero => exact fun left impossible => nomatch impossible
  | succ room inductionHypothesis =>
    intro left less ledger node registry run fits confined
    obtain ⟨fuel, rfl⟩ := Nat.exists_eq_add_one_of_ne_zero (Nat.ne_of_gt (by omega : 0 < fuel))
    obtain ⟨fuel', rfl⟩ :=
      Nat.exists_eq_add_one_of_ne_zero (Nat.ne_of_gt (by omega : 0 < fuel'))
    have inner : (attempt heap fuel).EndsLike (attemptWithin heap heap.objects.length fuel') heap
        targets left :=
      (inductionHypothesis (by omega) (by omega)).mono (Nat.lt_succ_iff.mp less)
    have written := classSource_endsLike closed (attempt_follows heap fuel) inner fits confined
    have printed := (written.ensuring fun run =>
        { run with session := run.session.leave node.object.identity }).bind
      fun source after _ => .pure (Layout.format registry.options source) after
    -- The node is on a chain that is no longer than the heap, so the limit is not reached.
    have guarded : ¬ heap.objects.length < run.session.chain.depth := Nat.not_lt.mpr fits.depth_le
    refine (printed.annotatedAfter fun _ => node.noteOn).of_eq rfl ?_
    rw [attemptWithin, Walk.bind_get, if_neg guarded]
    rfl

end Node

end Ending

/-! ### Whole renderings -/

/-- What a rendering over a heap takes that began in a world. -/
structure Heap.Ended.Bounded (ended : Heap.Ended String) (world : World) (heap : Heap)
    (targets : List Target) : Prop where
  /-- It ends, and not for want of fuel. -/
  ends : ended.result ≠ .error .outOfFuel
  /-- There are no more invocations than the objects can get methods. -/
  invocations_le : (ended.world.since world).length ≤ heap.schemas targets

theorem Session.empty_isReady : Session.empty.IsReady :=
  fun _ _ found => nomatch found

/-- Where nothing is in progress, there is room for every object. -/
theorem Run.hasRoom_of_empty {heap : Heap} {run : Run} (ready : run.session.IsReady)
    (empty : run.session.chain = .empty) : run.HasRoom heap heap.objects.length where
  ready := ready
  nodup := by
    rw [empty]
    exact List.nodup_nil
  within object member := by
    rw [empty] at member
    cases member
  enough := Nat.le_add_left _ _

/-- The root of a snapshot is the first object in progress. -/
theorem World.begun_hasRoom {heap : Heap} (world : World) (number : Nat) {snapshot : Snapshot}
    (plain : snapshot.canned.IsPlain) (known : snapshot.root.object ∈ heap.objects) :
    ∃ left < heap.objects.length, (world.begun number snapshot).HasRoom heap left := by
  have opened : Run.HasRoom ⟨world, .opening snapshot.canned⟩ heap heap.objects.length :=
    Run.hasRoom_of_empty (Session.opening_isReady plain) (Session.opening_chain _)
  have free : (Session.opening snapshot.canned).chain.contains snapshot.root.object.identity =
      false := by
    rw [Session.opening_chain]
    rfl
  obtain ⟨left, less, entered⟩ := opened.enter known free snapshot.root.target
  refine ⟨left, less, entered.of_session entered.ready ?_⟩
  simp [World.begun, Run.enter, Session.opening_chain, Chain.empty]

/-- What is rendered after the beginning of a rendering is confined like the root. -/
theorem RootWalk.confined {heap : Heap} {world : World} {number : Nat} {snapshot : Snapshot}
    {registry : Registry} {result : Except Stop String} {events : List Event}
    (root : RootWalk heap world number snapshot registry result events) (closed : heap.IsClosed)
    {targets : List Target}
    (confined : Task.IsConfined heap targets
      (.methods snapshot.root registry (.ofSnapshot number) snapshot.root.accessors)) :
    Event.AreConfined heap targets events := by
  cases root with
  | ok _ walked => exact walked.confined closed confined
  | error _ stopped => exact stopped.confined closed confined
  | outOfFuel => exact nofun

namespace Heap

variable {heap : Heap}

theorem length_le_fuel (heap : Heap) (world : World) :
    heap.objects.length ≤ heap.fuel world :=
  Nat.le_trans (Nat.le_succ _) (Nat.le_mul_of_pos_right _ (Nat.succ_pos _))

/-- The root of a planned snapshot is confined to its heap and to the targets that are named. -/
theorem isConfined_of_plan {live : LiveObject} {target : Target} {canned : Canned}
    {expanded : List Target} {snapshot : Snapshot} (registry : Registry) (ledger : Ledger)
    (planned : Snapshot.plan (.object live) target canned expanded = .ok snapshot)
    (known : live ∈ heap.objects) :
    Task.IsConfined heap (target :: expanded ++ registry.targets)
      (.methods snapshot.root registry ledger snapshot.root.accessors) := by
  obtain ⟨_, same, built, _⟩ := Snapshot.built_of_plan planned
  cases same
  obtain ⟨object, _, expansions, _, _, _, _⟩ := Node.built_of_build built
  refine ⟨⟨fun other member => List.mem_append_right _ member, fun other member => ?_⟩, ?_⟩
  · rw [expansions] at member
    exact List.mem_append_left _
      (List.mem_cons_of_mem _ (Expansions.mem_targets_ofList other member))
  · rwa [object]

theorem snapshotText_endsLike (closed : heap.IsClosed) {live : LiveObject} {target : Target}
    {canned : Canned} {expanded : List Target} {snapshot : Snapshot} {world : World}
    {number fuel fuel' : Nat} (registry : Registry)
    (planned : Snapshot.plan (.object live) target canned expanded = .ok snapshot)
    (plain : canned.IsPlain) (placed : world.snapshots[number]? = some snapshot)
    (known : live ∈ heap.objects) (enough : heap.objects.length ≤ fuel)
    (enough' : heap.objects.length ≤ fuel') :
    (snapshotText (Node.attempt heap fuel) number registry).EndsLike
      (snapshotText (Node.attemptWithin heap heap.objects.length fuel') number registry)
      ⟨world, .empty⟩ := by
  have confined := isConfined_of_plan registry (.ofSnapshot number) planned known
  obtain ⟨_, same, built, rfl⟩ := Snapshot.built_of_plan planned
  cases same
  obtain ⟨object, _, _, pending, uncached, _, _⟩ := Node.built_of_build built
  obtain ⟨left, less, begun⟩ := World.begun_hasRoom world number plain (object ▸ known)
  have rooted := Node.attempt_endsLike closed (target :: expanded ++ registry.targets) enough
    enough' left less _ _ _ _ begun confined
  refine .of_eq (.inSession ?_) (snapshotText_run placed uncached)
    (snapshotText_run placed uncached)
  refine .of_eq ?_ (renderRoot_run placed pending uncached) (renderRoot_run placed pending uncached)
  exact .bind (.tryCatch rooted fun report after => .of_failed rfl rfl) fun _ _ _ => .of_ok rfl rfl

theorem literalText_endsLike (closed : heap.IsClosed) {value : Value} (within : value.Within heap)
    (world : World) {fuel fuel' : Nat} (registry : Registry)
    (enough : heap.objects.length ≤ fuel) (enough' : heap.objects.length ≤ fuel') :
    (literalText (Node.attempt heap fuel) value registry).EndsLike
      (literalText (Node.attemptWithin heap heap.objects.length fuel') value registry)
      ⟨world, .empty⟩ := by
  have empty : Run.HasRoom ⟨world, .empty⟩ heap heap.objects.length :=
    Run.hasRoom_of_empty Session.empty_isReady rfl
  have fits := empty.retain value
  have retained : Walk.retain value ⟨world, .empty⟩ =
      .ok () (Run.retain ⟨world, .empty⟩ value) := rfl
  have confined : Task.IsConfined heap registry.targets (.value registry .none none value) :=
    ⟨⟨fun _ member => member, fun _ member => nomatch member⟩, within⟩
  have alike := Node.attempt_endsLike closed registry.targets enough enough'
  have follows := Node.attempt_follows heap fuel
  refine .of_eq ?_ (Walk.bind_ok retained) (Walk.bind_ok retained)
  have written := Encode.value_endsLike follows alike none value fits confined
  refine .bind written fun code after ended => ?_
  cases Encode.value_traced registry .none follows none value fits.ready with
  | error failed _ =>
    rw [failed] at ended
    cases ended
  | ok finished walked =>
    rw [finished] at ended
    cases ended
    have done : code.IsFinished := (walked.ready fits.ready).1
    rw [Code.source_eq_pure _ _ done, Code.source_eq_pure _ _ done]
    exact .of_ok rfl rfl

/-- Writing a literal is a walk through its value, with what came of it printed and laid out. -/
theorem load_cases (heap : Heap) (world : World) (value : Value) (registry : Registry) :
    (∃ code events after,
      Walked heap (.value registry .none none value code) (Run.retain ⟨world, .empty⟩ value)
        events after ∧
      heap.load world value registry =
        ⟨.ok (Layout.format registry.options
          (if code.isReturn then "return " ++ code.written ++ ";" else code.written)),
          after.world, after.session⟩) ∨
    ∃ stop events after,
      Stopped heap (.value registry .none none value) (Run.retain ⟨world, .empty⟩ value) events
        stop after ∧
      heap.load world value registry = ⟨.error stop, after.world, after.session⟩ := by
  have retained : Walk.retain value ⟨world, .empty⟩ =
      .ok () (Run.retain ⟨world, .empty⟩ value) := rfl
  have empty : (Run.retain ⟨world, .empty⟩ value).session.IsReady :=
    Session.empty_isReady.of_memo_eq (Run.retain_memo _ _)
  have follows := Node.attempt_follows heap (heap.fuel world)
  cases Encode.value_traced registry .none follows none value empty with
  | @ok code events after ended walked =>
    have done : code.IsFinished := (walked.ready empty).1
    have loaded : literalText (heap.attempt world) value registry ⟨world, .empty⟩ =
        .ok (Layout.format registry.options
          (if code.isReturn then "return " ++ code.written ++ ";" else code.written)) after := by
      refine (Walk.bind_ok retained).trans ((Walk.bind_ok ended).trans ?_)
      rw [Code.source_eq_pure _ _ done]
      rfl
    rw [load, perform, loaded]
    exact .inl ⟨code, events, after, walked, rfl⟩
  | @error stop events after ended stopped =>
    have loaded : literalText (heap.attempt world) value registry ⟨world, .empty⟩ =
        .error stop after := (Walk.bind_ok retained).trans (Walk.bind_error ended)
    rw [load, perform, loaded]
    exact .inr ⟨stop, events, after, stopped, rfl⟩

/-- The events of that walk are all that comes to be known of it. -/
theorem load_events (heap : Heap) (world : World) (value : Value) (registry : Registry) :
    ∃ events, (heap.load world value registry).world.since world = Event.invocations events ∧
      ((∃ code after, Walked heap (.value registry .none none value code)
          (Run.retain ⟨world, .empty⟩ value) events after) ∨
        ∃ stop after, Stopped heap (.value registry .none none value)
          (Run.retain ⟨world, .empty⟩ value) events stop after) := by
  rcases load_cases heap world value registry with
    ⟨code, events, after, walked, loaded⟩ | ⟨stop, events, after, stopped, loaded⟩
  · rw [loaded]
    exact ⟨events, World.since_of_history walked.growsBy.history, .inl ⟨code, after, walked⟩⟩
  · rw [loaded]
    exact ⟨events, World.since_of_history stopped.growsBy.history, .inr ⟨stop, after, stopped⟩⟩

/-- A rendering invokes no more accessors than the objects of the heap can get methods. -/
theorem render_invocations_le {live : LiveObject} {target : Target} {canned : Canned}
    {expanded : List Target} {snapshot : Snapshot} {world : World} {number : Nat}
    (closed : heap.IsClosed) (registry : Registry)
    (planned : Snapshot.plan (.object live) target canned expanded = .ok snapshot)
    (plain : canned.IsPlain) (placed : world.snapshots[number]? = some snapshot)
    (known : live ∈ heap.objects) :
    ((heap.render world number registry).world.since world).length ≤
      heap.schemas (target :: expanded ++ registry.targets) := by
  have confined := isConfined_of_plan registry (.ofSnapshot number) planned known
  obtain ⟨events, root, invocations, _, once⟩ :=
    render_once heap registry planned plain placed
  obtain ⟨_, same, built, rfl⟩ := Snapshot.built_of_plan planned
  cases same
  obtain ⟨rfl, rfl, _, _, _, accepts, _⟩ := Node.built_of_build built
  have inner := root.confined closed confined
  have own : Rendering.IsConfined heap (snapshot.root.target :: expanded ++ registry.targets)
      ⟨snapshot.root.object.identity, snapshot.root.target⟩ :=
    ⟨snapshot.root.object, known, rfl, List.mem_cons_self, accepts⟩
  rw [invocations]
  exact once.length_le_schemas (inner.rendering own)

theorem load_invocations_le (closed : heap.IsClosed) {value : Value}
    (within : value.Within heap) (world : World) (registry : Registry) :
    ((heap.load world value registry).world.since world).length ≤
      heap.schemas registry.targets := by
  have confined : Task.IsConfined heap registry.targets (.value registry .none none value) :=
    ⟨⟨fun _ member => member, fun _ member => nomatch member⟩, within⟩
  obtain ⟨events, invocations, ⟨code, after, walked⟩ | ⟨stop, after, stopped⟩⟩ :=
    load_events heap world value registry
  · rw [invocations]
    exact (walked.once nofun).length_le_schemas (walked.confined closed confined)
  · rw [invocations]
    exact (stopped.once nofun).length_le_schemas (stopped.confined closed confined)

/-- Every rendering over a closed heap ends, and so does every literal. The objects in progress are
never more than the heap has: a walk that gives up when they would be does the same, with fuel for
that many objects or with any more. The accessors that are invoked are no more than the objects can
get methods, each as the largest of the targets that take part. -/
theorem renders_end (heap : Heap) (closed : heap.IsClosed) (registry : Registry) :
    (∀ value target canned expanded snapshot (world : World) (number : Nat),
      Snapshot.plan value target canned expanded = .ok snapshot → canned.IsPlain →
      world.snapshots[number]? = some snapshot → value.Within heap →
      (heap.render world number registry).Bounded world heap
          (target :: expanded ++ registry.targets) ∧
        ∀ fuel ≥ heap.objects.length,
          heap.renderWithin heap.objects.length fuel world number registry =
            heap.render world number registry) ∧
    ∀ value (world : World), value.Within heap →
      (heap.load world value registry).Bounded world heap registry.targets ∧
        ∀ fuel ≥ heap.objects.length,
          heap.loadWithin heap.objects.length fuel world value registry =
            heap.load world value registry := by
  constructor
  · intro value target canned expanded snapshot world number planned plain placed within
    obtain ⟨live, rfl, _, _⟩ := Snapshot.built_of_plan planned
    have known : live ∈ heap.objects := Value.within_object.mp within
    have alike {fuel : Nat} (enough : heap.objects.length ≤ fuel) :=
      perform_of_endsLike (snapshotText_endsLike closed registry planned plain placed known
        (heap.length_le_fuel world) enough)
    refine ⟨⟨(alike (Nat.le_refl _)).2, ?_⟩, fun fuel enough => (alike enough).1⟩
    exact render_invocations_le closed registry planned plain placed known
  · intro value world within
    have alike {fuel : Nat} (enough : heap.objects.length ≤ fuel) :=
      perform_of_endsLike (literalText_endsLike closed within world registry
        (heap.length_le_fuel world) enough)
    refine ⟨⟨(alike (Nat.le_refl _)).2, ?_⟩, fun fuel enough => (alike enough).1⟩
    exact load_invocations_le closed within world registry

end Heap

/-! ### Two objects that lead to each other -/

/-- A heap is closed if everything that it hands out comes from a store over the heap. -/
theorem Heap.Keeps.isClosed {heap : Heap} {store : List Value} (keeps : heap.Keeps store)
    (within : ∀ value ∈ store, value.Within heap) : heap.IsClosed :=
  fun _ _ _ _ _ answered value given => within value (keeps.answers answered value given)

namespace Ring

theorem isClosed : heap.IsClosed := by
  refine keeps.isClosed fun value stored => ?_
  have values : script.values =
      [.object first, .object second, .object second, .object first] := rfl
  have object : value = .object first ∨ value = .object second := by
    rw [values] at stored
    simp only [List.mem_cons, List.not_mem_nil, or_false] at stored
    tauto
  rcases object with rfl | rfl <;> exact Value.within_object.mpr (by decide)

theorem renders_end_ring :
    ((heap.render world 0 .root).result ≠ .error .outOfFuel ∧
      ((heap.render world 0 .root).world.since world).length ≤ 2 ∧
      heap.renderWithin 2 2 world 0 .root = heap.render world 0 .root) ∧
    (heap.load world (.object first) .root).result ≠ .error .outOfFuel := by
  have within : (Value.object first).Within heap := Value.within_object.mpr (by decide)
  obtain ⟨renders, loads⟩ := Heap.renders_end heap isClosed .root
  obtain ⟨bounded, limited⟩ := renders _ _ _ _ snapshot world 0 planned Canned.empty_isPlain rfl
    within
  have schemas : heap.schemas (node :: [node] ++ Registry.root.targets) = 2 := by decide +kernel
  refine ⟨⟨bounded.ends, schemas ▸ bounded.invocations_le, limited 2 (by decide)⟩, ?_⟩
  exact (loads _ world within).1.ends

end Ring

end FrozenGraph
