/-
This file is the converse of `Proofs/Traced`: where a part of a walk ends with an answer as `Walked`
says, the walk of the library does the same, with enough fuel. The fuel that a part needs is the
depth of its renderings, so it is found by induction on the relation. Over a closed heap every
rendering has that fuel, and so a rendering succeeds exactly where its root can be walked through.
-/

import FrozenGraph.Proofs.Bounded
import FrozenGraph.Proofs.Substituted

namespace FrozenGraph

/-- Where nodes are rendered in some way, the walk for a part leads from one state to another and
ends with what came of the part. -/
def Part.EndsIn (heap : Heap) (attempt : Attempt) (before after : Run) : Part → Prop
  | .value registry expansions declared content code =>
    Encode.value (expandObject attempt registry expansions) registry expansions declared content
      before = .ok code after
  | .items registry expansions contents codes =>
    Encode.allItems (expandObject attempt registry expansions) registry expansions contents before =
      .ok codes after
  | .object registry expansions live target code =>
    expandObject attempt registry expansions live target before = .ok code after
  | .answer node registry declared content code =>
    node.express attempt registry (node.inner registry) declared content before = .ok code after
  | .methods node registry ledger accessors overrides =>
    node.overrides heap attempt registry (node.inner registry) ledger accessors before =
      .ok overrides after

namespace Part.EndsIn

variable {heap : Heap} {attempt : Attempt} {registry : Registry} {expansions : Expansions}
  {node : Node} {before between after : Run} {code : Code}

theorem list {declared : Option DeclaredType} {identity : Identity} {items : List Value}
    {codes : List Code} (unknown : before.session.memo.find? identity = none)
    (written : EndsIn heap attempt before after (.items registry expansions items codes)) :
    EndsIn heap attempt before (after.record identity (.list codes))
      (.value registry expansions declared (.list identity items) (.list codes)) := by
  show Encode.value _ _ _ _ _ before = _
  rw [Encode.value, Walk.bind_get, unknown]
  exact Walk.bind_ok written

theorem literalObject {declared : Option DeclaredType} {live : LiveObject} {target : Target}
    (unknown : before.session.memo.find? live.identity = none)
    (fits : Encode.targetFor? registry expansions declared live.runtime = some target)
    (expanded : EndsIn heap attempt before after
      (.object registry expansions live target code)) :
    EndsIn heap attempt before after (.value registry expansions declared (.object live) code) := by
  show Encode.value _ _ _ _ _ before = _
  rw [Encode.value, Walk.bind_get, unknown, fits]
  exact expanded

theorem item {value : Value} {rest : List Value} {codes : List Code}
    (head : EndsIn heap attempt (before.retain value) between
      (.value registry expansions none value code))
    (tail : EndsIn heap attempt between after (.items registry expansions rest codes)) :
    EndsIn heap attempt before after
      (.items registry expansions (value :: rest) (code :: codes)) := by
  have retained : Walk.retain value before = .ok () (before.retain value) := rfl
  show Encode.allItems _ _ _ _ before = _
  rw [Encode.allItems, Walk.bind_ok retained, Walk.bind_ok head, Walk.bind_ok tail]
  rfl

/-- A node that is built and not in progress takes one unit of fuel more than its methods. -/
theorem rendered {fuel : Nat} {object : LiveObject} {target : Target}
    {overrides : List (Override Deferred)}
    (unknown : before.session.memo.find? object.identity = none)
    (built : Node.build object target expansions = .ok node)
    (free : before.session.chain.contains object.identity = false)
    (overridden : EndsIn heap (Node.attempt heap fuel) (before.enter object target) after
      (.methods node registry .empty node.accessors overrides))
    (finished : Code.IsFinished (.anonymous node.target.declaredType overrides)) :
    EndsIn heap (Node.attempt heap (fuel + 1)) before
      ((after.leave object.identity).record object.identity
        (.deferred (.node (node.complete (node.classText registry overrides)))))
      (.object registry expansions object target
        (.deferred (.node (node.complete (node.classText registry overrides))))) := by
  obtain ⟨rfl, rfl, rfl, _, _, _, _⟩ := Node.built_of_build built
  have entered := node.enter_run before
  rw [if_neg (by simp [free])] at entered
  have written := Node.classSource_ok overridden finished
  have attempted : node.renderFresh (Node.attempt heap (fuel + 1)) registry before =
      .ok (node.classText registry overrides) (after.leave node.object.identity) := by
    refine (Walk.bind_ok entered).trans ?_
    rw [Node.attempt]
    exact Walk.annotated_ok (Walk.bind_ok (Walk.ensuring_ok written))
  show expandObject _ _ _ _ _ before = _
  rw [expandObject, Walk.bind_get, unknown, built]
  exact Walk.bind_ok attempted

theorem literal {declared : DeclaredType} {value : Value}
    (routed : Route.choose registry node.expansions before.session declared value = .ok .literal)
    (written : EndsIn heap attempt before after
      (.value (node.inner registry) node.expansions (some declared) value code)) :
    EndsIn heap attempt before (after.recordFor value code)
      (.answer node registry declared value code) := by
  show node.express _ _ _ _ _ before = _
  rw [Node.express, Walk.bind_get, routed, Walk.bind_lift_ok]
  exact (Walk.bind_ok written).trans (Node.record_run value code after)

theorem expanded {declared : DeclaredType} {live : LiveObject} {target : Target}
    (routed : Route.choose registry node.expansions before.session declared (.object live) =
      .ok (.expand target))
    (written : EndsIn heap attempt before after
      (.object (node.inner registry) node.expansions live target code)) :
    EndsIn heap attempt before (after.record live.identity code)
      (.answer node registry declared (.object live) code) := by
  show node.express _ _ _ _ _ before = _
  rw [Node.express, Walk.bind_get, routed, Walk.bind_lift_ok]
  exact Walk.bind_ok written

theorem skipped {ledger : Ledger} {method : Method} {rest : List Method}
    {overrides : List (Override Deferred)} (void : method.returns = .void)
    (later : EndsIn heap attempt before after (.methods node registry ledger rest overrides)) :
    EndsIn heap attempt before after
      (.methods node registry ledger (method :: rest)
        (.empty method.name method.returns :: overrides)) := by
  show node.overrides _ _ _ _ _ _ before = _
  rw [Node.overrides, if_pos void, Walk.bind_ok later]
  rfl

theorem method {ledger ledger' : Ledger} {method : Method} {rest : List Method} {value : Value}
    {allocated : Nat} {noted : Run} {overrides : List (Override Deferred)}
    (answers : method.returns ≠ .void)
    (replied : heap.reply before.world node.object.identity method.name = (.ok value, allocated))
    (recorded : ledger.record method value
      ((before.note ⟨node.object.identity, method.name, .ok value⟩ allocated).retain value) =
      .ok ledger' noted)
    (expressed : EndsIn heap attempt noted between
      (.answer node registry method.returns value code))
    (later : EndsIn heap attempt between after (.methods node registry ledger' rest overrides)) :
    EndsIn heap attempt before after
      (.methods node registry ledger (method :: rest)
        (.returning method.name method.returns code :: overrides)) := by
  show node.overrides _ _ _ _ _ _ before = _
  rw [Node.overrides, if_neg answers,
    Walk.bind_ok (Walk.annotatedAfter_ok (Node.answer_ok replied)), Walk.bind_ok recorded,
    Walk.bind_ok (Walk.annotatedAfter_ok expressed), Walk.bind_ok later]
  rfl

end Part.EndsIn

/-- With enough fuel, the library walks as the relation says. -/
theorem Walked.attained {heap : Heap} {part : Part} {before after : Run} {events : List Event}
    (walked : Walked heap part before events after) (ready : before.session.IsReady) :
    ∃ enough, ∀ fuel ≥ enough, part.EndsIn heap (Node.attempt heap fuel) before after := by
  induction walked with
  | scalar | noItem | noMethod => exact ⟨0, fun _ _ => rfl⟩
  | known identified found =>
    exact ⟨0, fun _ _ => Encode.value_of_known identified found _ _ _ _⟩
  | list unknown _ inductionHypothesis =>
    obtain ⟨enough, ends⟩ := inductionHypothesis ready
    exact ⟨enough, fun fuel le => .list unknown (ends fuel le)⟩
  | literalObject unknown fits _ inductionHypothesis =>
    obtain ⟨enough, ends⟩ := inductionHypothesis ready
    exact ⟨enough, fun fuel le => .literalObject unknown fits (ends fuel le)⟩
  | @item _ _ value _ _ _ before _ _ _ _ headWalked _ head tail =>
    have kept : (before.retain value).session.IsReady := ready.of_memo_eq (Run.retain_memo _ _)
    obtain ⟨first, headEnds⟩ := head kept
    obtain ⟨second, tailEnds⟩ := tail (headWalked.ready kept).2
    exact ⟨max first second, fun fuel le =>
      .item (headEnds fuel (le_of_max_le_left le)) (tailEnds fuel (le_of_max_le_right le))⟩
  | reused found => exact ⟨0, fun _ _ => expandObject_of_known found _ _ _⟩
  | @rendered _ _ object target _ _ before _ _ unknown built free overridden
      inductionHypothesis =>
    have kept : (before.enter object target).session.IsReady :=
      ready.of_memo_eq (Run.enter_memo _ _ _)
    obtain ⟨enough, ends⟩ := inductionHypothesis kept
    refine ⟨enough + 1, fun fuel le => ?_⟩
    obtain ⟨fuel, rfl⟩ := Nat.exists_eq_add_of_le' (Nat.le_of_add_left_le le)
    exact .rendered unknown built free (ends fuel (Nat.le_of_add_le_add_right le))
      (overridden.ready kept).1
  | null => exact ⟨0, fun _ _ => rfl⟩
  | recalled routed =>
    obtain ⟨_, identified, found⟩ := Route.known_of_choose routed
    refine ⟨0, fun _ _ => ?_⟩
    rw [Run.recordFor_of_known identified found]
    exact Node.express_of_known identified found _ _ _ _
  | literal routed _ inductionHypothesis =>
    obtain ⟨enough, ends⟩ := inductionHypothesis ready
    exact ⟨enough, fun fuel le => .literal routed (ends fuel le)⟩
  | expanded routed _ inductionHypothesis =>
    obtain ⟨enough, ends⟩ := inductionHypothesis ready
    exact ⟨enough, fun fuel le => .expanded routed (ends fuel le)⟩
  | skipped void _ inductionHypothesis =>
    obtain ⟨enough, ends⟩ := inductionHypothesis ready
    exact ⟨enough, fun fuel le => .skipped void (ends fuel le)⟩
  | method answers replied recorded expressedWalked _ expressed later =>
    have kept := ready.of_memo_eq (Ledger.memo_of_record recorded)
    obtain ⟨first, ends⟩ := expressed kept
    obtain ⟨second, laterEnds⟩ := later (expressedWalked.ready kept).2
    exact ⟨max first second, fun fuel le => .method answers replied recorded
      (ends fuel (le_of_max_le_left le)) (laterEnds fuel (le_of_max_le_right le))⟩

namespace Heap

variable {heap : Heap} {live : LiveObject} {target : Target} {canned : Canned}
  {expanded : List Target} {snapshot : Snapshot} {world : World} {number : Nat}
  {registry : Registry}

/-- Over a closed heap, a rendering does what it would do with any other fuel that is enough. -/
theorem render_eq_of_fuel (closed : heap.IsClosed)
    (planned : Snapshot.plan (.object live) target canned expanded = .ok snapshot)
    (plain : canned.IsPlain) (placed : world.snapshots[number]? = some snapshot)
    (known : live ∈ heap.objects) {fuel : Nat} (enough : heap.objects.length ≤ fuel) :
    heap.render world number registry =
      perform world .empty (snapshotText (Node.attempt heap fuel) number registry) := by
  have own := perform_of_endsLike (snapshotText_endsLike closed registry planned plain placed
    known (heap.length_le_fuel world) enough)
  have other := perform_of_endsLike (snapshotText_endsLike closed registry planned plain placed
    known enough enough)
  exact own.1.symm.trans other.1

/-- Where the accessors of a planned root can be walked through, its rendering succeeds, and the
walk is all that it does to the world beside the root itself. -/
theorem render_of_walked (closed : heap.IsClosed)
    (planned : Snapshot.plan (.object live) target canned expanded = .ok snapshot)
    (plain : canned.IsPlain) (placed : world.snapshots[number]? = some snapshot)
    (known : live ∈ heap.objects) {overrides : List (Override Deferred)} {events : List Event}
    {after : Run}
    (walked : Walked heap (.methods snapshot.root registry (.ofSnapshot number)
      snapshot.root.accessors overrides) (world.begun number snapshot) events after) :
    heap.render world number registry =
      ⟨.ok (snapshot.root.classText registry overrides),
        after.world.onRoot number (·.complete (snapshot.root.classText registry overrides)),
        .empty⟩ := by
  obtain ⟨_, same, built, rfl⟩ := Snapshot.built_of_plan planned
  cases same
  obtain ⟨_, _, _, pending, uncached, _, _⟩ := Node.built_of_build built
  have ready : (world.begun number snapshot).session.IsReady :=
    (Session.opening_isReady plain).of_memo_eq rfl
  obtain ⟨needed, ends⟩ := walked.attained ready
  have overridden := ends (max needed heap.objects.length) (Nat.le_max_left _ _)
  have written := Node.classSource_ok overridden (walked.ready ready).1
  have attempted : Node.attempt heap (max needed heap.objects.length + 1) (.ofSnapshot number)
      snapshot.root registry (world.begun number snapshot) =
      .ok (snapshot.root.classText registry overrides)
        (after.leave snapshot.root.object.identity) := by
    rw [Node.attempt]
    exact Walk.annotated_ok (Walk.bind_ok (Walk.ensuring_ok written))
  have found : (after.leave snapshot.root.object.identity).world.root? number =
      some snapshot.root.start := by
    show after.world.root? number = _
    rw [walked.growsBy.roots]
    exact World.root?_onRoot _ (congrArg (Option.map Snapshot.root) placed)
  have rooted := renderRoot_ok placed pending uncached attempted found
  rw [render_eq_of_fuel closed planned plain placed known
      (Nat.le_succ_of_le (Nat.le_max_right needed _)),
    perform, snapshotText_run placed uncached, Walk.inSession, rooted]
  rfl

/-- Over a closed heap, a rendering succeeds with a text exactly if the accessors of its root can be
walked through, and the text is that of the methods that come of them. -/
theorem render_ok_iff (closed : heap.IsClosed)
    (planned : Snapshot.plan (.object live) target canned expanded = .ok snapshot)
    (plain : canned.IsPlain) (placed : world.snapshots[number]? = some snapshot)
    (known : live ∈ heap.objects) {text : String} :
    (heap.render world number registry).result = .ok text ↔
      ∃ overrides events after,
        Walked heap (.methods snapshot.root registry (.ofSnapshot number)
          snapshot.root.accessors overrides) (world.begun number snapshot) events after ∧
        text = snapshot.root.classText registry overrides := by
  constructor
  · intro rendered
    obtain ⟨events, root, _⟩ := render_rootWalk heap registry planned plain placed
    rw [rendered] at root
    cases root with
    | ok printed walked => exact ⟨_, _, _, walked, printed⟩
  · rintro ⟨overrides, events, after, walked, rfl⟩
    rw [render_of_walked closed planned plain placed known walked]

end Heap

end FrozenGraph
