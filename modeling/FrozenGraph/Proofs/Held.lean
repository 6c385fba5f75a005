/-
This file shows that an object is frozen alike on its own and inside of a holder, an object whose
only accessor answers it. The holder's method returns the text that the object has as a root. A
holder takes everything that the root takes; the converse needs that the object and its own answers
keep to their declared types, and there are baskets whose items do not.
-/

import FrozenGraph.Proofs.Attained
import FrozenGraph.Proofs.Declared
import FrozenGraph.Proofs.Nested

namespace FrozenGraph

/-! ### Frozen values -/

namespace Heap

/-- A value planned in a world and rendered at once. -/
def freeze (heap : Heap) (world : World) (value : Value) (target : Target) (canned : Canned)
    (expanded : List Target) (registry : Registry) : Except Stop String :=
  match Snapshot.plan value target canned expanded with
  | .error report => .error (.failed report)
  | .ok snapshot =>
    let (world, number) := world.add snapshot
    (heap.render world number registry).result

end Heap

/-- The state in which the accessors of a root begin to be invoked that is planned in a world. -/
def World.opened (world : World) (root : Node) (canned : Canned) : Run :=
  let snapshot : Snapshot := ⟨root, canned, .empty⟩
  (world.add snapshot).1.begun world.snapshots.length snapshot

theorem Snapshot.plan_of_built {live : LiveObject} {target : Target} {expanded : List Target}
    {root : Node} (built : Node.build live target (.ofList expanded) = .ok root)
    (canned : Canned) :
    Snapshot.plan (.object live) target canned expanded = .ok ⟨root, canned, .empty⟩ := by
  rw [Snapshot.plan, built]
  rfl

/-- A snapshot that is added stands at the next number. -/
theorem World.placed_add (world : World) (snapshot : Snapshot) :
    (world.add snapshot).1.snapshots[world.snapshots.length]? = some snapshot :=
  List.getElem?_concat_length

/-- Over a closed heap, a value is frozen exactly if it can be planned and the accessors of the root
can be walked through. -/
theorem Heap.freeze_ok_iff {heap : Heap} (closed : heap.IsClosed) {live : LiveObject}
    (known : live ∈ heap.objects) {canned : Canned} (plain : canned.IsPlain) {world : World}
    {target : Target} {expanded : List Target} {registry : Registry} {text : String} :
    heap.freeze world (.object live) target canned expanded registry = .ok text ↔
      ∃ root, Node.build live target (.ofList expanded) = .ok root ∧
        ∃ overrides events after,
          Walked heap (.methods root registry (.ofSnapshot world.snapshots.length) root.accessors
            overrides) (world.opened root canned) events after ∧
          text = root.classText registry overrides := by
  cases built : Node.build live target (.ofList expanded) with
  | error report =>
    have refused : Snapshot.plan (.object live) target canned expanded = .error report := by
      rw [Snapshot.plan, built]
      rfl
    simp [freeze, refused]
  | ok root =>
    have planned := Snapshot.plan_of_built built canned
    simp only [freeze, planned, World.add, Except.ok.injEq, exists_eq_left']
    exact render_ok_iff closed planned plain (world.placed_add _) known

/-! ### Objects that hold another one -/

/-- An object only holds another one: its target has one accessor, whose declared type is expanded
as the target of the other object; the accessor answers that object whenever it is invoked; and
nothing leads back from there. -/
structure Heap.Holds (heap : Heap) (expanded : List Target) (holder : LiveObject) (outer : Target)
    (method : Method) (object : LiveObject) (target : Target) : Prop where
  accessors : outer.accessors = .ok [method]
  registered : (Expansions.ofList expanded).byDeclared? method.returns = some target
  answers : ∀ history,
    heap.answer history holder.identity method.name = .ok (.existing (.object object))
  unreached : ∀ live, heap.Reaches object live → live.identity ≠ holder.identity

/-- A state in which an object alone is in progress and nothing is known. -/
structure Run.Begun (run : Run) (object : Identity) : Prop where
  memo : run.session.memo = .empty
  chain : run.session.chain.identities = [object]

theorem World.opened_isBegun (world : World) (root : Node) :
    (world.opened root .empty).Begun root.object.identity where
  memo := rfl
  chain := rfl

/-- A root begins in a world as good as the one in which an answer is noted that brings nothing into
being. -/
theorem World.MintsLike.opened {heap : Heap} {inside : List LiveObject} {world world' : World}
    (mints : world.MintsLike world' heap inside) (root : Node) {ledger ledger' : Ledger}
    {method : Method} {value : Value} {invocation : Invocation} {run noted : Run}
    (recorded : ledger.record method value
      ((run.note invocation world'.allocated).retain value) = .ok ledger' noted) :
    (world.opened root .empty).world.MintsLike noted.world heap inside := by
  rw [World.MintsLike, Ledger.allocated_of_record recorded]
  exact mints

namespace Run.Begun

variable {heap : Heap} {holder object : LiveObject} {run : Run}

theorem find?_eq_none (begun : run.Begun holder.identity) (identity : Identity) :
    run.session.memo.find? identity = none := by
  rw [begun.memo]
  rfl

/-- What a holder answers is noted before anything else happens. -/
theorem noted (begun : run.Begun holder.identity) {ledger ledger' : Ledger} {method : Method}
    {value : Value} {invocation : Invocation} {allocated : Nat} {noted : Run}
    (recorded : ledger.record method value ((run.note invocation allocated).retain value) =
      .ok ledger' noted) : noted.Begun holder.identity where
  memo := (Ledger.memo_of_record recorded).trans begun.memo
  chain := by
    rw [Ledger.chain_of_record recorded]
    exact begun.chain

/-- An object that begins inside of a holder is as good as one that begins on its own, as far as it
can see. -/
theorem mirrored_enter {inside : List LiveObject} {alone : Run}
    (own : alone.Begun object.identity) (begun : run.Begun holder.identity)
    (mints : alone.world.MintsLike run.world heap inside)
    (unreached : ∀ live ∈ inside, live.identity ≠ holder.identity) (target : Target) :
    alone.Mirrored heap inside (run.enter object target) where
  memo := begun.memo.trans own.memo.symm
  mints := mints
  busy live member := by
    have entered : (run.enter object target).session.chain.identities =
        [holder.identity, object.identity] := by
      rw [← List.singleton_append, ← begun.chain]
      simp [Run.enter, Chain.identities]
    rw [Bool.eq_iff_iff, Chain.contains_iff, Chain.contains_iff, entered, own.chain]
    simp [unreached live member]

end Run.Begun

section Holding

variable {heap : Heap} {expanded : List Target} {holder object : LiveObject}
  {outer target : Target} {method : Method} {registry : Registry} {node root : Node}
  {alone before after : Run} {events : List Event}

/-- The holder is none of the objects that can be reached from what it holds. -/
theorem Heap.Holds.apart (holds : heap.Holds expanded holder outer method object target) :
    ∀ live ∈ heap.reached object, live.identity ≠ holder.identity :=
  fun live member => holds.unreached live (mem_reached.mp member).2

/-- The object that is held is not the holder, so it is not in progress where the holder begins. -/
theorem Heap.Holds.free (holds : heap.Holds expanded holder outer method object target)
    (begun : before.Begun holder.identity) :
    before.session.chain.contains object.identity = false := by
  rw [Bool.eq_false_iff, ne_eq, Chain.contains_iff, begun.chain, List.mem_singleton]
  exact holds.unreached object .refl

/-- An object that can be written as a root can be written where a holder answers it. -/
theorem Heap.Holds.answer_of_root (holds : heap.Holds expanded holder outer method object target)
    (closed : heap.IsClosed) (known : object ∈ heap.objects)
    (stable : ∀ live ∈ heap.reached object, heap.IsStable live)
    (expansions : node.expansions = .ofList expanded)
    (built : Node.build object target (.ofList expanded) = .ok root)
    (own : alone.Begun object.identity) (begun : before.Begun holder.identity)
    (mints : alone.world.MintsLike before.world heap (heap.reached object)) {ledger : Ledger}
    {overrides : List (Override Deferred)}
    (walked : Walked heap (.methods root registry ledger root.accessors overrides) alone events
      after) :
    ∃ events' after', Walked heap
      (.answer node registry method.returns (.object object)
        (.deferred (.node (root.complete (root.classText registry overrides))))) before events'
      after' := by
  obtain ⟨rfl, rfl, same, _, _, accepts, _⟩ := Node.built_of_build built
  have member := Heap.mem_reached_self known
  have mirrored := own.mirrored_enter begun mints holds.apart root.target
  have alike := root.writesAlike_inner (closed.reached root.object) stable member registry
    root.accessors
  obtain ⟨after', nested, _⟩ := alike.mirrored member (stable _ member) walked mirrored .empty
  have unknown := begun.find?_eq_none root.object.identity
  have known? : Route.known? before.session (.object root.object) = none := unknown
  have written := Walked.rendered unknown built (holds.free begun) nested
  rw [Node.inner_eq (same.trans expansions.symm), ← expansions] at written
  have registered := holds.registered
  rw [← expansions] at registered
  cases literal : registry.hasLiteral method.returns with
  | true =>
    have routed : Route.choose registry node.expansions before.session method.returns
        (.object root.object) = .ok .literal :=
      Route.choose_eq_literal_iff.mpr ⟨rfl, known?, literal⟩
    have fits := node.targetFor?_inner registry registered accepts
    exact ⟨_, _, .literal routed (.literalObject unknown fits written)⟩
  | false =>
    have routed := Route.choose_eq_expand_iff.mpr
      ⟨rfl, known?, literal, registered, holds.free begun⟩
    exact ⟨_, _, .expanded routed written⟩

/-- What a holder answers is written as the target that its declared type is expanded as. -/
theorem Heap.Holds.object_of_answer
    (holds : heap.Holds expanded holder outer method object target)
    (accepts : target.accepts object.runtime) (expansions : node.expansions = .ofList expanded)
    (begun : before.Begun holder.identity) {code : Code}
    (walked : Walked heap (.answer node registry method.returns (.object object) code) before
      events after) :
    ∃ after', Walked heap (.object (node.inner registry) node.expansions object target code) before
      events after' := by
  have unknown := begun.find?_eq_none object.identity
  have registered := holds.registered
  rw [← expansions] at registered
  cases walked with
  | recalled routed =>
    obtain ⟨identity, identified, found⟩ := Route.known_of_choose routed
    cases identified
    rw [unknown] at found
    cases found
  | literal routed written =>
    cases written with
    | known identified found =>
      cases identified
      rw [unknown] at found
      cases found
    | literalObject _ chosen written =>
      have fits := node.targetFor?_inner registry registered accepts
      obtain rfl := Option.some.inj (fits.symm.trans chosen)
      exact ⟨_, written⟩
  | expanded routed written =>
    obtain ⟨_, _, _, chosen, _⟩ := Route.choose_eq_expand_iff.mp routed
    obtain rfl := Option.some.inj (registered.symm.trans chosen)
    exact ⟨_, written⟩

/-- An object that can be written where a holder answers it can be planned. -/
theorem Run.Begun.built_of_object (begun : before.Begun holder.identity)
    {expansions : Expansions} {code : Code}
    (walked : Walked heap (.object registry expansions object target code) before events after) :
    ∃ root overrides events after, Node.build object target expansions = .ok root ∧
      Walked heap (.methods root registry .empty root.accessors overrides)
        (before.enter object target) events after := by
  cases walked with
  | reused found =>
    rw [begun.find?_eq_none] at found
    cases found
  | rendered _ built _ overridden => exact ⟨_, _, _, _, built, overridden⟩

/-- An object that can be written where a holder answers it can be written as a root, if its answers
keep to their declared types. -/
theorem Heap.Holds.root_of_object (holds : heap.Holds expanded holder outer method object target)
    (closed : heap.IsClosed) (known : object ∈ heap.objects)
    (stable : ∀ live ∈ heap.reached object, heap.IsStable live)
    (built : Node.build object target (.ofList expanded) = .ok root)
    (keeps : heap.KeepsTypes registry (.ofList expanded) object root.accessors)
    (own : alone.Begun object.identity) (begun : before.Begun holder.identity)
    (mints : alone.world.MintsLike before.world heap (heap.reached object))
    {overrides : List (Override Deferred)}
    (walked : Walked heap (.methods root (root.inner registry) .empty root.accessors overrides)
      (before.enter object target) events after) (ledger : Ledger) :
    ∃ after', Walked heap (.methods root registry ledger root.accessors overrides) alone events
      after' := by
  obtain ⟨rfl, rfl, same, _, _, _, _⟩ := Node.built_of_build built
  have member := Heap.mem_reached_self known
  have mirrored := own.mirrored_enter begun mints holds.apart root.target
  rw [← same] at keeps
  have alike := root.writesAlike_outer (closed.reached root.object) stable member keeps
  obtain ⟨after', rooted, _⟩ :=
    alike.mirrored member (stable _ member) walked mirrored.symm ledger
  exact ⟨after', rooted⟩

/-- A holder answers what it holds, and brings nothing into being. -/
theorem Heap.Holds.reply_eq (holds : heap.Holds expanded holder outer method object target)
    (world : World) : heap.reply world holder.identity method.name =
      (.ok (.object object), world.allocated) := by
  rw [Heap.reply, holds.answers]
  rfl

/-- A type that is expanded is not the type of nothing. -/
theorem Heap.Holds.ne_void (holds : heap.Holds expanded holder outer method object target) :
    method.returns ≠ .void := by
  intro void
  have registered := holds.registered
  rw [void] at registered
  cases registered

end Holding

/-- The text of a class with one method that returns a text. -/
def Registry.holderText (registry : Registry) (outer : Target) (method : Method)
    (inner : String) : String :=
  Layout.format registry.options (Code.written
    (.anonymous outer.declaredType [.returning method.name method.returns (.raw inner)]))

/-- The text of an object with one method is made of what the method returns. -/
theorem Node.classText_single {node root : Node} (uncached : root.cached = none)
    (registry : Registry) (method : Method) (inner : String) :
    node.classText registry
        [.returning method.name method.returns (.deferred (.node (root.complete inner)))] =
      registry.holderText node.target method inner := by
  have finished : Deferred.finished (.node (root.complete inner)) = inner := by
    rw [Deferred.finished, Deferred.finished?, Node.complete, uncached]
    rfl
  rw [Node.classText, Registry.holderText, Code.written, Code.written, Expr.text_anonymous,
    Expr.text_anonymous, Expr.overridesText_returning, Expr.overridesText_returning,
    Expr.text_deferred, finished]
  rfl

namespace Heap

variable {heap : Heap} {registry : Registry} {expanded : List Target}
  {holder object : LiveObject} {outer target : Target} {method : Method} {node : Node}
  {world world' : World}

/-- What can be frozen on its own can be frozen inside of a holder, and the holder returns it. -/
theorem Holds.freeze_of_root (holds : heap.Holds expanded holder outer method object target)
    (closed : heap.IsClosed) (known : holder ∈ heap.objects) (within : object ∈ heap.objects)
    (stable : ∀ live ∈ heap.reached object, heap.IsStable live)
    (built : Node.build holder outer (.ofList expanded) = .ok node)
    (mints : world.MintsLike world' heap (heap.reached object)) {inner : String}
    (frozen : heap.freeze world (.object object) target .empty expanded registry = .ok inner) :
    heap.freeze world' (.object holder) outer .empty expanded registry =
      .ok (registry.holderText outer method inner) := by
  obtain ⟨root, builtRoot, overrides, events, after, walked, rfl⟩ :=
    (freeze_ok_iff closed within Canned.empty_isPlain).mp frozen
  obtain ⟨rfl, _, _, _, uncached, _, _⟩ := Node.built_of_build builtRoot
  obtain ⟨rfl, rfl, expansions, _, _, _, accessors⟩ := Node.built_of_build built
  have only : node.accessors = [method] := Except.ok.inj (accessors.symm.trans holds.accessors)
  have replied := holds.reply_eq (world'.opened node .empty).world
  obtain ⟨_, noted, recorded⟩ := Node.record_ok (.ofSnapshot world'.snapshots.length) method
    (.object root.object) (((world'.opened node .empty).note
      ⟨node.object.identity, method.name, .ok (.object root.object)⟩ world'.allocated).retain
      (.object root.object))
  obtain ⟨_, _, answered⟩ := holds.answer_of_root closed within stable expansions builtRoot
    (world.opened_isBegun root) ((world'.opened_isBegun node).noted recorded)
    (mints.opened root recorded) walked
  have overridden := Walked.method holds.ne_void replied recorded answered .noMethod
  rw [← only] at overridden
  refine (freeze_ok_iff closed known Canned.empty_isPlain).mpr
    ⟨node, built, _, _, _, overridden, ?_⟩
  exact (Node.classText_single uncached registry method _).symm

/-- What can be frozen inside of a holder can be frozen on its own, if it is what the holder's
accessor is declared to answer and its own answers keep to their declared types. -/
theorem Holds.root_of_freeze (holds : heap.Holds expanded holder outer method object target)
    (closed : heap.IsClosed) (known : holder ∈ heap.objects) (within : object ∈ heap.objects)
    (stable : ∀ live ∈ heap.reached object, heap.IsStable live)
    (accepts : target.accepts object.runtime)
    (keeps : ∀ methods, target.accessors = .ok methods →
      heap.KeepsTypes registry (.ofList expanded) object methods)
    (mints : world.MintsLike world' heap (heap.reached object)) {text : String}
    (frozen : heap.freeze world' (.object holder) outer .empty expanded registry = .ok text) :
    ∃ inner, heap.freeze world (.object object) target .empty expanded registry = .ok inner := by
  obtain ⟨node, built, overrides, events, after, walked, rfl⟩ :=
    (freeze_ok_iff closed known Canned.empty_isPlain).mp frozen
  obtain ⟨rfl, rfl, expansions, _, _, _, accessors⟩ := Node.built_of_build built
  rw [Except.ok.inj (accessors.symm.trans holds.accessors)] at walked
  cases walked with
  | skipped void _ => exact absurd void holds.ne_void
  | method _ replied recorded expressed _ =>
    rw [holds.reply_eq] at replied
    cases replied
    have begun := (world'.opened_isBegun node).noted recorded
    obtain ⟨_, written⟩ := holds.object_of_answer accepts expansions begun expressed
    obtain ⟨root, _, _, _, builtRoot, overridden⟩ := begun.built_of_object written
    obtain ⟨rfl, rfl, same, _, _, _, listed⟩ := Node.built_of_build builtRoot
    rw [Node.inner_eq same.symm] at overridden
    rw [expansions] at builtRoot
    obtain ⟨_, rooted⟩ := holds.root_of_object closed within stable builtRoot (keeps _ listed)
      (world.opened_isBegun root) begun (mints.opened root recorded) overridden
      (.ofSnapshot world.snapshots.length)
    exact ⟨_, (freeze_ok_iff closed within Canned.empty_isPlain).mpr
      ⟨root, builtRoot, _, _, _, rooted, rfl⟩⟩

/-- Frozen on its own or inside of a holder, an object is written alike. Whatever can be frozen as a
root can be frozen inside of a holder, whose one method returns the very same text; and what can be
frozen inside of a holder can be frozen as a root, if the object is of the type that the holder's
accessor is declared to answer and its own answers keep to their declared types. The worlds in which
the two begin need not be the same. -/
theorem freeze_nests (heap : Heap) (closed : heap.IsClosed) (registry : Registry)
    (world world' : World) (holds : heap.Holds expanded holder outer method object target)
    (known : holder ∈ heap.objects)
    (stable : ∀ live, heap.Reaches object live → heap.IsStable live)
    {snapshot : Snapshot}
    (planned : Snapshot.plan (.object holder) outer .empty expanded = .ok snapshot)
    (mints : world'.allocated = world.allocated ∨
      ∀ live, heap.Reaches object live → heap.AnswersGiven live) :
    (∀ inner, heap.freeze world (.object object) target .empty expanded registry = .ok inner →
      heap.freeze world' (.object holder) outer .empty expanded registry =
        .ok (registry.holderText outer method inner)) ∧
    (target.accepts object.runtime →
      (∀ methods, target.accessors = .ok methods →
        heap.KeepsTypes registry (.ofList expanded) object methods) →
      ((∃ text, heap.freeze world' (.object holder) outer .empty expanded registry = .ok text) ↔
        ∃ inner, heap.freeze world (.object object) target .empty expanded registry =
          .ok inner)) := by
  have within : object ∈ heap.objects :=
    Value.within_object.mp (closed holder known [] method.name _ (holds.answers []) _
      (List.mem_singleton_self _))
  have inside : ∀ live ∈ heap.reached object, heap.IsStable live :=
    fun live member => stable live (mem_reached.mp member).2
  have minted : world.MintsLike world' heap (heap.reached object) :=
    mints.imp_right fun given live member => given live (mem_reached.mp member).2
  obtain ⟨_, same, built, _⟩ := Snapshot.built_of_plan planned
  cases same
  refine ⟨fun inner frozen => ?_, fun accepts keeps => ⟨?_, ?_⟩⟩
  · exact holds.freeze_of_root closed known within inside built minted frozen
  · rintro ⟨text, frozen⟩
    exact holds.root_of_freeze closed known within inside accepts keeps minted frozen
  · rintro ⟨inner, frozen⟩
    exact ⟨_, holds.freeze_of_root closed known within inside built minted frozen⟩

end Heap

/-! ### A basket in a pantry -/

/-- Whether a body answers the same in every turn. -/
def Body.isConstant : Body → Bool
  | .value _ | .fail _ => true
  | .inTurn _ => false

/-- Where all bodies of a script answer the same in every turn, its objects are stable. -/
theorem Script.isStable {script : Script}
    (constant : ∀ entry ∈ script, ∀ accessor ∈ entry.accessors, accessor.2.isConstant)
    (live : LiveObject) : script.heap.IsStable live := by
  intro history history' accessor
  show script.answer history live.identity accessor = script.answer history' live.identity accessor
  unfold Script.answer
  split
  · rfl
  · rename_i entry found
    split
    · rfl
    · rename_i body listed
      obtain ⟨earlier, later, same, _⟩ := List.lookup_eq_some_iff.mp listed
      have member : (accessor, body) ∈ entry.accessors := by
        rw [same]
        exact List.mem_append_right _ List.mem_cons_self
      have answers := constant entry (List.mem_of_find?_eq_some found) _ member
      cases body with
      | value _ | fail _ => rfl
      | inTurn _ => cases answers

namespace Pantry

/-- Whatever can be iterated over. -/
def iterable : Target :=
  .interface "java.lang.Iterable"

/-- A basket has items. -/
def basket : Target :=
  (Target.interface "Basket").accessor "getItems" iterable.declaredType

/-- A pantry has a basket. -/
def pantry : Target :=
  (Target.interface "Pantry").accessor "getBasket" basket.declaredType

/-- The accessor of a basket. -/
def getItems : Method :=
  ⟨"getItems", [], iterable.declaredType, basket.name⟩

/-- The accessor of a pantry. -/
def getBasket : Method :=
  ⟨"getBasket", [], basket.declaredType, pantry.name⟩

/-- The types that are expanded. -/
def expanded : List Target :=
  [basket, iterable]

/-- A bag that can be iterated over. -/
def bagObject : LiveObject :=
  ⟨.entry "bag", ⟨⟨"Bag"⟩, [iterable.name]⟩, none⟩

/-- The basket. -/
def basketObject : LiveObject :=
  ⟨.entry "basket", ⟨basket.name, []⟩, none⟩

/-- The pantry. -/
def pantryObject : LiveObject :=
  ⟨.entry "pantry", ⟨pantry.name, []⟩, none⟩

/-- The pantry answers the basket, and the basket its items. -/
def script (items : Template) : Script :=
  [⟨bagObject, []⟩, ⟨basketObject, [("getItems", .value items)]⟩,
    ⟨pantryObject, [("getBasket", .value (.existing (.object basketObject)))]⟩]

/-- The heap of a pantry whose basket has some items. -/
def heap (items : Template) : Heap :=
  (script items).heap

/-- Items that are a list, as they come: there is an apple in it. -/
def apples : Template :=
  .fresh [.existing (.scalar (.string "apple"))]

/-- Items that are the bag. -/
def bagged : Template :=
  .existing (.object bagObject)

/-- The pantry as it is planned. -/
def snapshot : Snapshot where
  root := ⟨pantryObject, pantry, pantry.methods, .ofList expanded, .pending, none⟩
  canned := .empty
  origins := .empty

theorem planned : Snapshot.plan (.object pantryObject) pantry .empty expanded = .ok snapshot := by
  have built : Node.build pantryObject pantry (.ofList expanded) = .ok snapshot.root := by
    decide +kernel
  rw [Snapshot.plan, built]
  rfl

/-- Whether no object but the bag is in some items. -/
def HoldsOnlyBag (items : Template) : Prop :=
  ∀ value ∈ items.given, ∀ live, .object live ∈ value.parts → live = bagObject

section Items

variable {items : Template}

theorem answer_bag (items : Template) (history : List Invocation) (accessor : String) :
    ∃ fault, (heap items).answer history bagObject.identity accessor = .error fault :=
  ⟨_, rfl⟩

theorem eq_items_of_answer {history : List Invocation} {accessor : String} {template : Template}
    (answered : (heap items).answer history basketObject.identity accessor = .ok template) :
    template = items := by
  have found : (script items).find? (·.face.identity = basketObject.identity) =
      some ⟨basketObject, [("getItems", .value items)]⟩ := rfl
  change (script items).answer history basketObject.identity accessor = _ at answered
  rw [Script.answer, found] at answered
  simp only [List.lookup_cons, List.lookup_nil] at answered
  cases same : accessor == "getItems" with
  | false =>
    rw [same] at answered
    cases answered
  | true =>
    rw [same] at answered
    exact (Except.ok.inj answered).symm

/-- Then nothing but the bag can be reached from the basket. -/
theorem eq_of_reaches (only : HoldsOnlyBag items) {live : LiveObject}
    (path : (heap items).Reaches basketObject live) :
    live = basketObject ∨ live = bagObject := by
  induction path with
  | refl => exact .inl rfl
  | tail _ handed inductionHypothesis =>
    obtain ⟨history, accessor, template, answered, value, given, part⟩ := handed
    rcases inductionHypothesis with rfl | rfl
    · rw [eq_items_of_answer answered] at given
      exact .inr (only value given _ part)
    · obtain ⟨fault, failed⟩ := answer_bag items history accessor
      rw [failed] at answered
      cases answered

theorem holds (only : HoldsOnlyBag items) :
    (heap items).Holds expanded pantryObject pantry getBasket basketObject basket where
  accessors := Target.accessors_single rfl rfl
  registered := by decide +kernel
  answers _ := rfl
  unreached live path := by
    obtain rfl | rfl := eq_of_reaches only path <;> decide

theorem isClosed (only : HoldsOnlyBag items) : (heap items).IsClosed := by
  have objects : (heap items).objects = [bagObject, basketObject, pantryObject] := rfl
  have known : ∀ live ∈ [bagObject, basketObject, pantryObject],
      (Value.object live).Within (heap items) :=
    fun live member => Value.within_object.mpr (objects ▸ member)
  intro _ _ history accessor template answered value given
  have stored := Script.mem_values answered value given
  simp only [Script.values, script, List.flatMap_cons, List.flatMap_nil, List.cons_append,
    List.nil_append, List.append_nil, List.mem_cons, List.mem_append, Body.templates,
    Template.given, List.not_mem_nil, or_false] at stored
  obtain rfl | rfl | own | rfl | rfl := stored
  · exact known bagObject (by decide)
  · exact known basketObject (by decide)
  · intro live part
    rw [only value own live part, objects]
    exact List.mem_cons_self
  · exact known pantryObject (by decide)
  · exact known basketObject (by decide)

theorem isStable (live : LiveObject) : (heap items).IsStable live := by
  have constant : ∀ entry ∈ script items, ∀ accessor ∈ entry.accessors,
      accessor.2.isConstant = true := by
    simp [script, Body.isConstant]
  exact Script.isStable constant live

end Items

theorem only_apples : HoldsOnlyBag apples := by
  simp [HoldsOnlyBag, apples, Template.given, Template.givenAll, Value.parts]

theorem only_bagged : HoldsOnlyBag bagged := by
  simp [HoldsOnlyBag, bagged, Template.given, Value.parts]

/-- A bag is something that can be iterated over. -/
theorem keepsTypes : ∀ methods, basket.accessors = .ok methods →
    (heap bagged).KeepsTypes .root (.ofList expanded) basketObject methods := by
  intro methods listed method member _ wanted registered history template answered
  have single : basket.accessors = .ok [getItems] := Target.accessors_single rfl rfl
  obtain rfl := Except.ok.inj (single.symm.trans listed)
  obtain rfl := List.mem_singleton.mp member
  have expands : (Expansions.ofList expanded).byDeclared? getItems.returns = some iterable := by
    decide +kernel
  obtain rfl := Option.some.inj (expands.symm.trans registered)
  exact .inr ⟨bagObject, eq_items_of_answer answered, by decide +kernel⟩

theorem freeze_nests_pantry :
    (∃ inner, (heap bagged).freeze .initial (.object basketObject) basket .empty expanded .root =
        .ok inner ∧
      (heap bagged).freeze .initial (.object pantryObject) pantry .empty expanded .root =
        .ok (Registry.root.holderText pantry getBasket inner)) ∧
    ∃ text, (heap bagged).freeze .initial (.object pantryObject) pantry .empty expanded .root =
      .ok text := by
  have frozen : ((heap bagged).freeze .initial (.object basketObject) basket .empty expanded
      .root).isOk := by
    decide +kernel
  obtain ⟨inner, own⟩ := Except.isOk_iff.mp frozen
  obtain ⟨nests, agree⟩ := Heap.freeze_nests (heap bagged) (isClosed only_bagged) .root .initial
    .initial (holds only_bagged) (by decide) (fun live _ => isStable live) planned (.inl rfl)
  exact ⟨⟨inner, own, nests inner own⟩, (agree (by decide +kernel) keepsTypes).mpr ⟨inner, own⟩⟩

/-- What can be frozen inside of a holder cannot always be frozen on its own, although it is of the
type that the holder's accessor is declared to answer: the basket's items are declared as what can
be iterated over, and are a list. -/
theorem not_freeze_nests : ¬ ∀ (heap : Heap) (registry : Registry) (expanded : List Target)
    (holder object : LiveObject) (outer target : Target) (method : Method) (snapshot : Snapshot)
    (world : World), heap.IsClosed → heap.Holds expanded holder outer method object target →
    holder ∈ heap.objects → (∀ live, heap.Reaches object live → heap.IsStable live) →
    Snapshot.plan (.object holder) outer .empty expanded = .ok snapshot →
    target.accepts object.runtime →
    ((∃ text, heap.freeze world (.object holder) outer .empty expanded registry = .ok text) ↔
      ∃ inner, heap.freeze world (.object object) target .empty expanded registry = .ok inner) := by
  intro claimed
  have agree := claimed (heap apples) .root expanded pantryObject basketObject pantry basket
    getBasket snapshot .initial (isClosed only_apples) (holds only_apples) (by decide)
    (fun live _ => isStable live) planned (by decide +kernel)
  have nested : ((heap apples).freeze .initial (.object pantryObject) pantry .empty expanded
      .root).isOk := by
    decide +kernel
  have alone : ¬ ((heap apples).freeze .initial (.object basketObject) basket .empty expanded
      .root).isOk := by
    decide +kernel
  exact alone (Except.isOk_iff.mpr (agree.mp (Except.isOk_iff.mp nested)))

end Pantry

end FrozenGraph
