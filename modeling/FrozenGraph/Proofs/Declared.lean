/-
This file shows as what type an answer is written. An object is instantiated once, as one type, and
every accessor that answers it returns that instantiation; so only the answer in which the object
occurs first can promise that it is the declared type. Another answer of another declared type
returns what is known, as the sample at the end shows.
-/

import FrozenGraph.Proofs.Answered

namespace FrozenGraph

/-! ### Bodies -/

/-- Whether an expression is printed as an instance of an anonymous subclass of a type. -/
def Code.Instantiates (code : Code) (declared : DeclaredType) : Prop :=
  ∃ overrides, code.written = "new " ++ declared.source ++ "() \x7b\n" ++
    Expr.overridesText Deferred.finished overrides ++ "\x7d"

/-- Whether an overriding method returns something. -/
def Override.isReturning {δ : Type} : Override δ → Bool
  | .empty .. => false
  | .returning .. => true

namespace Story

/-- In the plain expansion of an object, the method at a position among those that return something
returns a body. -/
def Overrides (story : Story) (object : Identity) (position : Nat) (method : Method)
    (body : Code) : Prop :=
  ∃ extended overrides, story.Expands object (.anonymous extended overrides) ∧
    (overrides.filter Override.isReturning)[position]? =
      some (.returning method.name method.returns body)

theorem Overrides.unique {story : Story} {object : Identity} {position : Nat}
    {method other : Method} {body body' : Code}
    (left : story.Overrides object position method body)
    (right : story.Overrides object position other body') :
    method.returns = other.returns ∧ body = body' := by
  obtain ⟨extended, overrides, expands, found⟩ := left
  obtain ⟨extended', overrides', expands', found'⟩ := right
  obtain ⟨_, rfl⟩ := Expr.anonymous.inj (expands.unique expands')
  rw [found] at found'
  obtain ⟨_, returns, same⟩ := Override.returning.inj (Option.some.inj found')
  exact ⟨returns, same⟩

/-- Where only one method returns something, it is that method. -/
theorem Overrides.of_single {story : Story} {object : Identity} {position : Nat} {method : Method}
    {body code : Code} {extended returns : DeclaredType} {name : String}
    (overrides : story.Overrides object position method body)
    (single : story.Expands object (.anonymous extended [.returning name returns code])) :
    method.returns = returns := by
  obtain ⟨_, _, expands, found⟩ := overrides
  obtain ⟨_, rfl⟩ := Expr.anonymous.inj (expands.unique single)
  obtain ⟨_, same, _⟩ :=
    Override.returning.inj (List.mem_singleton.mp (List.mem_of_getElem? found))
  exact same

/-- Each method that answers something is written with the answer at its position. -/
theorem exists_returning_of_methods {write : Value → Option Code} (accessors : List Method)
    {answers : List Value} {overrides : List (Override Deferred)}
    (found : methods write accessors answers = some overrides) {position : Nat} {method : Method}
    {answer : Value} (asked : (Method.asked accessors)[position]? = some method)
    (answered : answers[position]? = some answer) :
    ∃ body, write answer = some body ∧
      (overrides.filter Override.isReturning)[position]? =
        some (.returning method.name method.returns body) := by
  induction accessors generalizing answers overrides position with
  | nil => cases asked
  | cons first rest inductionHypothesis =>
    by_cases void : first.returns = .void
    · rw [methods_of_void rest answers void] at found
      obtain ⟨others, later, rfl⟩ := Option.map_eq_some_iff.mp found
      rw [Method.asked_cons_of_void rest void] at asked
      exact inductionHypothesis later asked answered
    · cases answers with
      | nil => cases answered
      | cons own later =>
        obtain ⟨code, others, head, tail, rfl⟩ := (methods_cons void).mp found
        rw [Method.asked_cons rest void] at asked
        cases position with
        | zero =>
          obtain rfl := Option.some.inj asked
          obtain rfl := Option.some.inj answered
          exact ⟨code, head, rfl⟩
        | succ position => exact inductionHypothesis tail asked answered

/-- What is told of an object says how the answers of its accessors are written. -/
theorem overrides_of_told {story : Story} {object : Identity} {target : Target}
    {accessors : List Method} {answers : List Value} {tree : Code}
    (expands : story.Expands object tree) (told : story.told object = some (target, answers))
    (listed : target.accessors = .ok accessors) {position : Nat} {method : Method} {answer : Value}
    (asked : (Method.asked accessors)[position]? = some method)
    (answered : answers[position]? = some answer) :
    ∃ body, story.Unfolds answer body ∧ story.Overrides object position method body := by
  obtain ⟨depth, found⟩ := expands
  cases depth with
  | zero => cases found
  | succ depth =>
    obtain ⟨other, others, listed', overrides, told', same, written, rfl⟩ :=
      expansion_succ.mp found
    rw [told] at told'
    obtain ⟨rfl, rfl⟩ := Prod.mk.inj (Option.some.inj told')
    rw [listed] at same
    obtain rfl := Except.ok.inj same
    obtain ⟨body, unfolded, returning⟩ :=
      exists_returning_of_methods accessors written asked answered
    exact ⟨body, ⟨depth, unfolded⟩, _, _, ⟨depth + 1, found⟩, returning⟩

/-- An object is instantiated as the target that is told of it. -/
theorem Expands.instantiates {story : Story} {object : Identity} {body : Code} {target : Target}
    {answers : List Value} {declared : DeclaredType} (expands : story.Expands object body)
    (told : story.told object = some (target, answers)) (stands : target.Stands declared) :
    body.Instantiates declared := by
  obtain ⟨depth, found⟩ := expands
  cases depth with
  | zero => cases found
  | succ depth =>
    obtain ⟨other, others, _, overrides, told', _, _, rfl⟩ := expansion_succ.mp found
    rw [told] at told'
    obtain ⟨rfl, _⟩ := Prod.mk.inj (Option.some.inj told')
    exact ⟨overrides, stands.source_eq ▸ Expr.text_anonymous _ _ _⟩

end Story

/-! ### Every rendering -/

/-- The first part of a list is followed by the element after it. -/
theorem getElem?_of_split {α : Type} {first second : List α} {element : α} {position : Nat}
    (length : first.length = position) :
    (first ++ element :: second)[position]? = some element := by
  rw [← length, List.getElem?_append_right (Nat.le_refl _), Nat.sub_self, List.getElem?_cons_zero]

/-- A call that is answered is at its place among the methods of its object, and so is the answer
among the answers. -/
theorem Once.exists_position {before : Session} {events first second : List Event}
    (once : Once True none [] before events) {object : Identity} {method : Method} {value : Value}
    (split : events = first ++ .call object method (.ok value) :: second)
    (answered : ∀ invocation ∈ Event.invocations events,
      ∃ answer, invocation.outcome = .ok answer) :
    ∃ rendering ∈ Event.renderings events, rendering.object = object ∧
      ∃ accessors, rendering.target.accessors = .ok accessors ∧
        (Method.asked accessors)[(Event.on object first).length]? = some method ∧
        (Invocation.answers (Event.on object events))[(Event.on object first).length]? =
          some value := by
  have made : (⟨object, method.name, .ok value⟩ : Invocation) ∈ Event.invocations events := by
    rw [split, Event.invocations_append, Event.invocations_cons_call]
    exact List.mem_append_right _ List.mem_cons_self
  obtain ⟨rendering, begun, rfl⟩ :=
    List.mem_map.mp ((once.owned _ made).resolve_right nofun)
  obtain ⟨accessors, listed, covers⟩ := once.answered rendering begun
  refine ⟨rendering, begun, rfl, accessors, listed, ?_, ?_⟩
  · rw [← covers.eq_of_whole trivial, split, Event.called_append, Event.called_cons_self]
    refine getElem?_of_split ?_
    rw [← List.length_map Method.name, Event.called_map_name, List.length_map]
  · rw [split, Event.on_append, Invocation.answers_append, Event.on_cons_self,
      Invocation.answers_cons_ok]
    refine getElem?_of_split (Invocation.length_answers fun invocation member => ?_)
    refine answered invocation ?_
    rw [split, Event.invocations_append]
    exact List.mem_append_left _ (List.mem_filter.mp member).1

/-- Every answer is written in the plain expansion of the object that it is an answer of. -/
theorem Story.exists_overrides {story : Story} {before : Session}
    {events first second : List Event} (tells : story.Tells events)
    (once : Once True none [] before events)
    (expands : ∀ rendering ∈ Event.renderings events, ∃ tree, story.Expands rendering.object tree)
    (answered : ∀ invocation ∈ Event.invocations events, ∃ answer, invocation.outcome = .ok answer)
    {object : Identity} {method : Method} {value : Value}
    (split : events = first ++ .call object method (.ok value) :: second) :
    ∃ body, story.Unfolds value body ∧
      story.Overrides object (Event.on object first).length method body := by
  obtain ⟨rendering, begun, rfl, accessors, listed, asked, position⟩ :=
    once.exists_position split answered
  obtain ⟨tree, whole⟩ := expands rendering begun
  exact overrides_of_told whole (tells rendering begun) listed asked position

/-- Where nothing stands in for an object, it is written as its expansion. -/
theorem Story.Unfolds.expands {story : Story} {live : LiveObject} {tree : Code}
    (unfolds : story.Unfolds (.object live) tree)
    (free : story.canned.find? live.identity = none) : story.Expands live.identity tree := by
  obtain ⟨depth, found⟩ := unfolds
  rw [unfold, free] at found
  exact ⟨depth, found⟩

/-- An object that a call answers before any other answer mentions it is rendered as the target of
the declared type, where that type is registered and takes the object. -/
theorem Walked.rendering_of_silent {heap : Heap} {node : Node} {registry : Registry}
    {ledger : Ledger} {accessors : List Method} {overrides : List (Override Deferred)}
    {before after : Run} {events first second : List Event}
    (walked : Walked heap (.methods node registry ledger accessors overrides) before events after)
    {object : Identity} {method : Method} {live : LiveObject}
    (split : events = first ++ .call object method (.ok (.object live)) :: second)
    (unknown : before.session.memo.find? live.identity = none)
    (silent : Event.Silent first live.identity)
    (registered : Encode.IsRegistered registry node.expansions method.returns)
    (taken : method.returns.takes live.runtime) :
    ∃ target, ⟨live.identity, target⟩ ∈ Event.renderings events ∧
      target.Stands method.returns := by
  cases walked.writes split with
  | @intro inner deeper _ _ _ _ written rest _ expansions widens fresh answer =>
    have same : inner.expansions = node.expansions := expansions
    have known : Encode.IsRegistered deeper inner.expansions method.returns := by
      rw [same]
      exact registered.mono widens
    obtain ⟨target, begun, stands⟩ := answer.rendering_of_unknown
      (fresh _ unknown (Value.omit_nil _) silent) known taken
    refine ⟨target, ?_, stands⟩
    rw [split, Event.renderings_append, Event.renderings_cons_call, Event.renderings_append]
    exact List.mem_append_right _ (List.mem_append_left _ begun)

/-- In a rendering an accessor was invoked, after some other invocations, and answered an object;
the method that overrides it returns a body. -/
structure Heap.Ended.Returns (ended : Heap.Ended String) (world : World)
    (earlier : List Invocation) (invocation : Invocation) (live : LiveObject) (method : Method)
    (body : Code) : Prop where
  made : ∃ later, ended.world.since world = earlier ++ invocation :: later
  answered : invocation.outcome = .ok (.object live)
  named : method.name = invocation.accessor
  written : (ended.story world .empty).Overrides invocation.object
    (Invocation.on invocation.object earlier).length method body

namespace Heap

section Rendered

variable {value : Value} {target : Target} {expanded : List Target} {snapshot : Snapshot}
  {world : World} {number : Nat} {text : String}

/-- Wherever an accessor answers an object, the overriding method returns the expansion of that
object, which is an instance of the declared type if no earlier answer mentions the object. -/
theorem exists_returns (heap : Heap) (registry : Registry)
    (planned : Snapshot.plan value target .empty expanded = .ok snapshot)
    (placed : world.snapshots[number]? = some snapshot)
    (rendered : (heap.render world number registry).result = .ok text)
    (coherent : Value.Coherent
      (Invocation.answers ((heap.render world number registry).world.since world)))
    {earlier later : List Invocation} {invocation : Invocation} {live : LiveObject}
    (noted : (heap.render world number registry).world.since world =
      earlier ++ invocation :: later)
    (answered : invocation.outcome = .ok (.object live)) :
    ∃ method body,
      (heap.render world number registry).Returns world earlier invocation live method body ∧
      ((heap.render world number registry).story world .empty).Expands live.identity body ∧
      (Encode.IsRegistered registry (.ofList expanded) method.returns →
        method.returns.takes live.runtime →
        Value.Omit (Invocation.answers earlier) live.identity →
        body.Instantiates method.returns) := by
  obtain ⟨_, expansions⟩ :=
    expands_of_render heap registry planned Canned.empty_isPlain placed rendered coherent
  obtain ⟨_, rfl, built, emptied⟩ := Snapshot.built_of_plan planned
  have same := (Node.built_of_build built).expansions_eq
  obtain ⟨events, walk, invocations, renderings, once⟩ :=
    render_once heap registry planned Canned.empty_isPlain placed
  have once := once.mono fun _ : True => ⟨text, rendered⟩
  have tells := Story.tells_of .empty once.nodup
  rw [← Ended.story_eq .empty (.rendering _ :: events) invocations renderings] at tells
  rw [renderings] at expansions
  rw [rendered] at walk
  cases walk with
  | ok _ walked =>
    -- The call is found among the events, first those of the walk and then all of them.
    obtain ⟨first, method, second, split, rfl, named⟩ := Event.exists_call (invocations ▸ noted)
    rw [answered] at split
    have within : .rendering ⟨snapshot.root.object.identity, snapshot.root.target⟩ :: events =
        (.rendering ⟨snapshot.root.object.identity, snapshot.root.target⟩ :: first) ++
          .call invocation.object method (.ok (.object live)) :: second :=
      congrArg (List.cons _) split
    obtain ⟨body, unfolds, overrides⟩ :=
      Story.exists_overrides tells once expansions walked.exists_outcome within
    have expands := unfolds.expands rfl
    refine ⟨method, body, ⟨⟨later, noted⟩, answered, named, overrides⟩, expands, ?_⟩
    intro registered taken silent
    rw [← same] at registered
    have unknown : (Session.opening snapshot.canned).memo.find? live.identity = none := by
      rw [Session.opening_find?, emptied]
      rfl
    obtain ⟨own, begun, stands⟩ :=
      walked.rendering_of_silent split unknown silent registered taken
    exact expands.instantiates (tells _ (List.mem_cons_of_mem _ begun)) stands

/-- Every object is instantiated once and as one type. A rendering that succeeds, where nothing is
canned, prints the plain expansion of its object; wherever an accessor answers an object, the
overriding method returns the only expansion of that object; and where no earlier answer mentions
the object, that is an instance of the declared type, if the type is registered and takes the
object. -/
theorem render_instantiates (heap : Heap) (registry : Registry)
    (planned : Snapshot.plan value target .empty expanded = .ok snapshot)
    (placed : world.snapshots[number]? = some snapshot)
    (rendered : (heap.render world number registry).result = .ok text)
    (coherent : Value.Coherent
      (Invocation.answers ((heap.render world number registry).world.since world))) :
    (∃ tree, ((heap.render world number registry).story world .empty).Expands
        snapshot.root.object.identity tree ∧
      text = Layout.format registry.options tree.written) ∧
    (∀ earlier invocation later live,
      (heap.render world number registry).world.since world = earlier ++ invocation :: later →
      invocation.outcome = .ok (.object live) →
      ∃ method body, (heap.render world number registry).Returns world earlier invocation live
        method body) ∧
    ∀ earlier invocation live method body,
      (heap.render world number registry).Returns world earlier invocation live method body →
      ((heap.render world number registry).story world .empty).Expands live.identity body ∧
      (Encode.IsRegistered registry (.ofList expanded) method.returns →
        method.returns.takes live.runtime →
        Value.Omit (Invocation.answers earlier) live.identity →
        body.Instantiates method.returns) := by
  refine ⟨?_, ?_, ?_⟩
  · exact (expands_of_render heap registry planned Canned.empty_isPlain placed rendered coherent).1
  · intro earlier invocation later live noted answered
    obtain ⟨method, body, returns, _⟩ := exists_returns heap registry planned placed rendered
      coherent noted answered
    exact ⟨method, body, returns⟩
  · intro earlier invocation live method body returns
    obtain ⟨later, noted⟩ := returns.made
    obtain ⟨called, own, others, expands, instantiates⟩ := exists_returns heap registry planned
      placed rendered coherent noted returns.answered
    obtain ⟨same, rfl⟩ := returns.written.unique others.written
    rw [same]
    exact ⟨expands, instantiates⟩

end Rendered

end Heap

/-! ### One product under two types -/

theorem Target.accessors_single {target : Target} {method : Method}
    (only : target.overridable = [method]) (plain : method.takesNothing) :
    target.accessors = .ok [method] := by
  rw [accessors, only]
  simp [sortByName, plain]

deriving instance DecidableEq for Invocation

namespace Shopping

/-- What has a name. -/
def named : Target :=
  .interface "Named"

/-- What has a price. -/
def priced : Target :=
  .interface "Priced"

/-- An offer names what has a price. -/
def offer : Target :=
  (Target.interface "Offer").accessor "getPriced" priced.declaredType

/-- The only method of an offer. -/
def getPriced : Method :=
  ⟨"getPriced", [], priced.declaredType, offer.name⟩

/-- A shop has items of all kinds. -/
def shop : Target :=
  (Target.interface "Shop").accessor "getItems" (.listOf .object)

/-- The only method of a shop. -/
def getItems : Method :=
  ⟨"getItems", [], .listOf .object, shop.name⟩

/-- A street has a shop. -/
def street : Target :=
  (Target.interface "Street").accessor "getShop" shop.declaredType

/-- The only method of a street. -/
def getShop : Method :=
  ⟨"getShop", [], shop.declaredType, street.name⟩

/-- A product has a name and a price. -/
def productObject : LiveObject :=
  ⟨.entry "product", ⟨⟨"Product"⟩, [named.name, priced.name]⟩, none⟩

/-- The offer of the product. -/
def offerObject : LiveObject :=
  ⟨.entry "offer", ⟨offer.name, []⟩, none⟩

/-- The shop that has the product and the offer. -/
def shopObject : LiveObject :=
  ⟨.entry "shop", ⟨shop.name, []⟩, none⟩

/-- The street of the shop. -/
def streetObject : LiveObject :=
  ⟨.entry "street", ⟨street.name, []⟩, none⟩

/-- The shop answers the product in a list, and the offer answers it as what has a price. -/
def script : Script :=
  [⟨streetObject, [("getShop", .value (.existing (.object shopObject)))]⟩,
    ⟨shopObject, [("getItems",
      .value (.fresh [.existing (.object productObject), .existing (.object offerObject)]))]⟩,
    ⟨offerObject, [("getPriced", .value (.existing (.object productObject)))]⟩]

/-- The heap of the shop. -/
def heap : Heap :=
  script.heap

/-- The types that are expanded. -/
def expanded : List Target :=
  [named, priced, offer, shop]

/-- The street is planned. -/
def snapshot : Snapshot where
  root := ⟨streetObject, street, street.methods, .ofList expanded, .pending, none⟩
  canned := .empty
  origins := .empty

/-- Nothing has happened but the planning. -/
def world : World :=
  { World.initial with snapshots := [snapshot] }

/-- What is invoked: the street answers the shop, the shop its items, and the offer the product. -/
def made : List Invocation :=
  [⟨streetObject.identity, "getShop", .ok (.object shopObject)⟩,
    ⟨shopObject.identity, "getItems",
      .ok (.list (.fresh 0) [.object productObject, .object offerObject])⟩,
    ⟨offerObject.identity, "getPriced", .ok (.object productObject)⟩]

/-- What is rendered: the product is written as what has a name, which is registered first. -/
def begun : List Rendering :=
  [⟨streetObject.identity, street⟩, ⟨shopObject.identity, shop⟩, ⟨productObject.identity, named⟩,
    ⟨offerObject.identity, offer⟩]

theorem planned :
    Snapshot.plan (.object streetObject) street .empty expanded = .ok snapshot := by
  have built : Node.build streetObject street (.ofList expanded) = .ok snapshot.root := by
    decide +kernel
  rw [Snapshot.plan, built]
  rfl

theorem since_eq : (heap.render world 0 .root).world.since world = made := by
  decide +kernel

theorem renderingsSince_eq : (heap.render world 0 .root).world.renderingsSince world = begun := by
  decide +kernel

theorem story_eq : (heap.render world 0 .root).story world .empty = .of .empty begun made := by
  rw [Heap.Ended.story, since_eq, renderingsSince_eq]

/-- The product as it is written everywhere. -/
def productTree : Code :=
  .anonymous named.declaredType []

/-- The offer returns the product. -/
def offerTree : Code :=
  .anonymous offer.declaredType [.returning "getPriced" priced.declaredType productTree]

/-- The shop returns the list of its items. -/
def shopTree : Code :=
  .anonymous shop.declaredType
    [.returning "getItems" (.listOf .object) (.list [productTree, offerTree])]

/-- The street returns the shop. -/
def streetTree : Code :=
  .anonymous street.declaredType [.returning "getShop" shop.declaredType shopTree]

theorem expands_product : ((heap.render world 0 .root).story world .empty).Expands
    productObject.identity productTree := by
  rw [story_eq]
  have told : (Story.of .empty begun made).told productObject.identity = some (named, []) := rfl
  have listed : named.accessors = .ok [] := congrArg Except.ok List.mergeSort_nil
  exact .intro told listed .nil

theorem expands_offer : ((heap.render world 0 .root).story world .empty).Expands
    offerObject.identity offerTree := by
  have product := expands_product
  rw [story_eq] at product ⊢
  have told : (Story.of .empty begun made).told offerObject.identity =
      some (offer, [.object productObject]) := rfl
  have listed : offer.accessors = .ok [getPriced] := Target.accessors_single rfl rfl
  exact .intro told listed (.returning nofun (.object rfl product) .nil)

theorem expands_shop : ((heap.render world 0 .root).story world .empty).Expands
    shopObject.identity shopTree := by
  have product := expands_product
  have offered := expands_offer
  rw [story_eq] at product offered ⊢
  have told : (Story.of .empty begun made).told shopObject.identity =
      some (shop, [.list (.fresh 0) [.object productObject, .object offerObject]]) := rfl
  have listed : shop.accessors = .ok [getItems] := Target.accessors_single rfl rfl
  have items := Story.UnfoldsAll.cons (.object rfl product) (.cons (.object rfl offered) .nil)
  exact .intro told listed (.returning nofun (.list rfl items) .nil)

theorem expands_street : ((heap.render world 0 .root).story world .empty).Expands
    streetObject.identity streetTree := by
  have shopped := expands_shop
  rw [story_eq] at shopped ⊢
  have told : (Story.of .empty begun made).told streetObject.identity =
      some (street, [.object shopObject]) := rfl
  have listed : street.accessors = .ok [getShop] := Target.accessors_single rfl rfl
  exact .intro told listed (.returning nofun (.object rfl shopped) .nil)

/-- Every accessor that answers an object promises a type that takes it. -/
theorem takes_of_returns {earlier : List Invocation} {invocation : Invocation} {live : LiveObject}
    {method : Method} {body : Code}
    (returns : (heap.render world 0 .root).Returns world earlier invocation live method body) :
    method.returns.takes live.runtime := by
  obtain ⟨⟨later, split⟩, answered, _, written⟩ := returns
  have member : invocation ∈ made := by
    rw [← since_eq, split]
    exact List.mem_append_right _ List.mem_cons_self
  rcases List.mem_cons.mp member with rfl | member
  · obtain rfl := Value.object.inj (Except.ok.inj answered)
    rw [written.of_single expands_street]
    decide
  · rcases List.mem_cons.mp member with rfl | member
    · cases answered
    · obtain rfl := List.mem_singleton.mp member
      obtain rfl := Value.object.inj (Except.ok.inj answered)
      rw [written.of_single expands_offer]
      decide

/-- The offer answers the product as what has a price, and returns it as what has a name. -/
theorem returns_product : (heap.render world 0 .root).Returns world (made.take 2)
    ⟨offerObject.identity, "getPriced", .ok (.object productObject)⟩ productObject getPriced
    productTree where
  made := ⟨[], since_eq⟩
  answered := rfl
  named := rfl
  written := ⟨_, _, expands_offer, rfl⟩

theorem not_instantiates : ¬ productTree.Instantiates getPriced.returns := by
  rintro ⟨overrides, same⟩
  have left : productTree.written.toList[4]? = some 'N' := rfl
  have right : getPriced.returns.source = "Priced" := rfl
  -- The two texts differ in the first letter of the type.
  have letters := congrArg (fun text : String => text.toList[4]?) same
  simp only [left, right, String.toList_append] at letters
  exact absurd (Option.some.inj letters) (by decide)

theorem rendered : ∃ text, (heap.render world 0 .root).result = .ok text :=
  Heap.Ended.exists_text (by decide +kernel)

theorem keeps : heap.Keeps script.values :=
  Script.IsCoherent.keeps (by decide +kernel)

theorem coherent :
    Value.Coherent (Invocation.answers ((heap.render world 0 .root).world.since world)) :=
  keeps.coherent_of_render .root planned Canned.empty_isPlain rfl

theorem render_instantiates_shop :
    (heap.render world 0 .root).Returns world []
      ⟨streetObject.identity, "getShop", .ok (.object shopObject)⟩ shopObject getShop shopTree ∧
    shopTree.Instantiates getShop.returns := by
  obtain ⟨text, rendered⟩ := rendered
  have returns : (heap.render world 0 .root).Returns world []
      ⟨streetObject.identity, "getShop", .ok (.object shopObject)⟩ shopObject getShop shopTree :=
    ⟨⟨_, since_eq⟩, rfl, rfl, _, _, expands_street, rfl⟩
  have registered : Encode.IsRegistered .root (.ofList expanded) getShop.returns := rfl
  obtain ⟨_, _, instances⟩ := Heap.render_instantiates heap .root planned rfl rendered coherent
  obtain ⟨_, instantiates⟩ := instances [] _ _ _ _ returns
  exact ⟨returns, instantiates registered (takes_of_returns returns) (Value.omit_nil _)⟩

/-- The declared type alone does not decide what an object is an instance of, although it is
registered and every accessor answers what its type takes. -/
theorem not_render_instantiates : ¬ ∀ (heap : Heap) (registry : Registry) (value : Value)
    (target : Target) (expanded : List Target) (snapshot : Snapshot) (world : World) (number : Nat)
    (text : String), Snapshot.plan value target .empty expanded = .ok snapshot →
    world.snapshots[number]? = some snapshot →
    (heap.render world number registry).result = .ok text →
    Value.Coherent
      (Invocation.answers ((heap.render world number registry).world.since world)) →
    (∀ earlier invocation live method body,
      (heap.render world number registry).Returns world earlier invocation live method body →
      method.returns.takes live.runtime) →
    ∀ earlier invocation live method body,
      (heap.render world number registry).Returns world earlier invocation live method body →
      Encode.IsRegistered registry (.ofList expanded) method.returns →
      body.Instantiates method.returns := by
  intro claimed
  obtain ⟨text, rendered⟩ := rendered
  have registered : Encode.IsRegistered .root (.ofList expanded) getPriced.returns := rfl
  exact not_instantiates (claimed heap .root _ _ expanded snapshot world 0 text planned rfl rendered
    coherent (fun _ _ _ _ _ returns => takes_of_returns returns) _ _ _ _ _ returns_product
    registered)

end Shopping

end FrozenGraph
