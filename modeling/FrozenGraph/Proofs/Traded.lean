/-
This file shows that a snapshot which succeeds is not tied to the place where its types are named.
Types that it expands can be registered around it instead, in the same order and with the same
repetitions, and more value types can be registered than it needs, even those that it expands: the
text stays the same, and so do the accessors that are invoked. Either way the new registry stands in
for the old one. That is a matter of single lookups: of two targets with one name the expansions
drop the later one, which a search for the first would not have found either, and which accepts no
other objects.
-/

import FrozenGraph.Proofs.Exchanged
import FrozenGraph.Proofs.Frozen

namespace FrozenGraph

/-! ### Outcomes where another registry stands in -/

/-- Canned representations without statements are the same whatever is expanded. -/
theorem Canned.IsPlain.find?_retyped {canned : Canned} (plain : canned.IsPlain)
    (expansions : Expansions) (identity : Identity) :
    (canned.find? identity).map (Code.retyped expansions) = canned.find? identity := by
  cases found : canned.find? identity with
  | none => rfl
  | some code =>
    exact congrArg some (Expr.map_of_statements_eq_nil code (plain.statements_eq_nil found))

/-- The state in which a root begins is the same whatever it expands. -/
theorem World.opened_retyped (world : World) (root : Node) {canned : Canned}
    (plain : canned.IsPlain) (expansions : Expansions) :
    (world.opened root canned).Retyped expansions
      (world.opened (root.retyped expansions) canned) where
  history := rfl
  allocated := rfl
  chain := rfl
  find? identity := by
    show (Session.opening canned).memo.find? identity =
      ((Session.opening canned).memo.find? identity).map _
    rw [Session.opening_find?, plain.find?_retyped]

namespace Heap

variable {heap : Heap} {live : LiveObject} {target : Target} {canned : Canned}
  {expanded : List Target} {registry : Registry} {world : World} {text : String}
  {invocations : List Invocation}

/-- Over a closed heap, what succeeds does the same where another registry stands in. -/
theorem frozen_of_standIn (closed : heap.IsClosed) (known : live ∈ heap.objects)
    (plain : canned.IsPlain) {expanded' : List Target} {registry' : Registry}
    (standIn : StandIn registry (.ofList expanded) registry' (.ofList expanded'))
    (frozen : heap.frozen world (.object live) target canned expanded registry =
      ⟨.ok text, invocations⟩) :
    heap.frozen world (.object live) target canned expanded' registry' =
      ⟨.ok text, invocations⟩ := by
  have succeeds := congrArg Outcome.result frozen
  rw [result_frozen] at succeeds
  obtain ⟨root, built, overrides, events, after, walked, _⟩ :=
    (freeze_ok_iff closed known plain).mp succeeds
  obtain ⟨rfl, rfl, expansions, _, _, _, _⟩ := Node.built_of_build built
  rw [← expansions] at standIn
  have built' : Node.build root.object root.target (.ofList expanded') =
      .ok (root.retyped (.ofList expanded')) := by
    rw [Node.build_retyped _ _ (.ofList expanded), built]
    rfl
  obtain ⟨after', walked', _⟩ := walked.exchanged (.ofSnapshot world.snapshots.length) standIn
    (world.opened_retyped root plain (.ofList expanded'))
  rw [← frozen, frozen_of_walked closed known plain built walked,
    frozen_of_walked closed known plain built' walked',
    root.classText_retyped _ standIn.options]

end Heap

/-! ### Types that are registered instead of expanded -/

namespace Expansions

/-- One more target is found after all others, by every search that finds the earlier target of its
name if it is dropped. -/
theorem find?_add (expansions : Expansions) (target : Target) {test : Target → Bool}
    (implied : ∀ earlier : Target, earlier.name = target.name.erased → test target →
      test earlier) :
    (expansions.add target).targets.find? test =
      (expansions.targets.find? test).or ([target].find? test) := by
  rw [add]
  split
  · rename_i repeated
    cases tested : test target with
    | false => simp [tested]
    | true =>
      obtain ⟨earlier, found⟩ := Option.isSome_iff_exists.mp repeated
      have passes : test earlier := implied earlier (Target.name_of_find? found) tested
      have some : (expansions.targets.find? test).isSome :=
        List.find?_isSome.mpr ⟨earlier, List.mem_of_find?_eq_some found, passes⟩
      obtain ⟨first, chosen⟩ := Option.isSome_iff_exists.mp some
      rw [chosen, Option.some_or]
  · exact List.find?_append

theorem find?_foldl_add {test : Target → Bool}
    (implied : ∀ earlier later : Target, earlier.name = later.name.erased → test later →
      test earlier)
    (targets : List Target) (expansions : Expansions) :
    (targets.foldl add expansions).targets.find? test =
      (expansions.targets.find? test).or (targets.find? test) := by
  induction targets generalizing expansions with
  | nil => exact Option.or_none.symm
  | cons target rest inductionHypothesis =>
    rw [List.foldl_cons, inductionHypothesis, find?_add _ _ fun earlier => implied earlier target,
      Option.or_assoc, ← List.find?_append]
    rfl

/-- The targets that are dropped change no lookup by name. -/
theorem byName?_ofList (targets : List Target) (name : TypeName) :
    (ofList targets).byName? name = targets.find? (·.name == name.erased) := by
  refine find?_foldl_add (fun earlier later named same => ?_) targets none
  rw [beq_iff_eq] at same ⊢
  rw [named, same, TypeName.erased_erased]

/-- The targets that are dropped accept no other objects. -/
theorem accepting?_ofList (targets : List Target) (runtime : RuntimeType) :
    (ofList targets).accepting? runtime = targets.find? (·.accepts runtime) := by
  refine find?_foldl_add (fun earlier later named accepts => ?_) targets none
  rwa [Target.accepts, named, RuntimeType.isSubtypeOf_erased]

end Expansions

namespace Registry

/-- New targets are found before the ones around them. -/
theorem findSome?_withTargets (registry : Registry) (targets : List Target)
    (test : Target → Bool) :
    (registry.withTargets targets).scopes.findSome? (·.targets.find? test) =
      (targets.find? test).or (registry.scopes.findSome? (·.targets.find? test)) := by
  rw [withTargets, enter, List.findSome?_cons]
  cases targets.find? test <;> rfl

theorem byName?_withTargets (registry : Registry) (targets : List Target) (name : TypeName) :
    (registry.withTargets targets).byName? name =
      (targets.find? (·.name == name.erased)).or (registry.byName? name) :=
  registry.findSome?_withTargets targets _

theorem accepting?_withTargets (registry : Registry) (targets : List Target)
    (runtime : RuntimeType) :
    (registry.withTargets targets).accepting? runtime =
      (targets.find? (·.accepts runtime)).or (registry.accepting? runtime) :=
  registry.findSome?_withTargets targets _

/-- What has literals keeps them, and the new targets get some. -/
theorem hasLiteral_withTargets (registry : Registry) (targets : List Target)
    (declared : DeclaredType) :
    (registry.withTargets targets).hasLiteral declared =
      (registry.hasLiteral declared ||
        ((Expansions.ofList targets).byDeclared? declared).isSome) := by
  cases declared with
  | void | primitive _ => rfl
  | named name arguments =>
    have expanded : (Expansions.ofList targets).byDeclared? (.named name arguments) =
        targets.find? (·.name == name.erased.erased) :=
      Expansions.byName?_ofList targets name.erased
    have values : (registry.withTargets targets).isValueType name.erased =
        registry.isValueType name.erased := rfl
    rw [hasLiteral, hasLiteral, expanded, values, byName?_withTargets, Option.isSome_or,
      Bool.or_assoc, Bool.or_comm (Option.isSome _)]

/-- A registry of more targets stands in for their expansion. -/
theorem standIn_withTargets (registry : Registry) (targets : List Target) :
    StandIn registry (.ofList targets) (registry.withTargets targets) (.ofList []) where
  options := rfl
  byName? name := by
    rw [byName?_withTargets, Expansions.byName?_ofList, Expansions.byName?_ofList]
    rfl
  accepting? runtime := by
    rw [accepting?_withTargets, Expansions.accepting?_ofList, Expansions.accepting?_ofList]
    rfl
  literal declared literal := by rw [hasLiteral_withTargets, literal, Bool.true_or]
  expanded declared target registered := by
    rw [hasLiteral_withTargets, registered, Option.isSome_some, Bool.or_true]
    exact .inl rfl

end Registry

namespace Heap

variable {heap : Heap} {live : LiveObject} {target : Target} {canned : Canned}
  {expanded : List Target} {registry : Registry} {world : World} {text : String}
  {invocations : List Invocation}

/-- Types that a snapshot expands can be registered around it instead. If it succeeds, it succeeds
with the same text and through the same invocations, also where names are repeated, where they are
registered already, and where several of the types fit one object. -/
theorem frozen_withTargets (closed : heap.IsClosed) (known : live ∈ heap.objects)
    (plain : canned.IsPlain)
    (frozen : heap.frozen world (.object live) target canned expanded registry =
      ⟨.ok text, invocations⟩) :
    heap.frozen world (.object live) target canned [] (registry.withTargets expanded) =
      ⟨.ok text, invocations⟩ :=
  frozen_of_standIn closed known plain (registry.standIn_withTargets expanded) frozen

end Heap

namespace Pantry

/-- A pantry in which every type is named twice. -/
theorem frozen_withTargets_pantry : ∃ text invocations,
    (heap bagged).frozen .initial (.object pantryObject) pantry .empty (expanded ++ expanded)
      .root = ⟨.ok text, invocations⟩ ∧
    (heap bagged).frozen .initial (.object pantryObject) pantry .empty []
      (Registry.root.withTargets (expanded ++ expanded)) = ⟨.ok text, invocations⟩ := by
  have succeeds : ((heap bagged).frozen .initial (.object pantryObject) pantry .empty
      (expanded ++ expanded) .root).result.isOk := by
    decide +kernel
  obtain ⟨text, frozen⟩ := Heap.Outcome.exists_text succeeds
  exact ⟨text, _, frozen, Heap.frozen_withTargets (isClosed only_bagged) (by decide)
    Canned.empty_isPlain frozen⟩

end Pantry

/-! ### More value types -/

namespace Registry

/-- A registry of more value types stands in for the one around it, whatever is expanded. -/
theorem standIn_withValueTypes (registry : Registry) (expansions : Expansions)
    (names : List TypeName) :
    StandIn registry expansions (registry.withValueTypes names) expansions where
  options := rfl
  byName? _ := rfl
  accepting? _ := rfl
  literal declared literal := by
    cases declared with
    | void => cases literal
    | primitive _ => rfl
    | named name arguments =>
      have known : (registry.withValueTypes names).byName? name.erased =
          registry.byName? name.erased := rfl
      have wider : registry.isValueType name.erased →
          (registry.withValueTypes names).isValueType name.erased := by
        intro value
        rw [isValueType, withValueTypes, enter, List.any_cons, Bool.or_assoc]
        exact Bool.or_eq_true_iff.mpr (.inr value)
      rw [hasLiteral, Bool.or_eq_true] at literal ⊢
      rw [known]
      exact literal.imp_left wider
  expanded _ _ registered := .inr registered

end Registry

namespace Heap

variable {heap : Heap} {live : LiveObject} {target : Target} {canned : Canned}
  {expanded : List Target} {registry : Registry} {world : World} {text : String}
  {invocations : List Invocation}

/-- More value types never change a snapshot that succeeds, even where they are types that it
expands, types that are registered, or its own target. -/
theorem frozen_withValueTypes (closed : heap.IsClosed) (known : live ∈ heap.objects)
    (plain : canned.IsPlain) (names : List TypeName)
    (frozen : heap.frozen world (.object live) target canned expanded registry =
      ⟨.ok text, invocations⟩) :
    heap.frozen world (.object live) target canned expanded (registry.withValueTypes names) =
      ⟨.ok text, invocations⟩ :=
  frozen_of_standIn closed known plain
    (registry.standIn_withValueTypes (.ofList expanded) names) frozen

end Heap

namespace Pantry

/-- A pantry whose own type and the types in it are value types too. -/
theorem frozen_withValueTypes_pantry : ∃ text invocations,
    (heap bagged).frozen .initial (.object pantryObject) pantry .empty expanded .root =
      ⟨.ok text, invocations⟩ ∧
    (heap bagged).frozen .initial (.object pantryObject) pantry .empty expanded
      (Registry.root.withValueTypes [pantry.name, basket.name, iterable.name]) =
      ⟨.ok text, invocations⟩ := by
  have succeeds : ((heap bagged).frozen .initial (.object pantryObject) pantry .empty expanded
      .root).result.isOk := by
    decide +kernel
  obtain ⟨text, frozen⟩ := Heap.Outcome.exists_text succeeds
  exact ⟨text, _, frozen, Heap.frozen_withValueTypes (isClosed only_bagged) (by decide)
    Canned.empty_isPlain _ frozen⟩

end Pantry

end FrozenGraph
