/-
This file shows which target a declared type stands for. Whatever registry an answer is written in,
the targets that its declared type can be found under have one name: that of the type, erased.
-/

import FrozenGraph.Proofs.Relaid
import FrozenGraph.Proofs.Walked

namespace FrozenGraph

/-! ### Erased names -/

namespace TypeName

theorem head_erased (name : TypeName) : name.erased.head = name.erased.text.toList := by
  refine List.takeWhile_eq_self_iff.mpr fun c member => ?_
  have inner : c ∈ name.head := Unicode.mem_of_mem_trim (by simpa [erased] using member)
  exact List.mem_takeWhile_imp (p := (decide <| · ≠ '<')) inner

/-- There is nothing to be cut off of a name that is erased. -/
@[simp] theorem erased_erased (name : TypeName) : name.erased.erased = name.erased := by
  have trimmed : Unicode.trim name.erased.head = name.erased.text.toList := by
    rw [head_erased]
    show Unicode.trim (String.ofList (Unicode.trim name.head)).toList = _
    rw [String.toList_ofList, Unicode.trim_trim]
    exact String.toList_ofList.symm
  rw [erased, trimmed, String.ofList_toList]

@[simp] theorem source_erased (name : TypeName) : name.erased.source = name.source := by
  rw [source, erased_erased, source]

end TypeName

@[simp] theorem RuntimeType.isSubtypeOf_erased (runtime : RuntimeType) (name : TypeName) :
    runtime.isSubtypeOf name.erased = runtime.isSubtypeOf name := by
  simp only [isSubtypeOf, TypeName.erased_erased]

/-! ### Targets that are found -/

/-- A target that is found among others under a name has that name. -/
theorem Target.name_of_find? {targets : List Target} {name : TypeName} {target : Target}
    (found : targets.find? (·.name == name) = some target) : target.name = name := by
  have same := List.find?_some (p := fun candidate : Target => candidate.name == name) found
  exact beq_iff_eq.mp same

theorem Registry.name_of_byName? {registry : Registry} {name : TypeName} {target : Target}
    (found : registry.byName? name = some target) : target.name = name.erased := by
  obtain ⟨_, scope, _, _, inner, _⟩ := List.findSome?_eq_some_iff.mp found
  exact Target.name_of_find? inner

/-- A registry knows every name that another one knows. -/
def Registry.Widens (inner outer : Registry) : Prop :=
  ∀ name, (outer.byName? name).isSome → (inner.byName? name).isSome

theorem Registry.Widens.refl (registry : Registry) : registry.Widens registry :=
  fun _ known => known

/-- The registry of the answers of a node knows every name that the one around it knows. -/
theorem Node.inner_widens {node : Node} {registry outer : Registry}
    (widens : registry.Widens outer) : (node.inner registry).Widens outer := by
  intro name known
  have found := widens name known
  unfold inner Registry.withTargets Registry.enter Registry.byName?
  rw [List.findSome?_cons]
  split
  · rfl
  · exact found

/-- Whether objects of a type can be assigned to a declared type. -/
def DeclaredType.takes (declared : DeclaredType) (runtime : RuntimeType) : Bool :=
  match declared with
  | .named name _ => runtime.isSubtypeOf name
  | .void | .primitive _ => false

/-- A target that has the name of a declared type. -/
def Target.Stands (target : Target) (declared : DeclaredType) : Prop :=
  declared.erasedName = some target.name

namespace Target.Stands

variable {target : Target} {declared : DeclaredType}

/-- Such a target is written like the declared type. -/
theorem source_eq (stands : target.Stands declared) :
    target.declaredType.source = declared.source := by
  cases declared with
  | void | primitive kind => cases stands
  | named name arguments =>
    have same : name.erased = target.name := Option.some.inj stands
    show target.name.source = name.source
    rw [← same, TypeName.source_erased]

/-- Such a target accepts what the declared type takes. -/
theorem accepts_eq (stands : target.Stands declared) (runtime : RuntimeType) :
    target.accepts runtime = declared.takes runtime := by
  cases declared with
  | void | primitive kind => cases stands
  | named name arguments =>
    have same : name.erased = target.name := Option.some.inj stands
    rw [accepts, ← same, RuntimeType.isSubtypeOf_erased]
    rfl

end Target.Stands

theorem Expansions.stands_of_byDeclared? {expansions : Expansions} {declared : DeclaredType}
    {target : Target} (found : expansions.byDeclared? declared = some target) :
    target.Stands declared := by
  cases declared with
  | void | primitive kind => cases found
  | named name arguments =>
    have same := Target.name_of_find? (show expansions.targets.find? _ = some target from found)
    rw [TypeName.erased_erased] at same
    exact congrArg some same.symm

namespace Encode

/-- Whether a declared type is registered, as a type of a registry or as one to be expanded. -/
def IsRegistered (registry : Registry) (expansions : Expansions) (declared : DeclaredType) : Prop :=
  (declaredTarget? registry expansions declared).isSome

variable {registry : Registry} {expansions : Expansions} {declared : DeclaredType}

theorem stands_of_declaredTarget? {target : Target}
    (found : declaredTarget? registry expansions declared = some target) :
    target.Stands declared := by
  cases declared with
  | void | primitive kind => cases found
  | named name arguments =>
    rcases Option.or_eq_some_iff.mp found with known | ⟨_, expanded⟩
    · have same := Registry.name_of_byName? known
      rw [TypeName.erased_erased] at same
      exact congrArg some same.symm
    · exact Expansions.stands_of_byDeclared? expanded

/-- What is registered stays so in a wider registry. -/
theorem IsRegistered.mono {inner : Registry}
    (registered : IsRegistered registry expansions declared) (widens : inner.Widens registry) :
    IsRegistered inner expansions declared := by
  cases declared with
  | void | primitive kind => cases registered
  | named name arguments =>
    have known : ((registry.byName? name.erased).or (expansions.byName? name.erased)).isSome :=
      registered
    show ((inner.byName? name.erased).or (expansions.byName? name.erased)).isSome
    rw [Option.isSome_or, Bool.or_eq_true] at known ⊢
    exact known.imp_left (widens _)

/-- An object that a registered type takes is written as the target of that type. -/
theorem targetFor?_stands (registered : IsRegistered registry expansions declared)
    {runtime : RuntimeType} (taken : declared.takes runtime) {target : Target}
    (chosen : targetFor? registry expansions (some declared) runtime = some target) :
    target.Stands declared := by
  obtain ⟨own, found⟩ := Option.isSome_iff_exists.mp registered
  have stands := stands_of_declaredTarget? found
  have accepted : own.accepts runtime := (stands.accepts_eq runtime).trans taken
  have first : ((some declared).bind (declaredTarget? registry expansions)).filter
      (·.accepts runtime) = some own := by
    rw [Option.bind_some, found]
    exact Option.filter_some_pos accepted
  rw [targetFor?, first, Option.some_or, Option.some_or] at chosen
  rwa [← Option.some.inj chosen]

end Encode

end FrozenGraph
