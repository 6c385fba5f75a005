/-
This file tells when a type that was registered is found again. A lookup erases the name that is
wanted and compares it with the names as they were written, so a target is found under its own name
exactly if the first target of that erased name is written in erased form. The same holds for value
types. The search by the type of an object erases both sides; there a target with type arguments in
its name is found all the same.

Repetitions are recognised by a lookup too: a later target is dropped if its erased name was written
before, so several targets of one erased name can stay.
-/

import FrozenGraph.Proofs.Traded

namespace FrozenGraph

/-- A name is written in erased form: without type arguments, and without white space around it. -/
def TypeName.IsErased (name : TypeName) : Prop :=
  name.erased = name

instance : DecidablePred TypeName.IsErased := fun name =>
  inferInstanceAs (Decidable (name.erased = name))

namespace Target

/-! ### Names of targets in a list -/

/-- The first target with the same erased name. -/
def first? (targets : List Target) (name : TypeName) : Option Target :=
  targets.find? (·.name.erased == name.erased)

/-- The name of some target is written like this. -/
def IsWritten (targets : List Target) (name : TypeName) : Prop :=
  ∃ target ∈ targets, target.name = name

/-- Wherever an erased name is repeated, it was written in erased form before. -/
def RepeatsWritten (targets : List Target) : Prop :=
  ∀ before target after, targets = before ++ target :: after →
    (∃ earlier ∈ before, earlier.name.erased = target.name.erased) →
    IsWritten before target.name.erased

variable {targets : List Target} {target first : Target} {name : TypeName}

theorem isWritten_iff : IsWritten targets name ↔ (targets.find? (·.name == name)).isSome := by
  simp only [IsWritten, List.find?_isSome, beq_iff_eq]

theorem exists_first (member : target ∈ targets) :
    ∃ first, first? targets target.name = some first :=
  Option.isSome_iff_exists.mp (List.find?_isSome.mpr ⟨target, member, beq_self_eq_true _⟩)

theorem erased_of_first? (found : first? targets name = some first) :
    first.name.erased = name.erased := by
  have equal := List.find?_some found
  exact beq_iff_eq.mp equal

/-- The search for an erased name finds the first target of that name if it is written so, and
never finds it otherwise. -/
theorem find?_erased_eq_first_iff (found : first? targets name = some first) :
    targets.find? (·.name == name.erased) = some first ↔ first.name.IsErased := by
  have same := erased_of_first? found
  constructor
  · intro looked
    exact same.trans (name_of_find? looked).symm
  · intro written
    obtain ⟨_, before, after, split, others⟩ := List.find?_eq_some_iff_append.mp found
    refine List.find?_eq_some_iff_append.mpr
      ⟨beq_iff_eq.mpr (written.symm.trans same), before, after, split, fun earlier member => ?_⟩
    have other := others earlier member
    rw [Bool.not_eq_true', beq_eq_false_iff_ne] at other ⊢
    exact fun equal => other (by rw [equal, TypeName.erased_erased])

/-- Of the targets with one erased name some object is answered by the first, and none by a later
one. -/
theorem exists_find?_accepts_iff (targets : List Target) (target : Target) :
    (∃ runtime, targets.find? (·.accepts runtime) = some target) ↔
      first? targets target.name = some target := by
  constructor
  · rintro ⟨runtime, found⟩
    obtain ⟨accepts, before, after, split, others⟩ := List.find?_eq_some_iff_append.mp found
    refine List.find?_eq_some_iff_append.mpr
      ⟨beq_self_eq_true _, before, after, split, fun earlier member => ?_⟩
    have rejects := others earlier member
    rw [Bool.not_eq_true'] at rejects ⊢
    refine beq_eq_false_iff_ne.mpr fun equal => ?_
    rw [Target.accepts, ← RuntimeType.isSubtypeOf_erased, equal, RuntimeType.isSubtypeOf_erased,
      ← Target.accepts, accepts] at rejects
    contradiction
  · intro found
    refine ⟨⟨target.name, []⟩, Eq.trans (congrArg (targets.find? ·) (funext fun other => ?_)) found⟩
    rw [Target.accepts, RuntimeType.isSubtypeOf, List.any_nil, Bool.or_false]
    exact Bool.beq_comm

/-- One more target repeats a name that was written before, or none. -/
theorem repeatsWritten_concat : RepeatsWritten (targets ++ [target]) ↔ RepeatsWritten targets ∧
    ((∃ earlier ∈ targets, earlier.name.erased = target.name.erased) →
      IsWritten targets target.name.erased) := by
  constructor
  · intro repeats
    refine ⟨fun before other after split => ?_, repeats targets target [] rfl⟩
    exact repeats before other (after ++ [target]) (by rw [split, List.append_assoc]; rfl)
  · rintro ⟨repeats, own⟩ before other after split
    rcases List.eq_nil_or_concat after with rfl | ⟨rest, last, rfl⟩
    · obtain ⟨rfl, equal⟩ := List.append_inj' split rfl
      obtain rfl := List.singleton_inj.mp equal
      exact own
    · rw [List.concat_eq_append, ← List.cons_append, ← List.append_assoc] at split
      exact repeats before other rest (List.append_inj' split rfl).1

end Target

namespace Expansions

open Target

/-! ### Targets that are expanded -/

variable (targets : List Target) (target : Target)

theorem isSome_byName?_ofList (name : TypeName) :
    ((ofList targets).byName? name).isSome ↔ IsWritten targets name.erased := by
  rw [byName?_ofList, isWritten_iff]

theorem byName?_ofList_eq_first_iff {targets : List Target} {name : TypeName} {first : Target}
    (found : first? targets name = some first) :
    (ofList targets).byName? name = some first ↔ first.name.IsErased := by
  rw [byName?_ofList, find?_erased_eq_first_iff found]

/-- A declared type is looked up by its erased name, which is erased once more. -/
theorem byDeclared?_ofList_eq_first_iff {targets : List Target} {target first : Target}
    (found : first? targets target.name = some first) :
    (ofList targets).byDeclared? target.declaredType = some first ↔ first.name.IsErased := by
  have erasedFound : first? targets target.name.erased = some first := by
    rwa [first?, TypeName.erased_erased]
  exact byName?_ofList_eq_first_iff erasedFound

/-- A target is dropped if its erased name was written before, and stands last otherwise. -/
theorem ofList_concat_of_isWritten {targets : List Target} {target : Target}
    (written : IsWritten targets target.name.erased) :
    ofList (targets ++ [target]) = ofList targets := by
  have known := (isSome_byName?_ofList targets target.name).mpr written
  rw [ofList, List.foldl_concat]
  exact if_pos known

theorem ofList_concat_of_not_isWritten {targets : List Target} {target : Target}
    (unwritten : ¬ IsWritten targets target.name.erased) :
    (ofList (targets ++ [target])).targets = (ofList targets).targets ++ [target] := by
  have unknown := (isSome_byName?_ofList targets target.name).not.mpr unwritten
  rw [ofList, List.foldl_concat]
  exact congrArg Expansions.targets (if_neg unknown)

/-- No erased name is lost. -/
theorem mem_erased_ofList (name : TypeName) :
    name.erased ∈ (ofList targets).targets.map (·.name.erased) ↔
      ∃ target ∈ targets, target.name.erased = name.erased := by
  have same : (ofList targets).targets.find? (·.name.erased == name.erased) =
      targets.find? (·.name.erased == name.erased) := by
    refine find?_foldl_add (fun earlier later named same => ?_) targets none
    rw [named, TypeName.erased_erased]
    exact same
  have both := congrArg Option.isSome same
  rw [Bool.eq_iff_iff, List.find?_isSome, List.find?_isSome] at both
  simpa only [List.mem_map, beq_iff_eq] using both

/-- Every erased name is registered once exactly if no name is repeated that was not written in
erased form before. -/
theorem nodup_erased_ofList_iff :
    ((ofList targets).targets.map (·.name.erased)).Nodup ↔ RepeatsWritten targets := by
  induction targets using List.reverseRecOn with
  | nil =>
    refine iff_of_true List.nodup_nil fun before target after split => ?_
    exact absurd split.symm (by simp)
  | append_singleton targets target inductionHypothesis =>
    rw [repeatsWritten_concat]
    by_cases written : IsWritten targets target.name.erased
    · rw [ofList_concat_of_isWritten written, inductionHypothesis]
      exact (and_iff_left fun _ => written).symm
    · rw [ofList_concat_of_not_isWritten written, List.map_append, List.map_singleton,
        List.nodup_append_comm, List.singleton_append, List.nodup_cons, inductionHypothesis,
        mem_erased_ofList, and_comm]
      exact and_congr_right fun _ => (imp_iff_not written).symm

end Expansions

namespace Registry

open Target

variable {targets : List Target} {target first : Target}

/-! ### Targets with literals -/

theorem byName?_withTargets_eq_first_iff (registry : Registry) {name : TypeName}
    (found : first? targets name = some first) :
    (registry.withTargets targets).byName? name = some first ↔ first.name.IsErased := by
  have same := erased_of_first? found
  constructor
  · intro looked
    exact same.trans (name_of_byName? looked).symm
  · intro written
    rw [byName?_withTargets, (find?_erased_eq_first_iff found).mpr written, Option.some_or]

/-- A new target has literals if its erased name is written among the new ones, or had some. -/
theorem hasLiteral_withTargets_iff (registry : Registry) (targets : List Target)
    (target : Target) :
    (registry.withTargets targets).hasLiteral target.declaredType ↔
      IsWritten targets target.name.erased ∨ registry.hasLiteral target.declaredType := by
  have expanded : ((Expansions.ofList targets).byDeclared? target.declaredType).isSome ↔
      IsWritten targets target.name.erased.erased :=
    Expansions.isSome_byName?_ofList targets target.name.erased
  rw [TypeName.erased_erased] at expanded
  rw [hasLiteral_withTargets, Bool.or_eq_true, expanded, or_comm]

theorem isValueType_withValueTypes_iff (registry : Registry) (names : List TypeName)
    (name : TypeName) :
    (registry.withValueTypes names).isValueType name ↔
      name.erased ∈ names ∨ registry.isValueType name := by
  rw [isValueType, withValueTypes, enter, List.any_cons, Bool.or_assoc, Bool.or_eq_true,
    List.contains_iff_mem]
  rfl

/-- Of the new targets some object is answered by the first of an erased name, and none by a later
one. -/
theorem exists_accepting?_withTargets_iff (registry : Registry) (member : target ∈ targets) :
    (∃ runtime, (registry.withTargets targets).accepting? runtime = some target) ↔
      first? targets target.name = some target := by
  rw [← exists_find?_accepts_iff]
  refine exists_congr fun runtime => ?_
  rw [accepting?_withTargets, Option.or_eq_some_iff]
  refine or_iff_left ?_
  rintro ⟨unfound, outer⟩
  obtain ⟨_, scope, _, _, inner, _⟩ := List.findSome?_eq_some_iff.mp outer
  have accepts := List.find?_some inner
  exact List.find?_eq_none.mp unfound target member accepts

/-- What is registered is found again as far as names are written in erased form. Erased names are
registered once exactly if each is written in that form before it is repeated. Every target is found
under its own name, as the first target of that erased name, exactly if that one is written so. The
search by the type of an object finds the first target of an erased name however it is written, but
a target is found by its name only where its erased name is written. A value type is known under its
own name if its erased name is among the new ones, or was known. -/
theorem lookups_agree_iff (registry : Registry) (targets : List Target) (names : List TypeName) :
    (((Expansions.ofList targets).targets.map (·.name.erased)).Nodup ↔ RepeatsWritten targets) ∧
    (∀ target ∈ targets, ∃ first, first? targets target.name = some first ∧
      ((Expansions.ofList targets).byDeclared? target.declaredType = some first ↔
        first.name.IsErased) ∧
      ((Expansions.ofList targets).byName? target.name = some first ↔ first.name.IsErased) ∧
      ((registry.withTargets targets).byName? target.name = some first ↔ first.name.IsErased) ∧
      ((registry.withTargets targets).hasLiteral target.declaredType ↔
        IsWritten targets target.name.erased ∨ registry.hasLiteral target.declaredType)) ∧
    (∀ target ∈ targets,
      ((∃ runtime, (Expansions.ofList targets).accepting? runtime = some target) ↔
        first? targets target.name = some target) ∧
      (((Expansions.ofList targets).byName? target.name).isSome ↔
        IsWritten targets target.name.erased) ∧
      ((∃ runtime, (registry.withTargets targets).accepting? runtime = some target) ↔
        first? targets target.name = some target) ∧
      (((registry.withTargets targets).byName? target.name).isSome ↔
        IsWritten targets target.name.erased ∨ (registry.byName? target.name).isSome)) ∧
    ∀ name ∈ names, (registry.withValueTypes names).isValueType name ↔
      name.erased ∈ names ∨ registry.isValueType name := by
  refine ⟨Expansions.nodup_erased_ofList_iff targets, fun target member => ?_,
    fun target member => ⟨?_, ?_, ?_, ?_⟩,
    fun name _ => isValueType_withValueTypes_iff registry names name⟩
  · obtain ⟨first, found⟩ := exists_first member
    refine ⟨first, found, ?_, ?_, byName?_withTargets_eq_first_iff registry found,
      hasLiteral_withTargets_iff registry targets target⟩
    · exact Expansions.byDeclared?_ofList_eq_first_iff found
    · exact Expansions.byName?_ofList_eq_first_iff found
  · simp only [Expansions.accepting?_ofList, exists_find?_accepts_iff]
  · exact Expansions.isSome_byName?_ofList targets target.name
  · exact exists_accepting?_withTargets_iff registry member
  · rw [byName?_withTargets, Option.isSome_or, Bool.or_eq_true, ← isWritten_iff]

end Registry

namespace Boxes

/-! ### A type with arguments in its name -/

def plain : Target :=
  .interface "a.Box"

def generic : Target :=
  .interface "a.Box<T>"

/-- Beside the plain type the generic one is dropped, and is found as the plain one. -/
theorem lookups_agree_iff_plain :
    generic ∈ [plain, generic] ∧ plain.name ∈ [plain.name] ∧
    Target.RepeatsWritten [plain, generic] ∧
    (Expansions.ofList [plain, generic]).byDeclared? generic.declaredType = some plain ∧
    (Expansions.ofList [plain, generic]).byName? generic.name = some plain ∧
    (Registry.root.withTargets [plain, generic]).byName? generic.name = some plain ∧
    ¬ (∃ runtime, (Expansions.ofList [plain, generic]).accepting? runtime = some generic) ∧
    (Registry.root.withValueTypes [plain.name]).isValueType plain.name := by
  have member : generic ∈ [plain, generic] := by decide
  have named : plain.name ∈ [plain.name] := by decide
  obtain ⟨unique, looked, answered, values⟩ :=
    Registry.lookups_agree_iff .root [plain, generic] [plain.name]
  obtain ⟨first, found, declared, expanded, known, _⟩ := looked generic member
  obtain rfl : plain = first := Option.some.inj found
  have written : plain.name.IsErased := by decide
  refine ⟨member, named, unique.mp (by decide), declared.mpr written, expanded.mpr written,
    known.mpr written, (answered generic member).1.not.mpr (by decide), ?_⟩
  exact (values plain.name named).mpr (.inl (by decide))

/-- Twice the generic type, and it is registered twice, but not found by its own name. -/
theorem not_lookups_agree :
    ¬ ((Expansions.ofList [generic, generic]).targets.map (·.name.erased)).Nodup ∧
    Target.first? [generic, generic] generic.name = some generic ∧
    (Expansions.ofList [generic, generic]).byDeclared? generic.declaredType = none ∧
    (Expansions.ofList [generic, generic]).byName? generic.name = none ∧
    (Registry.root.withTargets [generic, generic]).byName? generic.name = none ∧
    ¬ (Registry.root.withTargets [generic, generic]).hasLiteral generic.declaredType ∧
    (Expansions.ofList [generic, generic]).accepting? ⟨plain.name, []⟩ = some generic ∧
    (Registry.root.withTargets [generic, generic]).accepting? ⟨plain.name, []⟩ = some generic ∧
    ¬ (Registry.root.withValueTypes [generic.name]).isValueType generic.name := by
  decide

end Boxes

end FrozenGraph
