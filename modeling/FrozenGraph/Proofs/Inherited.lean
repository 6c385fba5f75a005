/-
This file tells which methods a target lists that was described step by step. An inherited method
is added only if its signature is not listed yet, so of several inherited methods with one signature
the first stays, and none is added to a signature that the target declared itself. A method that
the target declares is added in any case: if its signature was inherited before, both stay. So a
target lists a signature twice exactly if it declares one that it inherited before, and then its
anonymous subclasses override that accessor twice.
-/

import FrozenGraph.Graph.Script
import FrozenGraph.Proofs.Traced
import Mathlib.Data.List.Nodup

namespace FrozenGraph

/-! ### Signatures -/

namespace Method

/-- Methods with one signature override each other. -/
def signature (method : Method) : String × List DeclaredType :=
  (method.name, method.parameters)

theorem sameSignature_iff (first second : Method) :
    first.sameSignature second ↔ first.signature = second.signature := by
  rw [sameSignature, signature, signature, Bool.and_eq_true, beq_iff_eq, beq_iff_eq, Prod.mk.injEq]

end Method

namespace Target

/-! ### Descriptions -/

/-- One step of a description. An accessor is a method without parameters, and a parent may be
described in any way. -/
inductive Step where
  | method (name : String) (parameters : List DeclaredType) (returns : DeclaredType)
  | inherit (parent : Target)
  | final
  | withoutConstructor
deriving DecidableEq, Repr

/-- The target after one more step. -/
def extended (target : Target) : Step → Target
  | .method name parameters returns => target.method name parameters returns
  | .inherit parent => target.inherit parent
  | .final => target.final
  | .withoutConstructor => target.withoutConstructor

/-- The target that all steps make of one without methods. -/
def described (name : TypeName) (kind : TargetKind) (steps : List Step) : Target :=
  steps.foldl extended ⟨name, kind, []⟩

/-- The methods that the target declares itself. -/
def declared (name : TypeName) (steps : List Step) : List Method :=
  steps.filterMap fun
    | .method own parameters returns => some ⟨own, parameters, returns, name⟩
    | .inherit _ | .final | .withoutConstructor => none

/-- The first method of a signature that is inherited before the target declares one itself. -/
def heirloom? (signature : String × List DeclaredType) : List Step → Option Method
  | [] => none
  | .method name parameters _ :: rest =>
    if (name, parameters) = signature then none else heirloom? signature rest
  | .inherit parent :: rest =>
    (parent.methods.find? (·.signature == signature)).or (heirloom? signature rest)
  | .final :: rest | .withoutConstructor :: rest => heirloom? signature rest

/-- The methods of a signature, in the order in which they are listed. -/
def listed (target : Target) (signature : String × List DeclaredType) : List Method :=
  target.methods.filter (·.signature == signature)

/-! ### What a step does to the methods of a signature -/

variable (target : Target) (signature : String × List DeclaredType)

/-- A declared method is added in any case. -/
theorem listed_method (name : String) (parameters : List DeclaredType) (returns : DeclaredType) :
    (target.method name parameters returns).listed signature = target.listed signature ++
      [⟨name, parameters, returns, target.name⟩].filter (·.signature == signature) :=
  List.filter_append ..

theorem any_sameSignature_iff (method : Method) :
    target.methods.any (·.sameSignature method) ↔ target.listed method.signature ≠ [] := by
  simp only [List.any_eq_true, Method.sameSignature_iff, listed, ne_eq, List.filter_eq_nil_iff,
    beq_iff_eq, not_forall, not_not, exists_prop]

/-- An inherited method is added if it is the first of its signature. -/
theorem listed_inheritMethod (inherited : Method) :
    (target.inheritMethod inherited).listed signature =
      if target.listed signature = [] then [inherited].filter (·.signature == signature)
      else target.listed signature := by
  have known := target.any_sameSignature_iff inherited
  have added : (target.methods ++ [inherited]).filter (·.signature == signature) =
      target.listed signature ++ [inherited].filter (·.signature == signature) :=
    List.filter_append ..
  by_cases same : inherited.signature = signature
  · rw [same] at known
    rw [inheritMethod]
    by_cases absent : target.listed signature = []
    · rw [if_neg (known.not.mpr (not_not.mpr absent)), if_pos absent, listed, added, absent,
        List.nil_append]
    · rw [if_pos (known.mpr absent), if_neg absent]
  · have other : [inherited].filter (·.signature == signature) = [] := by
      simpa using same
    rw [other, List.append_nil] at added
    have unchanged : (target.inheritMethod inherited).listed signature =
        target.listed signature := by
      rw [inheritMethod]
      split
      · rfl
      · exact added
    rw [unchanged, other]
    split
    · assumption
    · rfl

/-- Of all methods of a parent the first of a signature is added, if the target lists none. -/
theorem listed_inherit (parent : Target) :
    (target.inherit parent).listed signature =
      if target.listed signature = [] then
        (parent.methods.find? (·.signature == signature)).toList
      else target.listed signature := by
  rw [inherit]
  induction parent.methods generalizing target with
  | nil => simp
  | cons first rest inductionHypothesis =>
    rw [List.foldl_cons, inductionHypothesis, listed_inheritMethod, List.find?_cons,
      List.filter_cons]
    by_cases absent : target.listed signature = []
    · cases same : first.signature == signature with
      | false => simp [absent]
      | true => simp [absent]
    · simp [absent]

@[simp] theorem methods_final : target.final.methods = target.methods := by
  rw [final]
  split <;> rfl

@[simp] theorem methods_withoutConstructor :
    target.withoutConstructor.methods = target.methods := by
  rw [withoutConstructor]
  split <;> rfl

theorem name_inherit (parent : Target) : (target.inherit parent).name = target.name := by
  rw [inherit]
  induction parent.methods generalizing target with
  | nil => rfl
  | cons first rest inductionHypothesis =>
    rw [List.foldl_cons, inductionHypothesis, inheritMethod]
    split <;> rfl

/-- No step gives another name to a target. -/
theorem name_extended (step : Step) : (target.extended step).name = target.name := by
  cases step with
  | method => rfl
  | inherit parent => exact target.name_inherit parent
  | final =>
    rw [extended, final]
    split <;> rfl
  | withoutConstructor =>
    rw [extended, withoutConstructor]
    split <;> rfl

/-! ### What a description lists -/

/-- What steps add to the methods of a signature. The induction is on the steps; while nothing is
listed, an heirloom can still come. -/
theorem listed_foldl (steps : List Step) :
    (steps.foldl extended target).listed signature = target.listed signature ++
      ((if target.listed signature = [] then (heirloom? signature steps).toList else []) ++
        (declared target.name steps).filter (·.signature == signature)) := by
  induction steps generalizing target with
  | nil => simp [heirloom?, declared]
  | cons step rest inductionHypothesis =>
    rw [List.foldl_cons, inductionHypothesis, name_extended]
    cases step with
    | method name parameters returns =>
      have own : declared target.name (.method name parameters returns :: rest) =
          [⟨name, parameters, returns, target.name⟩] ++ declared target.name rest := rfl
      rw [extended, listed_method, own, List.filter_append, heirloom?]
      by_cases same : (name, parameters) = signature
      · simp [Method.signature, same]
      · simp [Method.signature, same]
    | inherit parent =>
      have others : declared target.name (.inherit parent :: rest) =
          declared target.name rest := rfl
      rw [extended, listed_inherit, others, heirloom?]
      by_cases absent : target.listed signature = []
      · cases parent.methods.find? (·.signature == signature) with
        | none => simp [absent]
        | some first => simp [absent]
      · simp [absent]
    | final =>
      rw [extended, listed, methods_final]
      rfl
    | withoutConstructor =>
      rw [extended, listed, methods_withoutConstructor]
      rfl

variable {name : TypeName} {kind : TargetKind} {steps : List Step}

/-- Of each signature a target lists the heirloom, if there is one, and then all that it declares
itself. -/
theorem listed_described :
    (described name kind steps).listed signature = (heirloom? signature steps).toList ++
      (declared name steps).filter (·.signature == signature) :=
  listed_foldl ⟨name, kind, []⟩ signature steps

/-! ### Signatures that are listed once -/

/-- Among the methods whose names pass a test, no signature is repeated exactly if none is listed
twice. -/
theorem nodup_signatures_iff (test : String → Bool) :
    ((target.methods.filter (test ·.name)).map Method.signature).Nodup ↔
      ∀ signature, test signature.1 → (target.listed signature).length ≤ 1 := by
  have counted : ∀ signature,
      ((target.methods.filter (test ·.name)).map Method.signature).count signature =
        if test signature.1 then (target.listed signature).length else 0 := by
    intro signature
    rw [List.count, List.countP_map, List.countP_filter, listed, ← List.countP_eq_length_filter]
    cases passes : test signature.1 with
    | true =>
      refine List.countP_congr fun method _ => ?_
      simp only [Function.comp_apply, Bool.and_eq_true, beq_iff_eq, and_iff_left_iff_imp]
      rintro rfl
      exact passes
    | false =>
      refine List.countP_eq_zero.mpr fun method _ => ?_
      simp only [Function.comp_apply, Bool.and_eq_true, beq_iff_eq, not_and]
      rintro rfl
      exact ne_true_of_eq_false passes
  rw [List.nodup_iff_count_le_one]
  refine forall_congr' fun signature => ?_
  rw [counted]
  cases test signature.1 <;> simp

/-- Among methods that repeat no signature, each is the only one of its own. -/
theorem filter_signature {methods : List Method}
    (unique : (methods.map Method.signature).Nodup) {method : Method} (member : method ∈ methods) :
    methods.filter (·.signature == method.signature) = [method] := by
  have same : methods.filter (·.signature == method.signature) = methods.filter (· == method) := by
    refine List.filter_congr fun other found => Bool.eq_iff_iff.mpr ?_
    rw [beq_iff_eq, beq_iff_eq]
    exact ⟨List.inj_on_of_nodup_map unique found member, congrArg _⟩
  rw [same, List.filter_beq, List.count_eq_one_of_mem unique.of_map member]
  rfl

theorem length_listed_described_iff (unique : ((declared name steps).map Method.signature).Nodup) :
    ((described name kind steps).listed signature).length ≤ 1 ↔
      ∀ method ∈ declared name steps, method.signature = signature →
        heirloom? signature steps = none := by
  rw [listed_described, List.length_append]
  by_cases own : ∃ method ∈ declared name steps, method.signature = signature
  · obtain ⟨method, member, rfl⟩ := own
    rw [filter_signature unique member]
    cases heirloom? method.signature steps with
    | none => simp
    | some inherited => simpa using ⟨method, member, rfl⟩
  · have nothing : (declared name steps).filter (·.signature == signature) = [] :=
      List.filter_eq_nil_iff.mpr fun method member same =>
        own ⟨method, member, beq_iff_eq.mp same⟩
    rw [nothing]
    refine iff_of_true ?_ fun method member same => absurd ⟨method, member, same⟩ own
    cases heirloom? signature steps <;> simp

/-- No signature is repeated exactly if the target declares none that it inherited before. -/
theorem nodup_described_iff (unique : ((declared name steps).map Method.signature).Nodup)
    (test : String → Bool) :
    (((described name kind steps).methods.filter (test ·.name)).map Method.signature).Nodup ↔
      ∀ method ∈ declared name steps, test method.name →
        heirloom? method.signature steps = none := by
  rw [nodup_signatures_iff]
  simp only [length_listed_described_iff _ unique]
  constructor
  · exact fun once method member passes => once _ passes method member rfl
  · rintro all _ passes method member rfl
    exact all method member passes

/-! ### Accessors that are overridden once -/

/-- Accessors take nothing, so they repeat a name exactly if the methods to override repeat a
signature. -/
theorem nodup_names_of_accessors {target : Target} {accessors : List Method}
    (listed : target.accessors = .ok accessors) :
    (accessors.map Method.name).Nodup ↔ (target.overridable.map Method.signature).Nodup := by
  rw [Target.accessors] at listed
  split at listed
  · cases listed
  · rename_i plain
    obtain rfl := Except.ok.inj listed
    have signatures : target.overridable.map Method.signature =
        (target.overridable.map Method.name).map fun name => (name, []) := by
      rw [List.map_map]
      refine List.map_congr_left fun method member => Prod.ext rfl ?_
      have takesNothing := List.find?_eq_none.mp plain method member
      rw [Bool.not_eq_true', Bool.not_eq_false] at takesNothing
      exact List.isEmpty_iff.mp takesNothing
    have sorted : (sortByName target.overridable).Perm target.overridable :=
      List.mergeSort_perm ..
    rw [(sorted.map Method.name).nodup_iff, signatures,
      List.nodup_map_iff fun _ _ same => (Prod.mk.inj same).1]

end Target

/-- The name of an overriding method. -/
def Override.name {δ : Type} : Override δ → String
  | .empty name _ => name
  | .returning name _ _ => name

/-- Every accessor is overridden once, in order. -/
theorem Node.names_of_overrides {heap : Heap} {attempt : Attempt} {node : Node}
    {registry inner : Registry} {methods : List Method} {ledger : Ledger} {run after : Run}
    {overrides : List (Override Deferred)}
    (ended : node.overrides heap attempt registry inner ledger methods run =
      .ok overrides after) :
    overrides.map Override.name = methods.map Method.name := by
  induction methods generalizing ledger run overrides with
  | nil =>
    cases ended
    rfl
  | cons method rest inductionHypothesis =>
    rw [Node.overrides] at ended
    split at ended
    · obtain ⟨others, _, later, last⟩ := Walk.exists_of_bind ended
      cases last
      exact congrArg (method.name :: ·) (inductionHypothesis later)
    · obtain ⟨_, _, _, next⟩ := Walk.exists_of_bind ended
      obtain ⟨_, _, _, next⟩ := Walk.exists_of_bind next
      obtain ⟨_, _, _, next⟩ := Walk.exists_of_bind next
      obtain ⟨others, _, later, last⟩ := Walk.exists_of_bind next
      cases last
      exact congrArg (method.name :: ·) (inductionHypothesis later)

namespace Target

/-- Of every signature a target lists the heirloom, which was inherited before the target declared
the signature itself, and its own declaration. Where it declares no signature twice, it lists none
twice exactly if it declares none that it inherited before, and its own declaration stays alone
exactly then. An anonymous subclass overrides no accessor twice exactly if this holds of the methods
that do not define equality. -/
theorem listed_once_iff {name : TypeName} (kind : TargetKind) {steps : List Step}
    (unique : ((declared name steps).map Method.signature).Nodup) :
    (∀ signature, (described name kind steps).listed signature =
      (heirloom? signature steps).toList ++
        (declared name steps).filter (·.signature == signature)) ∧
    (((described name kind steps).methods.map Method.signature).Nodup ↔
      ∀ method ∈ declared name steps, heirloom? method.signature steps = none) ∧
    (∀ method ∈ declared name steps,
      ((described name kind steps).listed method.signature = [method] ↔
        heirloom? method.signature steps = none)) ∧
    ∀ {heap : Heap} {attempt : Attempt} {ledger : Ledger} {registry inner : Registry}
      {object : LiveObject} {expansions : Expansions} {node : Node} {run after : Run}
      {overrides : List (Override Deferred)},
      Node.build object (described name kind steps) expansions = .ok node →
      node.overrides heap attempt registry inner ledger node.accessors run =
        .ok overrides after →
      ((overrides.map Override.name).Nodup ↔
        ∀ method ∈ declared name steps, method.definesEquality = false →
          heirloom? method.signature steps = none) := by
  refine ⟨fun signature => listed_described signature, ?_, fun method member => ?_,
    fun built ended => ?_⟩
  · simpa using nodup_described_iff unique fun _ => true
  · rw [listed_described, filter_signature unique member]
    cases heirloom? method.signature steps <;> simp
  · have accessors := (Node.built_of_build built).accessors_eq
    rw [Node.names_of_overrides ended, nodup_names_of_accessors accessors]
    have once : ((described name kind steps).overridable.map Method.signature).Nodup ↔ _ :=
      nodup_described_iff unique fun name => !(name == "equals" || name == "hashCode")
    exact once.trans (forall₂_congr fun method _ =>
      imp_congr_left (Bool.not_eq_true' method.definesEquality).to_iff)

end Target

namespace People

/-! ### A person that has a name and an age -/

def nameStep : Target.Step :=
  .method "getName" [] (.named ⟨"java.lang.String"⟩ [])

def named : Target :=
  .described ⟨"com.example.Named"⟩ .interface [nameStep]

/-- Who has an age has a name too. -/
def aged : Target :=
  .described ⟨"com.example.Aged"⟩ .interface
    [.inherit named, .method "getAge" [] (.primitive .int)]

def personName : TypeName :=
  ⟨"com.example.Person"⟩

/-- The name that a type declares. -/
def nameOf (declaring : TypeName) : Method :=
  ⟨"getName", [], .named ⟨"java.lang.String"⟩ [], declaring⟩

def age : Method :=
  ⟨"getAge", [], .primitive .int, aged.name⟩

/-- The person declares its name first, and inherits two more. -/
def careful : List Target.Step :=
  [nameStep, .inherit named, .inherit aged]

/-- The person inherits a name first. -/
def careless : List Target.Step :=
  [.inherit named, nameStep]

def ann : LiveObject :=
  ⟨.entry "ann", ⟨personName, []⟩, none⟩

def script : Script :=
  [⟨ann, [("getName", .value (.existing (.scalar (.string "Ann")))),
    ("getAge", .value (.existing (.scalar (.int 30))))]⟩]

/-- The node of Ann as a person. -/
def node (steps : List Target.Step) (accessors : List Method) : Node :=
  ⟨ann, .described personName .interface steps, accessors, .none, .pending, none⟩

/-- The overriding methods of the anonymous class for Ann. -/
def overrides (node : Node) : Walk (List (Override Deferred)) :=
  node.overrides script.heap (fun _ _ _ => throw .outOfFuel) .root .root .empty node.accessors

/-- The names of the overriding methods. -/
def overriding (node : Node) : List String :=
  match overrides node ⟨.initial, .empty⟩ with
  | .ok methods _ => methods.map Override.name
  | .error _ _ => []

/-- Whoever declares a name before inheriting it lists it once. -/
theorem listed_once_iff_careful :
    ((Target.declared personName careful).map Method.signature).Nodup ∧
    ((Target.described personName .interface careful).methods.map Method.signature).Nodup ∧
    (Target.described personName .interface careful).listed (nameOf personName).signature =
      [nameOf personName] ∧
    Node.build ann (.described personName .interface careful) .none =
      .ok (node careful [age, nameOf personName]) ∧
    ∃ methods after, overrides (node careful [age, nameOf personName]) ⟨.initial, .empty⟩ =
      .ok methods after ∧ methods.map Override.name = ["getAge", "getName"] ∧
      (methods.map Override.name).Nodup := by
  have unique : ((Target.declared personName careful).map Method.signature).Nodup := by decide
  have first : ∀ method ∈ Target.declared personName careful,
      Target.heirloom? method.signature careful = none := by
    decide
  obtain ⟨_, once, own, overridden⟩ := Target.listed_once_iff .interface unique
  have sorted : Target.sortByName [nameOf personName, age] = [age, nameOf personName] := by
    have descending : ¬ (nameOf personName).name ≤ age.name := by decide +kernel
    simp [Target.sortByName, List.mergeSort, descending]
  have built : Node.build ann (.described personName .interface careful) .none =
      .ok (node careful [age, nameOf personName]) := by
    rw [node, ← sorted]
    rfl
  refine ⟨unique, once.mpr first, (own _ (by decide)).mpr (first _ (by decide)), built, ?_⟩
  have names : overriding (node careful [age, nameOf personName]) = ["getAge", "getName"] := by
    decide +kernel
  cases ended : overrides (node careful [age, nameOf personName]) ⟨.initial, .empty⟩ with
  | error stop after =>
    rw [overriding, ended] at names
    cases names
  | ok methods after =>
    rw [overriding, ended] at names
    exact ⟨methods, after, rfl, names, (overridden built ended).mpr fun method member _ =>
      first method member⟩

/-- Whoever inherits a name before declaring it lists it twice, and the anonymous class overrides
the accessor twice. -/
theorem not_listed_once :
    ((Target.declared personName careless).map Method.signature).Nodup ∧
    ¬ ((Target.described personName .interface careless).methods.map Method.signature).Nodup ∧
    (Target.described personName .interface careless).listed (nameOf personName).signature ≠
      [nameOf personName] ∧
    Node.build ann (.described personName .interface careless) .none =
      .ok (node careless [nameOf named.name, nameOf personName]) ∧
    overriding (node careless [nameOf named.name, nameOf personName]) =
      ["getName", "getName"] := by
  have sorted : Target.sortByName [nameOf named.name, nameOf personName] =
      [nameOf named.name, nameOf personName] := by
    have equal : (nameOf named.name).name ≤ (nameOf personName).name := by decide +kernel
    simp [Target.sortByName, List.mergeSort, equal]
  refine ⟨by decide, by decide, by decide, ?_, by decide +kernel⟩
  rw [node, ← sorted]
  rfl

end People

end FrozenGraph
