/-
This file tells which target an object is written as where it has to be a literal, and when there is
none. All lookups are searches in two lists: the targets of the registry, scope by scope from the
innermost one on, and the targets that are expanded. The target that the declared type is registered
for is taken if it accepts the object, else the first one that does, the expanded ones before the
others. So there is a target exactly if any registered one accepts the object.

What is taken accepts the object, so the expansion can fail for many reasons, but not for this one.
And an object that is not known is refused without asking it anything exactly if nothing fits: every
other refusal comes from one of its answers.
-/

import FrozenGraph.Proofs.Confined
import FrozenGraph.Proofs.Noted
import FrozenGraph.Proofs.Targeted

namespace FrozenGraph

/-! ### Lookups as searches in one list -/

namespace Registry

variable (registry : Registry)

theorem byName?_eq_find? (name : TypeName) :
    registry.byName? name = registry.targets.find? (·.name == name.erased) :=
  List.find?_flatMap.symm

theorem accepting?_eq_find? (runtime : RuntimeType) :
    registry.accepting? runtime = registry.targets.find? (·.accepts runtime) :=
  List.find?_flatMap.symm

end Registry

namespace Encode

variable (registry : Registry) (expansions : Expansions)

/-- The first target that is registered under the erased name of a declared type, the registry
before the expansions. -/
def registration? (declared : Option DeclaredType) : Option Target :=
  (declared.bind (·.erasedName)).bind fun name =>
    (registry.targets ++ expansions.targets).find? (·.name == name)

/-- The first target that accepts an object, the expansions before the registry. -/
def fitting? (runtime : RuntimeType) : Option Target :=
  (expansions.targets ++ registry.targets).find? (·.accepts runtime)

theorem bind_declaredTarget? (declared : Option DeclaredType) :
    declared.bind (declaredTarget? registry expansions) =
      registration? registry expansions declared := by
  cases declared with
  | none => rfl
  | some declared =>
    cases declared with
    | void | primitive _ => rfl
    | named name arguments =>
      show (registry.byName? name.erased).or (expansions.byName? name.erased) = _
      rw [Registry.byName?_eq_find?, Expansions.byName?, TypeName.erased_erased,
        ← List.find?_append]
      rfl

/-- The target of the declared type comes first if it fits, and then the first that does. -/
theorem targetFor?_eq (declared : Option DeclaredType) (runtime : RuntimeType) :
    targetFor? registry expansions declared runtime =
      ((registration? registry expansions declared).filter (·.accepts runtime)).or
        (fitting? registry expansions runtime) := by
  rw [targetFor?, bind_declaredTarget?, Registry.accepting?_eq_find?, Expansions.accepting?,
    Option.or_assoc, ← List.find?_append]
  rfl

variable {registry expansions} {declared : Option DeclaredType} {runtime : RuntimeType}
  {target own : Target}

theorem mem_of_registration? (registered : registration? registry expansions declared = some own) :
    own ∈ registry.targets ++ expansions.targets := by
  obtain ⟨name, _, found⟩ := Option.bind_eq_some_iff.mp registered
  exact List.mem_of_find?_eq_some found

theorem targetFor?_of_accepts (registered : registration? registry expansions declared = some own)
    (accepts : own.accepts runtime) :
    targetFor? registry expansions declared runtime = some own := by
  rw [targetFor?_eq, registered, Option.filter_some, if_pos accepts, Option.some_or]

theorem targetFor?_of_rejects
    (rejects : ∀ own, registration? registry expansions declared = some own →
      own.accepts runtime = false) :
    targetFor? registry expansions declared runtime = fitting? registry expansions runtime := by
  have nothing : (registration? registry expansions declared).filter (·.accepts runtime) =
      none := by
    refine Option.filter_eq_none_iff.mpr fun own registered => ?_
    rw [rejects own registered]
    exact Bool.false_ne_true
  rw [targetFor?_eq, nothing, Option.none_or]

/-- What is taken is registered and fits. -/
theorem mem_and_accepts_of_targetFor?
    (taken : targetFor? registry expansions declared runtime = some target) :
    target ∈ registry.targets ++ expansions.targets ∧ target.accepts runtime := by
  rw [targetFor?_eq, Option.or_eq_some_iff] at taken
  rcases taken with own | ⟨_, found⟩
  · obtain ⟨registered, accepts⟩ := Option.filter_eq_some_iff.mp own
    exact ⟨mem_of_registration? registered, accepts⟩
  · have accepts := List.find?_some found
    exact ⟨List.mem_append.mpr (List.mem_append.mp (List.mem_of_find?_eq_some found)).symm,
      accepts⟩

/-- Something is taken exactly if anything fits. -/
theorem isSome_targetFor?_iff (declared : Option DeclaredType) :
    (targetFor? registry expansions declared runtime).isSome ↔
      ∃ target ∈ registry.targets ++ expansions.targets, target.accepts runtime := by
  constructor
  · intro taken
    obtain ⟨target, same⟩ := Option.isSome_iff_exists.mp taken
    exact ⟨target, mem_and_accepts_of_targetFor? same⟩
  · rintro ⟨target, member, accepts⟩
    have fits : (fitting? registry expansions runtime).isSome :=
      List.find?_isSome.mpr
        ⟨target, List.mem_append.mpr (List.mem_append.mp member).symm, accepts⟩
    rw [targetFor?_eq, Option.isSome_or, fits, Bool.or_true]

end Encode

/-! ### Objects that are refused -/

/-- Where a target accepts the object, a node is built unless the target cannot be extended or has a
method with parameters. -/
theorem Node.build_of_accepts {live : LiveObject} {target : Target} (expansions : Expansions)
    (accepts : target.accepts live.runtime) :
    Node.build live target expansions = (Node.checkExtendable target).bind fun _ =>
      target.accessors.map fun accessors =>
        ⟨live, target, accessors, expansions, .pending, none⟩ := by
  rw [Node.build]
  cases Node.checkExtendable target with
  | error report => simp only [bind, Except.bind]
  | ok _ =>
    simp only [bind, Except.bind, if_pos accepts]
    cases target.accessors <;> rfl

namespace Encode

variable {registry : Registry} {expansions : Expansions} {declared : Option DeclaredType}
  {live : LiveObject} {run : Run}

/-- An object that nothing fits is refused at once. -/
theorem value_of_unfit {expand : LiveObject → Target → Walk Code}
    (unknown : run.session.memo.find? live.identity = none)
    (unfit : ¬ ∃ target ∈ registry.targets ++ expansions.targets, target.accepts live.runtime) :
    value expand registry expansions declared (.object live) run =
      .error (.failed (noTargetReport live)) run := by
  have untaken : targetFor? registry expansions declared live.runtime = none := by
    rwa [← isSome_targetFor?_iff declared, Option.not_isSome_iff_eq_none] at unfit
  rw [value, Walk.bind_get, unknown, untaken]
  rfl

end Encode

namespace Heap

open Encode

/-- An object is written as a target exactly if any registered target accepts it. That is the
target of the declared type, looked up by its erased name, if this one accepts the object, else the
first target that does. It accepts the object, and a node of it is built unless it cannot be
extended or has a method with parameters. An object that is not known is refused for want of a
literal, without invoking any of its accessors, exactly if no registered target accepts it. -/
theorem encode_refuses_iff (heap : Heap) (fuel : Nat) (registry : Registry)
    (expansions : Expansions) (declared : Option DeclaredType) (live : LiveObject) :
    ((targetFor? registry expansions declared live.runtime).isSome ↔
      ∃ target ∈ registry.targets ++ expansions.targets, target.accepts live.runtime) ∧
    (∀ own, registration? registry expansions declared = some own → own.accepts live.runtime →
      targetFor? registry expansions declared live.runtime = some own) ∧
    ((∀ own, registration? registry expansions declared = some own →
        own.accepts live.runtime = false) →
      targetFor? registry expansions declared live.runtime =
        fitting? registry expansions live.runtime) ∧
    (∀ target, targetFor? registry expansions declared live.runtime = some target →
      target.accepts live.runtime ∧
      Node.build live target expansions = (Node.checkExtendable target).bind fun _ =>
        target.accessors.map fun accessors =>
          ⟨live, target, accessors, expansions, .pending, none⟩) ∧
    ∀ run : Run, run.session.memo.find? live.identity = none →
      ((∃ report after, value (expandObject (Node.attempt heap fuel) registry expansions) registry
          expansions declared (.object live) run = .error (.failed report) after ∧
        report.fault.isNotLiteral ∧
        Invocation.on live.identity (after.world.since run.world) = []) ↔
      ¬ ∃ target ∈ registry.targets ++ expansions.targets, target.accepts live.runtime) := by
  refine ⟨isSome_targetFor?_iff declared, fun own => targetFor?_of_accepts, targetFor?_of_rejects,
    fun target taken => ?_, fun run unknown => ⟨?_, fun unfit => ?_⟩⟩
  · have accepts := (mem_and_accepts_of_targetFor? taken).2
    exact ⟨accepts, Node.build_of_accepts expansions accepts⟩
  · rintro ⟨report, after, ended, refused, unasked⟩ fits
    obtain ⟨target, taken⟩ :=
      Option.isSome_iff_exists.mp ((isSome_targetFor?_iff declared).mpr fits)
    rw [value, Walk.bind_get, unknown, taken] at ended
    have calls := expandObject_calls unknown ended refused
    have asked := calls.on_since
    rw [Walk.last_error ended] at asked
    exact asked unasked
  · refine ⟨_, run, value_of_unfit unknown unfit, rfl, ?_⟩
    have nothing : run.world.since run.world = [] := World.since_of_history rfl
    rw [nothing]
    rfl

end Heap

namespace Wardrobe

/-! ### A coat under several types -/

def coat : Target :=
  .interface "a.Coat"

/-- Garments are registered farther out, and no coat is one. -/
def garment : Target :=
  .interface "a.Garment"

def woollen : Target :=
  .interface "a.Woollen"

def registry : Registry :=
  (Registry.root.withTargets [garment]).withTargets [coat]

def expansions : Expansions :=
  .ofList [woollen]

/-- A parka is a coat and woollen. -/
def parka : LiveObject :=
  ⟨.entry "parka", ⟨⟨"b.Parka"⟩, [⟨"a.Coat<T>"⟩, woollen.name]⟩, none⟩

/-- A stone is nothing else. -/
def stone : LiveObject :=
  ⟨.entry "stone", ⟨⟨"b.Stone"⟩, []⟩, none⟩

def heap : Heap :=
  Script.heap [⟨parka, []⟩, ⟨stone, []⟩]

/-- A parka that is declared as a coat is written as one; as a garment it is written as something
woollen, which is found first. The stone is refused. -/
theorem encode_refuses_iff_parka :
    Encode.registration? registry expansions (some (.named ⟨"a.Coat<T>"⟩ [])) = some coat ∧
    coat.accepts parka.runtime ∧
    Encode.targetFor? registry expansions (some (.named ⟨"a.Coat<T>"⟩ [])) parka.runtime =
      some coat ∧
    Node.build parka coat expansions = .ok ⟨parka, coat, [], expansions, .pending, none⟩ ∧
    (∀ own, Encode.registration? registry expansions (some garment.declaredType) = some own →
      own.accepts parka.runtime = false) ∧
    Encode.targetFor? registry expansions (some garment.declaredType) parka.runtime =
      some woollen ∧
    Session.empty.memo.find? stone.identity = none ∧
    ∃ report after, Encode.value (expandObject (Node.attempt heap 3) registry expansions) registry
        expansions none (.object stone) ⟨.initial, .empty⟩ = .error (.failed report) after ∧
      report.fault.isNotLiteral ∧
      Invocation.on stone.identity (after.world.since .initial) = [] := by
  obtain ⟨_, own, _, built, _⟩ := Heap.encode_refuses_iff heap 3 registry expansions
    (some (.named ⟨"a.Coat<T>"⟩ [])) parka
  obtain ⟨_, _, others, _, _⟩ := Heap.encode_refuses_iff heap 3 registry expansions
    (some garment.declaredType) parka
  obtain ⟨_, _, _, _, refused⟩ := Heap.encode_refuses_iff heap 3 registry expansions none stone
  have registered : Encode.registration? registry expansions (some (.named ⟨"a.Coat<T>"⟩ [])) =
      some coat := by
    decide
  have accepts : coat.accepts parka.runtime := by decide
  have rejects : ∀ own, Encode.registration? registry expansions (some garment.declaredType) =
      some own → own.accepts parka.runtime = false := by
    intro own found
    obtain rfl : garment = own := Option.some.inj found
    decide
  have taken := own coat registered accepts
  refine ⟨registered, accepts, taken, (built coat taken).2.trans ?_, rejects,
    (others rejects).trans (by decide), rfl, ?_⟩
  · decide +kernel
  · exact (refused ⟨.initial, .empty⟩ rfl).mpr (by decide)

end Wardrobe

end FrozenGraph
