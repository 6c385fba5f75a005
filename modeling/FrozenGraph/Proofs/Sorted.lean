/-
This file shows in which order the accessors of a target are overridden. They are its methods but
for the two that define equality, ascending by name; methods of one name stay in the order of their
declaration. Names are compared by their bytes, which is the same as comparing them character by
character. There is only one such order, so the order of declaration shows only where methods share
a name. A method with parameters cannot be overridden, and the first one that is declared is
reported.
-/

import FrozenGraph.Freeze.Accessors
import Mathlib.Data.String.Basic
import Mathlib.Data.List.Nodup

namespace FrozenGraph

/-! ### The order of names -/

namespace Text

/-- A text as bytes, in UTF-8. -/
def bytes (text : String) : List UInt8 :=
  text.toUTF8.data.toList

theorem bytes_eq_flatMap (text : String) :
    bytes text = text.toList.flatMap String.utf8EncodeChar := by
  rw [bytes, String.toUTF8_eq_toByteArray, ← String.utf8Encode_toList, List.utf8Encode,
    List.toList_data_toByteArray]

/-- The first byte in which two characters differ decides between them, whatever comes after. -/
theorem utf8EncodeChar_append_lt {first second : Char} (below : first < second)
    (rest others : List UInt8) :
    String.utf8EncodeChar first ++ rest < String.utf8EncodeChar second ++ others := by
  have below : first.val.toNat < second.val.toNat := below
  have bounded : second.val.toNat < 0x110000 := by
    rcases second.valid with small | ⟨_, large⟩
    · exact small.trans (by decide)
    · exact large
  unfold String.utf8EncodeChar
  generalize first.val.toNat = low at *
  generalize second.val.toNat = high at *
  -- Every byte but the first one holds six bits.
  have lows : low / 4096 = low / 64 / 64 ∧ low / 262144 = low / 64 / 64 / 64 := by omega
  have highs : high / 4096 = high / 64 / 64 ∧ high / 262144 = high / 64 / 64 / 64 := by omega
  dsimp only
  rw [lows.1, lows.2, highs.1, highs.2]
  split_ifs <;>
    simp only [List.cons_append, List.nil_append, List.cons_lt_cons_iff, UInt8.lt_iff_toNat_lt,
      ← UInt8.toNat_inj, UInt8.toNat_ofNat'] <;>
    simp (disch := omega) only [Nat.mod_eq_of_lt] <;>
    omega

theorem flatMap_utf8EncodeChar_lt {first second : List Char} (below : first < second) :
    first.flatMap String.utf8EncodeChar < second.flatMap String.utf8EncodeChar := by
  induction first generalizing second with
  | nil =>
    cases second with
    | nil => exact absurd below (lt_irrefl _)
    | cons character rest =>
      rw [List.flatMap_nil, List.flatMap_cons]
      cases encoded : String.utf8EncodeChar character with
      | nil => exact absurd encoded String.utf8EncodeChar_ne_nil
      | cons byte others => exact List.nil_lt_cons _ _
  | cons character rest inductionHypothesis =>
    cases second with
    | nil => exact absurd below (List.not_lt_nil _)
    | cons other others =>
      rw [List.flatMap_cons, List.flatMap_cons]
      rcases List.cons_lt_cons_iff.mp below with differ | ⟨rfl, later⟩
      · exact utf8EncodeChar_append_lt differ _ _
      · exact List.append_left_lt (inductionHypothesis later)

theorem bytes_lt_iff {first second : String} : bytes first < bytes second ↔ first < second := by
  have bytes_lt {first second : String} (below : first < second) :
      bytes first < bytes second := by
    rw [bytes_eq_flatMap, bytes_eq_flatMap]
    exact flatMap_utf8EncodeChar_lt (String.lt_iff_toList_lt.mp below)
  refine ⟨fun below => ?_, bytes_lt⟩
  rcases lt_trichotomy first second with ordered | rfl | reversed
  · exact ordered
  · exact absurd below (List.lt_irrefl _)
  · exact absurd below (List.lt_asymm (bytes_lt reversed))

/-- Texts are ordered by their bytes. -/
theorem bytes_le_iff {first second : String} : bytes first ≤ bytes second ↔ first ≤ second :=
  not_congr bytes_lt_iff

end Text

/-! ### Methods ascending by name -/

namespace Target

theorem sortByName_perm (methods : List Method) : (sortByName methods).Perm methods :=
  List.mergeSort_perm _ _

theorem byName_trans (first second third : Method)
    (here : decide (first.name ≤ second.name)) (there : decide (second.name ≤ third.name)) :
    decide (first.name ≤ third.name) :=
  decide_eq_true ((of_decide_eq_true here).trans (of_decide_eq_true there))

theorem byName_total (first second : Method) :
    decide (first.name ≤ second.name) || decide (second.name ≤ first.name) := by
  rw [Bool.or_eq_true, decide_eq_true_iff, decide_eq_true_iff]
  exact le_total first.name second.name

theorem pairwise_sortByName (methods : List Method) :
    (sortByName methods).Pairwise fun first second => first.name ≤ second.name :=
  (List.pairwise_mergeSort byName_trans byName_total methods).imp of_decide_eq_true

/-- Methods of one name keep their order. -/
theorem filter_sortByName (methods : List Method) (name : String) :
    (sortByName methods).filter (·.name = name) = methods.filter (·.name = name) := by
  have alike : (methods.filter (·.name = name)).Pairwise
      fun first second : Method => decide (first.name ≤ second.name) := by
    rw [List.pairwise_filter]
    refine List.pairwise_of_forall fun first second own other => ?_
    rw [of_decide_eq_true own, of_decide_eq_true other]
    exact decide_eq_true le_rfl
  have kept : (methods.filter (·.name = name)).Sublist (sortByName methods) :=
    List.sublist_mergeSort byName_trans byName_total alike List.filter_sublist
  have among := kept.filter (·.name = name)
  simp only [List.filter_filter, Bool.and_self] at among
  exact (among.eq_of_length ((sortByName_perm methods).filter _).length_eq.symm).symm

theorem mem_iff_of_filter_eq {first second : List Method}
    (same : ∀ name, first.filter (·.name = name) = second.filter (·.name = name))
    (method : Method) : method ∈ first ↔ method ∈ second := by
  have named (methods : List Method) :
      method ∈ methods ↔ method ∈ methods.filter (·.name = method.name) := by
    rw [List.mem_filter, decide_eq_true rfl, and_iff_left rfl]
  rw [named first, same, ← named]

theorem name_le_of_mem {first method : Method} {rest : List Method}
    (ascending : (first :: rest).Pairwise fun first second => first.name ≤ second.name)
    (member : method ∈ first :: rest) : first.name ≤ method.name := by
  rcases List.mem_cons.mp member with rfl | later
  · exact le_rfl
  · exact List.rel_of_pairwise_cons ascending later

/-- There is only one way to put methods in the order of their names, if those of one name have an
order already. -/
theorem eq_of_filter_eq {first second : List Method}
    (ascending : first.Pairwise fun first second => first.name ≤ second.name)
    (ascending' : second.Pairwise fun first second => first.name ≤ second.name)
    (same : ∀ name, first.filter (·.name = name) = second.filter (·.name = name)) :
    first = second := by
  induction first generalizing second with
  | nil =>
    exact (List.eq_nil_iff_forall_not_mem.mpr fun method member =>
      List.not_mem_nil ((mem_iff_of_filter_eq same method).mpr member)).symm
  | cons method rest inductionHypothesis =>
    have present := (mem_iff_of_filter_eq same method).mp List.mem_cons_self
    cases second with
    | nil => cases present
    | cons other others =>
      -- Either list begins with a least name, so both begin with the same name, and the first
      -- methods of that name are the same.
      have named : method.name = other.name :=
        le_antisymm
          (name_le_of_mem ascending ((mem_iff_of_filter_eq same other).mpr List.mem_cons_self))
          (name_le_of_mem ascending' present)
      have own := same method.name
      rw [List.filter_cons_of_pos (by simp), List.filter_cons_of_pos (by simpa using named.symm)]
        at own
      obtain ⟨rfl, tails⟩ := List.cons.inj own
      refine congrArg (method :: ·) ?_
      refine inductionHypothesis ascending.tail ascending'.tail fun name => ?_
      by_cases head : method.name = name
      · exact head ▸ tails
      · have kept := same name
        rwa [List.filter_cons_of_neg (by simpa using head),
          List.filter_cons_of_neg (by simpa using head)] at kept

end Target

/-! ### The accessors of a target -/

namespace Method

/-- Whether a method is not about equality. -/
def isOrdinary (method : Method) : Bool :=
  method.name != "equals" && method.name != "hashCode"

/-- Whether a method should be overridden and cannot be, because it has parameters. -/
def isRefused (method : Method) : Bool :=
  method.isOrdinary && !method.takesNothing

theorem isRefused_iff {method : Method} :
    method.isRefused ↔ method.isOrdinary ∧ method.parameters ≠ [] := by
  rw [isRefused, Bool.and_eq_true, Bool.not_eq_true', takesNothing, List.isEmpty_eq_false_iff]

theorem not_isRefused_iff {method : Method} :
    method.isRefused = false ↔ (method.isOrdinary → method.parameters = []) := by
  rw [← Bool.not_eq_true, isRefused_iff, not_and, not_not]

end Method

namespace Target

/-- The accessors of a target in the order in which they are overridden. -/
structure Resolves (target : Target) (accessors : List Method) : Prop where
  /-- They are the methods but for those that define equality, each as often as it is listed. -/
  perm : accessors.Perm (target.methods.filter Method.isOrdinary)
  /-- Their names ascend, byte by byte. -/
  ascending : accessors.Pairwise fun first second =>
    Text.bytes first.name ≤ Text.bytes second.name
  /-- Where they share a name, they stand as they are declared. -/
  stable : ∀ name, accessors.filter (·.name = name) =
    (target.methods.filter Method.isOrdinary).filter (·.name = name)

variable {target : Target}

theorem overridable_eq (target : Target) :
    target.overridable = target.methods.filter Method.isOrdinary := by
  refine List.filter_congr fun method _ => ?_
  rw [Method.definesEquality, Bool.not_or]
  rfl

theorem find?_overridable (target : Target) :
    target.overridable.find? (!·.takesNothing) = target.methods.find? Method.isRefused := by
  rw [overridable_eq, List.find?_filter]
  simp only [Bool.decide_and, Bool.decide_eq_true]
  rfl

/-- Only one list of accessors is in the order in which they are overridden. -/
theorem Resolves.unique {first second : List Method} (own : target.Resolves first)
    (other : target.Resolves second) : first = second :=
  eq_of_filter_eq (own.ascending.imp Text.bytes_le_iff.mp)
    (other.ascending.imp Text.bytes_le_iff.mp)
    fun name => (own.stable name).trans (other.stable name).symm

theorem resolves_sortByName (target : Target) :
    target.Resolves (sortByName target.overridable) where
  perm := target.overridable_eq ▸ sortByName_perm _
  ascending := (pairwise_sortByName _).imp Text.bytes_le_iff.mpr
  stable name := target.overridable_eq ▸ filter_sortByName _ name

/-- The accessors can be listed exactly if no ordinary method has parameters. -/
theorem accessors_ok_iff {accessors : List Method} :
    target.accessors = .ok accessors ↔
      (∀ method ∈ target.methods, method.isOrdinary → method.parameters = []) ∧
        target.Resolves accessors := by
  rw [Target.accessors, find?_overridable]
  simp only [← Method.not_isRefused_iff]
  cases found : target.methods.find? Method.isRefused with
  | some method =>
    refine ⟨nofun, fun ⟨plain, _⟩ => ?_⟩
    cases (plain method (List.mem_of_find?_eq_some found)).symm.trans (List.find?_some found)
  | none =>
    have plain := List.find?_eq_none.mp found
    simp only [Bool.not_eq_true] at plain
    have sorted := target.resolves_sortByName
    refine ⟨fun same => ⟨plain, ?_⟩, fun ⟨_, resolves⟩ => ?_⟩
    · cases same
      exact sorted
    · rw [resolves.unique sorted]

/-- Else the first ordinary method with parameters is reported. -/
theorem accessors_error_iff {report : Report} :
    target.accessors = .error report ↔
      ∃ before method after, target.methods = before ++ method :: after ∧
        (∀ earlier ∈ before, earlier.isOrdinary → earlier.parameters = []) ∧
        method.isOrdinary ∧ method.parameters ≠ [] ∧ report = target.parametersReport method := by
  rw [Target.accessors, find?_overridable]
  simp only [← Method.not_isRefused_iff]
  constructor
  · intro refused
    cases found : target.methods.find? Method.isRefused with
    | none =>
      rw [found] at refused
      cases refused
    | some method =>
      rw [found] at refused
      cases refused
      obtain ⟨itself, before, after, split, others⟩ := List.find?_eq_some_iff_append.mp found
      obtain ⟨ordinary, parameters⟩ := Method.isRefused_iff.mp itself
      exact ⟨before, method, after, split,
        fun earlier member => by simpa using others earlier member, ordinary, parameters, rfl⟩
  · rintro ⟨before, method, after, split, others, ordinary, parameters, rfl⟩
    have found : target.methods.find? Method.isRefused = some method :=
      List.find?_eq_some_iff_append.mpr ⟨Method.isRefused_iff.mpr ⟨ordinary, parameters⟩, before,
        after, split, fun earlier member => by rw [others earlier member]; rfl⟩
    rw [found]

/-! ### The order of declaration -/

/-- Two targets are the same but for the order in which methods of different names are declared. -/
structure Reordered (target target' : Target) : Prop where
  name : target'.name = target.name
  kind : target'.kind = target.kind
  methods : ∀ name, target'.methods.filter (·.name = name) = target.methods.filter (·.name = name)

namespace Reordered

variable {target' : Target}

theorem refl (target : Target) : target.Reordered target :=
  ⟨rfl, rfl, fun _ => rfl⟩

theorem symm (same : target.Reordered target') : target'.Reordered target :=
  ⟨same.name.symm, same.kind.symm, fun name => (same.methods name).symm⟩

/-- Where names are distinct, methods may be declared in any order. -/
theorem of_perm {methods methods' : List Method} (distinct : (methods.map Method.name).Nodup)
    (permuted : methods.Perm methods') (name : TypeName) (kind : TargetKind) :
    Reordered ⟨name, kind, methods⟩ ⟨name, kind, methods'⟩ := by
  refine ⟨rfl, rfl, fun wanted => ?_⟩
  have among : (methods.filter (·.name = wanted)).Perm (methods'.filter (·.name = wanted)) :=
    permuted.filter _
  have apart : ((methods.filter (·.name = wanted)).map Method.name).Nodup :=
    distinct.sublist (List.filter_sublist.map _)
  have own : ∀ method ∈ methods.filter (·.name = wanted), method.name = wanted :=
    fun method member => of_decide_eq_true (List.mem_filter.mp member).2
  show methods'.filter (·.name = wanted) = methods.filter (·.name = wanted)
  generalize methods.filter (·.name = wanted) = bearing at among apart own
  match bearing with
  | [] => exact among.nil_eq.symm
  | [method] => exact among.singleton_eq.symm
  | first :: second :: rest =>
    have same : first.name = second.name :=
      (own first List.mem_cons_self).trans
        (own second (List.mem_cons_of_mem _ List.mem_cons_self)).symm
    exact absurd (List.mem_map_of_mem List.mem_cons_self) (same ▸ (List.nodup_cons.mp apart).1)

/-- The same methods are declared, each as often. -/
theorem perm (same : target.Reordered target') : target'.methods.Perm target.methods := by
  refine List.perm_iff_count.mpr fun method => ?_
  have named (methods : List Method) :
      (methods.filter (·.name = method.name)).count method = methods.count method :=
    List.count_filter (decide_eq_true rfl)
  rw [← named target'.methods, same.methods, named]

/-- The accessors are overridden in the same order. -/
theorem accessors_ok (same : target.Reordered target') {accessors : List Method}
    (listed : target.accessors = .ok accessors) : target'.accessors = .ok accessors := by
  obtain ⟨plain, perm, ascending, stable⟩ := accessors_ok_iff.mp listed
  refine accessors_ok_iff.mpr ⟨fun method member => plain method (same.perm.mem_iff.mp member),
    perm.trans (same.perm.symm.filter _), ascending, fun name => ?_⟩
  rw [stable, List.filter_comm, ← same.methods, List.filter_comm]

/-- Either target has the same accessors, or neither can list them. -/
theorem toOption_accessors (same : target.Reordered target') :
    target'.accessors.toOption = target.accessors.toOption := by
  cases listed : target.accessors with
  | ok accessors => rw [same.accessors_ok listed]
  | error report =>
    cases listed' : target'.accessors with
    | ok accessors => cases listed.symm.trans (same.symm.accessors_ok listed')
    | error report' => rfl

end Reordered

end Target

end FrozenGraph
