/-
This file shows that the answer of a field fits what the field declares. Answer and declared type
are made by two recursions over the type of the field, which keep in step but for one thing: an
optional field declares the type of what it may hold, and answers `null` when it is empty. A named
type admits that. A primitive one does not, so the override of an optional number can return `null`
although it declares a primitive. This is the only way to break a declaration: a field whose
contents lack no primitive answers what its type admits, and a field that declares a primitive is
written as `null` exactly if it is optional and empty.
-/

import FrozenGraph.Proofs.Routed
import FrozenGraph.Proofs.Walked
import FrozenGraph.Sample.Everything
import Mathlib.Data.List.Forall2

namespace FrozenGraph

/-! ### What a declared type admits -/

/-- The primitive type that a scalar is a value of, if it is one. -/
def Scalar.primitive? : Scalar → Option Primitive
  | .bool _ => some .boolean
  | .byte _ => some .byte
  | .short _ => some .short
  | .int _ => some .int
  | .long _ => some .long
  | .float _ => some .float
  | .double _ => some .double
  | .char _ => some .char
  | .null | .string _ => none

/-- Whether a declared type admits a value. Names other than the standard ones are names of the
given records. With `gaps` there may be nothing where a primitive is declared. -/
inductive DeclaredType.Admits (records : List TypeName) (gaps : Bool) :
    DeclaredType → Value → Prop
  | primitive {kind : Primitive} {scalar : Scalar} (own : scalar.primitive? = some kind) :
    Admits records gaps (.primitive kind) (.scalar scalar)
  | gap (kind : Primitive) (allowed : gaps) : Admits records gaps (.primitive kind) .null
  | absent (name : TypeName) (arguments : List DeclaredType) :
    Admits records gaps (.named name arguments) .null
  | string (text : String) : Admits records gaps .string (.scalar (.string text))
  | list {element : DeclaredType} {items : List Value} (identity : Identity)
    (all : ∀ item ∈ items, Admits records gaps element item) :
    Admits records gaps (.listOf element) (.list identity items)
  | record {name : TypeName} {live : LiveObject} (known : name ∈ records)
    (assignable : live.runtime.isSubtypeOf name) :
    Admits records gaps (.named name []) (.object live)
  | anything (value : Value) : Admits records gaps .object value

/-- A list is admitted as a list if its items are admitted. -/
theorem DeclaredType.Admits.items {records : List TypeName} {gaps : Bool} {element : DeclaredType}
    {identity : Identity} {items : List Value}
    (admitted : (listOf element).Admits records gaps (.list identity items)) :
    ∀ item ∈ items, element.Admits records gaps item := by
  generalize same : listOf element = type at admitted
  cases admitted with
  | list _ all =>
    obtain rfl := (List.cons.inj (DeclaredType.named.inj same).2).1
    exact all
  | anything _ => cases (DeclaredType.named.inj same).2

/-- The items of a new list are those of its template, one by one. -/
theorem Template.forall₂_materializeAll (supply : Nat → Identity) (items : List Template)
    (allocated : Nat) :
    List.Forall₂ (fun template item => ∃ earlier, (template.materialize supply earlier).1 = item)
      items (materializeAll supply items allocated).1 := by
  induction items generalizing allocated with
  | nil => exact .nil
  | cons first rest inductionHypothesis =>
    exact .cons ⟨allocated, rfl⟩ (inductionHypothesis _)

namespace Record.FieldType

/-! ### Fields -/

/-- The records whose instances a field may hold. -/
def records : FieldType → List TypeName
  | .shared name => [name]
  | .optional content | .cell content => content.records
  | .sequence element => element.records
  | .primitive _ | .text | .any => []

/-- Whether the contents lack a value where a primitive is declared. -/
def lacks : (type : FieldType) → type.Contents → Bool
  | .optional content, none =>
    match content.declared with
    | .primitive _ => true
    | .void | .named .. => false
  | .optional content, some value => content.lacks value
  | .sequence element, values => values.any element.lacks
  | .cell content, value => content.lacks value
  | .primitive _, _ | .text, _ | .shared _, _ | .any, _ => false

theorem declared_ne_void (type : FieldType) : type.declared ≠ .void := by
  induction type with
  | optional content inductionHypothesis | cell content inductionHypothesis =>
    exact inductionHypothesis
  | primitive _ | text | sequence _ _ | shared _ | any => exact nofun

theorem primitive?_scalar (kind : Primitive) (contents : Scalars kind) :
    (scalar kind contents).primitive? = some kind := by
  cases kind <;> rfl

variable {supply : Nat → Identity} {gaps : Bool}

/-- Nothing is admitted where no primitive is declared. -/
theorem admits_null_iff (content : FieldType) (records : List TypeName) :
    content.declared.Admits records gaps .null ↔
      (lacks (.optional content) none → gaps) := by
  rw [lacks]
  cases declared : content.declared with
  | void => exact absurd declared content.declared_ne_void
  | primitive kind =>
    refine ⟨fun admitted => ?_, fun allowed => .gap kind (allowed rfl)⟩
    cases admitted with
    | primitive own => cases own
    | gap _ allowed => exact fun _ => allowed
  | named name arguments => exact ⟨fun _ => nofun, fun _ => .absent name arguments⟩

/-- The items that a sequence answers are the answers of its elements, one by one. -/
theorem forall₂_items (supply : Nat → Identity) (element : FieldType)
    (values : List element.Contents) (allocated : Nat) :
    List.Forall₂
      (fun held item => ∃ earlier, ((element.answer held).materialize supply earlier).1 = item)
      values (Template.materializeAll supply (values.map element.answer) allocated).1 :=
  List.forall₂_map_left_iff.mp (Template.forall₂_materializeAll supply _ allocated)

/-- What a field answers is admitted by the type that it declares, unless it lacks a primitive. -/
theorem admits_answer_iff (type : FieldType) (contents : type.Contents) (allocated : Nat) :
    type.declared.Admits type.records gaps
        ((type.answer contents).materialize supply allocated).1 ↔
      (type.lacks contents → gaps) := by
  induction type generalizing allocated with
  | primitive kind => exact ⟨fun _ => nofun, fun _ => .primitive (primitive?_scalar kind contents)⟩
  | text => exact ⟨fun _ => nofun, fun _ => .string contents⟩
  | any => exact ⟨fun _ => nofun, fun _ => .anything contents⟩
  | shared name =>
    obtain ⟨live, same⟩ := contents
    refine ⟨fun _ => nofun, fun _ => .record List.mem_cons_self ?_⟩
    rw [RuntimeType.isSubtypeOf, same, beq_self_eq_true, Bool.true_or]
  | cell content inductionHypothesis => exact inductionHypothesis contents allocated
  | optional content inductionHypothesis =>
    cases contents with
    | none => exact content.admits_null_iff content.records
    | some value => exact inductionHypothesis value allocated
  | sequence element inductionHypothesis =>
    -- Each item is an answer of the element's type, whatever lists came into being before it.
    have items : (∀ item ∈ (Template.materializeAll supply (contents.map element.answer)
          allocated).1, element.declared.Admits element.records gaps item) ↔
        (contents.any element.lacks → gaps) := by
      have answered := forall₂_items supply element contents allocated
      generalize (Template.materializeAll supply _ allocated).1 = answers at answered ⊢
      induction answered with
      | nil => exact ⟨fun _ => nofun, fun _ => nofun⟩
      | @cons held _ _ _ made _ others =>
        obtain ⟨earlier, rfl⟩ := made
        rw [List.forall_mem_cons, inductionHypothesis held earlier, List.any_cons,
          Bool.or_eq_true, or_imp]
        exact and_congr_right' others
    exact ⟨fun admitted => items.mp admitted.items, fun allowed => .list _ (items.mpr allowed)⟩

/-- A field that declares a primitive answers a value of that primitive, or nothing. -/
theorem exists_scalar_of_declared {type : FieldType} {kind : Primitive}
    (declared : type.declared = .primitive kind) (contents : type.Contents) (allocated : Nat) :
    ∃ scalar, ((type.answer contents).materialize supply allocated).1 = .scalar scalar ∧
      if type.lacks contents then scalar = .null else scalar.primitive? = some kind := by
  have admitted_iff (gaps : Bool) : type.declared.Admits type.records gaps
        ((type.answer contents).materialize supply allocated).1 ↔
      (type.lacks contents → gaps) :=
    type.admits_answer_iff contents allocated
  rw [declared] at admitted_iff
  generalize ((type.answer contents).materialize supply allocated).1 = value at admitted_iff
  cases lacking : type.lacks contents with
  | false =>
    have admitted := (admitted_iff false).mpr fun lacks => absurd (lacking.symm.trans lacks) nofun
    cases admitted with
    | primitive own => exact ⟨_, rfl, own⟩
    | gap _ allowed => cases allowed
  | true =>
    have admitted := (admitted_iff true).mpr fun _ => rfl
    cases admitted with
    | primitive own => cases (admitted_iff false).mp (.primitive own) lacking
    | gap => exact ⟨.null, rfl, rfl⟩

end Record.FieldType

/-- Where a primitive is declared, a scalar is written as its literal. -/
theorem Node.express_of_primitive (attempt : Attempt) (node : Node) (registry inner : Registry)
    (kind : Primitive) (scalar : Scalar) (run : Run) :
    node.express attempt registry inner (.primitive kind) (.scalar scalar) run =
      .ok (.literal scalar) run := by
  cases scalar <;> rfl

namespace Record.FieldType

/-- What a field answers fits the type that it declares, but for primitives that optional fields
leave out: with these allowed it is always admitted, and without them it is admitted exactly if none
is left out. The items of a list are answers of its elements, so this can be said of each of them.
Where a primitive is declared, the override returns a literal of that primitive, and `null` exactly
if the field is optional and empty. -/
theorem answer_fits (type : FieldType) (contents : type.Contents) (supply : Nat → Identity)
    (allocated : Nat) :
    type.declared.Admits type.records true
      ((type.answer contents).materialize supply allocated).1 ∧
    (type.declared.Admits type.records false
        ((type.answer contents).materialize supply allocated).1 ↔
      type.lacks contents = false) ∧
    (∀ (element : FieldType) (values : List element.Contents), ∃ identity items,
      (((FieldType.sequence element).answer values).materialize supply allocated).1 =
        .list identity items ∧
      List.Forall₂
        (fun held item => ∃ earlier, ((element.answer held).materialize supply earlier).1 = item)
        values items) ∧
    ∀ kind, type.declared = .primitive kind → ∃ scalar,
      (if type.lacks contents then scalar = .null else scalar.primitive? = some kind) ∧
      ∀ (attempt : Attempt) (node : Node) (registry inner : Registry) (run : Run),
        node.express attempt registry inner type.declared
          ((type.answer contents).materialize supply allocated).1 run =
            .ok (.literal scalar) run := by
  refine ⟨(type.admits_answer_iff contents allocated).mpr fun _ => rfl, ?_,
    fun element values => ⟨_, _, rfl, forall₂_items supply element values allocated⟩,
    fun kind declared => ?_⟩
  · rw [type.admits_answer_iff contents allocated, Bool.false_eq_true, imp_false, Bool.not_eq_true]
  · obtain ⟨scalar, answered, kept⟩ := exists_scalar_of_declared declared contents allocated
    refine ⟨scalar, kept, fun attempt node registry inner run => ?_⟩
    rw [declared, answered]
    exact node.express_of_primitive attempt registry inner kind scalar run

end Record.FieldType

namespace Everything

open Record

/-- The field that may hold a number. -/
def maybe : FieldType :=
  .optional (.primitive .long)

/-- With a number the field answers it; without one it answers `null`, and declares a number all the
same. -/
theorem answer_fits_maybe :
    (maybe.declared = .primitive .long ∧ maybe.lacks (some 9) = false ∧
      maybe.declared.Admits maybe.records false
        ((maybe.answer (some 9)).materialize .fresh 0).1) ∧
    maybe.lacks none = true ∧ ∃ scalar, scalar = .null ∧
      Node.express (Node.attempt ⟨[], fun _ _ _ => .ok (maybe.answer none), .fresh⟩ 1)
        ⟨(leaf (.entry "leaf") 3).face, leafTarget, [], .none, .pending, none⟩ .root .root
        maybe.declared ((maybe.answer none).materialize .fresh 0).1 ⟨.initial, .empty⟩ =
          .ok (.literal scalar) ⟨.initial, .empty⟩ := by
  obtain ⟨_, strictly, _⟩ := FieldType.answer_fits maybe (some 9) .fresh 0
  obtain ⟨_, _, _, written⟩ := FieldType.answer_fits maybe none .fresh 0
  obtain ⟨scalar, missing, expressed⟩ := written .long rfl
  exact ⟨⟨rfl, rfl, strictly.mpr rfl⟩, rfl, scalar, missing, expressed _ _ _ _ _⟩

/-- Not every answer fits: an empty field declares a number. -/
theorem not_answer_fits :
    ¬ ∀ (type : FieldType) (contents : type.Contents) (supply : Nat → Identity) (allocated : Nat),
      type.declared.Admits type.records false
        ((type.answer contents).materialize supply allocated).1 := by
  intro fits
  have admitted : DeclaredType.Admits [] false (.primitive .long) .null := fits maybe none .fresh 0
  cases admitted with
  | primitive own => cases own
  | gap _ allowed => cases allowed

end Everything

end FrozenGraph
