/-
This file shows that what is derived from a record agrees with the record as it is written. The
accessors that its type lists and the accessors that its instances answer are made of the same
marked fields, so there is one of each for every marked field, and the one that is asked for is the
one that answers. What makes this so is that no name is used twice: a record is refused if two of
its fields would go by one name, and, as long as its attributes can be read, for nothing else but a
type without a name. An instance that is written as its own type therefore has an answer to
whatever it is asked.
-/

import FrozenGraph.Proofs.Answered
import FrozenGraph.Proofs.Fitted
import FrozenGraph.Sample.Everything

namespace FrozenGraph

/-- Two steps succeed if the first one does and the second one does with its answer. -/
theorem Except.bind_eq_ok_iff {ε α β : Type} {first : Except ε α} {next : α → Except ε β}
    {answer : β} :
    (first >>= next) = .ok answer ↔ ∃ between, first = .ok between ∧ next between = .ok answer := by
  cases first with
  | error report => exact ⟨nofun, fun ⟨_, impossible, _⟩ => nomatch impossible⟩
  | ok between =>
    exact ⟨fun ended => ⟨between, rfl, ended⟩, fun ⟨_, same, ended⟩ => Except.ok.inj same ▸ ended⟩

namespace Record

/-! ### What is written -/

namespace Item

/-- The text that an item gives a key. -/
def text? (key : String) : Item → Option String
  | .text own value => if Token.ofText own = key then some value else none
  | .word _ | .texts .. => none

/-- The texts that an item lists under a key. -/
def listing (key : String) : Item → List String
  | .texts own values => if Token.ofText own = key then values else []
  | .word _ | .text .. => []

/-- The kind of type that an item asks for. -/
def kind? : Item → Option Kind
  | .word own =>
    if Token.ofText own = "final_class" then some .final
    else if Token.ofText own = "interface" then some .interface
    else none
  | .text .. | .texts .. => none

/-- Whether an item is one of a record: its name, its supertypes, or its kind. -/
def IsOfRecord : Item → Prop
  | .text own _ => Token.ofText own = "type_name"
  | .texts own _ => Token.ofText own = "implements"
  | .word own => Token.ofText own = "final_class" ∨ Token.ofText own = "interface"

/-- Whether an item is one of a field: the name of its accessor, or the type that is declared. -/
def IsOfField : Item → Prop
  | .text own _ => Token.ofText own = "name" ∨ Token.ofText own = "returns"
  | .word _ | .texts .. => False

instance : DecidablePred IsOfRecord
  | .text own _ => inferInstanceAs (Decidable (Token.ofText own = "type_name"))
  | .texts own _ => inferInstanceAs (Decidable (Token.ofText own = "implements"))
  | .word own =>
    inferInstanceAs (Decidable (Token.ofText own = "final_class" ∨ Token.ofText own = "interface"))

instance : DecidablePred IsOfField
  | .text own _ =>
    inferInstanceAs (Decidable (Token.ofText own = "name" ∨ Token.ofText own = "returns"))
  | .word _ | .texts .. => inferInstanceAs (Decidable False)

/-- What the last one gives of the items that give something. -/
def latest? {α : Type} (given : Item → Option α) (items : List Item) : Option α :=
  (items.filterMap given).getLast?

theorem latest?_cons {α : Type} (given : Item → Option α) (item : Item) (rest : List Item) :
    latest? given (item :: rest) = (latest? given rest).or (given item) := by
  rw [latest?, latest?, List.filterMap_cons]
  cases given item with
  | none => exact (Option.or_none).symm
  | some value =>
    rw [List.getLast?_cons]
    cases (rest.filterMap given).getLast? <;> rfl

end Item

/-- The items of an attribute. -/
def Attribute.written : Attribute → List Item
  | .items all => all
  | .absent | .bare => []

namespace Field

/-- Whether a field becomes an accessor. -/
def isMarked (field : Field) : Bool :=
  field.mark ≠ .absent

/-- The name of a field's accessor: the one that its attribute gives, else the one made for it. -/
def accessorName (field : Field) : String :=
  (Item.latest? (Item.text? "name") field.mark.written).getD (defaultName field)

/-- The accessor that a marked field becomes. -/
def accessor (field : Field) : Accessor :=
  ⟨field.identifier, field.accessorName,
    Item.latest? (Item.text? "returns") field.mark.written⟩

/-- The declared type of a field's accessor. -/
def declaredType (types : String → DeclaredType) (field : Field) : DeclaredType :=
  match Item.latest? (Item.text? "returns") field.mark.written with
  | some name => .plain name
  | none => types field.identifier

end Field

namespace Description

/-- The fields that become accessors. -/
def marked (description : Description) : List Field :=
  description.fields.filter Field.isMarked

/-- The names of the accessors, field by field. -/
def accessorNames (description : Description) : List String :=
  description.marked.map Field.accessorName

/-- The name that the attribute gives the type. -/
def typeName? (description : Description) : Option String :=
  Item.latest? (Item.text? "type_name") description.mark.written

/-- The supertypes that the attribute lists. -/
def implements (description : Description) : List String :=
  description.mark.written.flatMap (Item.listing "implements")

/-- The kind of type that the attribute asks for. -/
def kind (description : Description) : Kind :=
  (Item.latest? Item.kind? description.mark.written).getD .extendable

/-- Whether all attributes can be read: that of the record does not stand without parentheses, and
no item is out of place. -/
structure IsReadable (description : Description) : Prop where
  own : description.mark ≠ .bare
  items : ∀ item ∈ description.mark.written, item.IsOfRecord
  fields : ∀ field ∈ description.fields, ∀ item ∈ field.mark.written, item.IsOfField

instance (description : Description) : Decidable description.IsReadable :=
  decidable_of_iff
    (description.mark ≠ .bare ∧ (∀ item ∈ description.mark.written, item.IsOfRecord) ∧
      ∀ field ∈ description.fields, ∀ item ∈ field.mark.written, item.IsOfField)
    ⟨fun ⟨own, items, fields⟩ => ⟨own, items, fields⟩,
      fun readable => ⟨readable.own, readable.items, readable.fields⟩⟩

end Description

/-! ### Reading -/

namespace RecordItems

/-- What was read once an item is read as well. -/
def including (items : RecordItems) (item : Item) : RecordItems :=
  ⟨(item.text? "type_name").or items.typeName, items.implements ++ item.listing "implements",
    item.kind?.getD items.kind⟩

/-- Exactly the items of a record are read. -/
theorem read_ok_iff {items next : RecordItems} {isLast : Bool} {item : Item} :
    items.read isLast item = .ok next ↔ item.IsOfRecord ∧ next = items.including item := by
  rw [read, including]
  split_ifs with name supertypes final interface
  all_goals
    cases item <;>
      simp_all [Item.key, Item.IsOfRecord, Item.text?, Item.listing, Item.kind?, Item.value,
        Item.values, Item.flag, bind, Except.bind, pure, Except.pure, @eq_comm _ next]

/-- Exactly the items of a record are read, one after the other. -/
theorem readAll_ok_iff {items all : RecordItems} {written : List Item} :
    items.readAll written = .ok all ↔
      (∀ item ∈ written, item.IsOfRecord) ∧ all = written.foldl including items := by
  induction written generalizing items with
  | nil => simp [readAll, eq_comm]
  | cons item rest inductionHypothesis =>
    rw [readAll, Except.bind_eq_ok_iff, List.forall_mem_cons, List.foldl_cons]
    simp only [read_ok_iff, inductionHypothesis]
    constructor
    · rintro ⟨_, ⟨fits, rfl⟩, others, same⟩
      exact ⟨⟨fits, others⟩, same⟩
    · rintro ⟨⟨fits, others⟩, same⟩
      exact ⟨_, ⟨fits, rfl⟩, others, same⟩

/-- Of the items read the last ones count, and the supertypes add up. -/
theorem foldl_including (items : RecordItems) (written : List Item) :
    written.foldl including items =
      ⟨(Item.latest? (Item.text? "type_name") written).or items.typeName,
        items.implements ++ written.flatMap (Item.listing "implements"),
        (Item.latest? Item.kind? written).getD items.kind⟩ := by
  induction written generalizing items with
  | nil => simp [Item.latest?]
  | cons item rest inductionHypothesis =>
    rw [List.foldl_cons, inductionHypothesis, Item.latest?_cons, Item.latest?_cons, including,
      List.flatMap_cons, List.append_assoc, Option.or_assoc, Option.getD_or]

end RecordItems

namespace FieldOptions

/-- What was read once an item is read as well. -/
def including (options : FieldOptions) (item : Item) : FieldOptions :=
  ⟨(item.text? "name").or options.name, (item.text? "returns").or options.returns⟩

/-- Exactly the items of a field are read. -/
theorem read_ok_iff {options next : FieldOptions} {item : Item} :
    options.read item = .ok next ↔ item.IsOfField ∧ next = options.including item := by
  rw [read, including]
  split_ifs with name returns
  all_goals
    cases item <;>
      simp_all [Item.key, Item.IsOfField, Item.text?, Item.value, bind, Except.bind, pure,
        Except.pure, @eq_comm _ next]

/-- Exactly the items of a field are read, one after the other, and the last ones count. -/
theorem foldlM_read_ok_iff {options all : FieldOptions} {written : List Item} :
    written.foldlM read options = .ok all ↔
      (∀ item ∈ written, item.IsOfField) ∧
        all = ⟨(Item.latest? (Item.text? "name") written).or options.name,
          (Item.latest? (Item.text? "returns") written).or options.returns⟩ := by
  induction written generalizing options with
  | nil => simp [Item.latest?, pure, Except.pure, eq_comm]
  | cons item rest inductionHypothesis =>
    rw [List.foldlM_cons, Except.bind_eq_ok_iff, List.forall_mem_cons, Item.latest?_cons,
      Item.latest?_cons, Option.or_assoc, Option.or_assoc]
    simp only [read_ok_iff, inductionHypothesis]
    constructor
    · rintro ⟨_, ⟨fits, rfl⟩, others, same⟩
      exact ⟨⟨fits, others⟩, same⟩
    · rintro ⟨⟨fits, others⟩, same⟩
      exact ⟨_, ⟨fits, rfl⟩, others, same⟩

end FieldOptions

/-! ### Accessors -/

namespace Derivation

variable {field : Field} {fields : List Field}

/-- A field whose attribute can be read becomes its accessor, if it is marked. -/
theorem accessorOf_ok_iff {accessor : Option Accessor} :
    accessorOf field = .ok accessor ↔
      (∀ item ∈ field.mark.written, item.IsOfField) ∧
        accessor = if field.isMarked then some field.accessor else none := by
  rw [accessorOf, Except.bind_eq_ok_iff, Field.isMarked, Field.accessor, Field.accessorName]
  cases field.mark with
  | absent => simp [FieldOptions.ofWritten, Attribute.written, pure, Except.pure, eq_comm]
  | bare =>
    simp [FieldOptions.ofWritten, Attribute.written, Item.latest?, pure, Except.pure, eq_comm]
  | items written =>
    simp only [FieldOptions.ofWritten, Except.bind_eq_ok_iff, FieldOptions.foldlM_read_ok_iff,
      Attribute.written, Option.or_none]
    constructor
    · rintro ⟨_, ⟨_, ⟨fits, rfl⟩, read⟩, made⟩
      cases read
      cases made
      exact ⟨fits, rfl⟩
    · rintro ⟨fits, rfl⟩
      exact ⟨_, ⟨_, ⟨fits, rfl⟩, rfl⟩, rfl⟩

/-- One more name is different from the others exactly if none of them is found to be it. -/
theorem nodup_concat_iff {earlier : List Accessor} {accessor : Accessor}
    (distinct : (earlier.map Accessor.name).Nodup) :
    ((earlier ++ [accessor]).map Accessor.name).Nodup ↔
      earlier.any (·.name == accessor.name) = false := by
  rw [List.map_append, List.nodup_append, List.any_eq_false]
  simp [distinct]

/-- The marked fields become accessors in their order, unless two would go by one name. -/
theorem accessorsOf_ok_iff {earlier accessors : List Accessor}
    (distinct : (earlier.map Accessor.name).Nodup) :
    accessorsOf earlier fields = .ok accessors ↔
      (∀ field ∈ fields, ∀ item ∈ field.mark.written, item.IsOfField) ∧
        (accessors.map Accessor.name).Nodup ∧
        accessors = earlier ++ (fields.filter Field.isMarked).map Field.accessor := by
  induction fields generalizing earlier with
  | nil =>
    simp only [accessorsOf, List.filter_nil, List.map_nil, List.append_nil, Except.ok.injEq]
    exact ⟨fun same => ⟨nofun, same ▸ distinct, same.symm⟩, fun ⟨_, _, same⟩ => same.symm⟩
  | cons field rest inductionHypothesis =>
    rw [accessorsOf, Except.bind_eq_ok_iff, List.forall_mem_cons]
    simp only [accessorOf_ok_iff]
    cases marked : field.isMarked with
    | false =>
      rw [List.filter_cons_of_neg (by rw [marked]; exact Bool.false_ne_true)]
      have others := inductionHypothesis distinct
      constructor
      · rintro ⟨_, ⟨fits, rfl⟩, ended⟩
        obtain ⟨fitting, apart, same⟩ := others.mp ended
        exact ⟨⟨fits, fitting⟩, apart, same⟩
      · rintro ⟨⟨fits, fitting⟩, apart, same⟩
        exact ⟨_, ⟨fits, rfl⟩, others.mpr ⟨fitting, apart, same⟩⟩
    | true =>
      rw [List.filter_cons_of_pos marked, List.map_cons, List.append_cons]
      cases taken : earlier.any (·.name == field.accessor.name) with
      | true =>
        -- The name would be used twice.
        constructor
        · rintro ⟨_, ⟨_, rfl⟩, ended⟩
          simp only [if_true, if_pos taken] at ended
          cases ended
        · rintro ⟨_, apart, rfl⟩
          rw [List.map_append] at apart
          have free := (nodup_concat_iff distinct).mp (List.nodup_append.mp apart).1
          cases taken.symm.trans free
      | false =>
        have others := inductionHypothesis ((nodup_concat_iff distinct).mpr taken)
        have skipped : ¬ earlier.any (·.name == field.accessor.name) := by
          rw [taken]
          exact Bool.false_ne_true
        constructor
        · rintro ⟨_, ⟨fits, rfl⟩, ended⟩
          simp only [if_true, if_neg skipped] at ended
          obtain ⟨fitting, apart, same⟩ := others.mp ended
          exact ⟨⟨fits, fitting⟩, apart, same⟩
        · rintro ⟨⟨fits, fitting⟩, apart, same⟩
          refine ⟨_, ⟨fits, rfl⟩, ?_⟩
          simp only [if_true, if_neg skipped]
          exact others.mpr ⟨fitting, apart, same⟩

end Derivation

/-- Exactly the attributes that can be read and name the type are read. -/
theorem RecordOptions.ofWritten_ok_iff {mark : Attribute} {options : RecordOptions} :
    ofWritten mark = .ok options ↔
      mark ≠ .bare ∧ (∀ item ∈ mark.written, item.IsOfRecord) ∧
        Item.latest? (Item.text? "type_name") mark.written = some options.typeName ∧
        options.implements = mark.written.flatMap (Item.listing "implements") ∧
        options.kind = (Item.latest? Item.kind? mark.written).getD .extendable := by
  cases mark with
  | absent => exact ⟨nofun, fun ⟨_, _, named, _⟩ => nomatch named⟩
  | bare => exact ⟨nofun, fun ⟨parenthesised, _⟩ => absurd rfl parenthesised⟩
  | items written =>
    rw [ofWritten, Except.bind_eq_ok_iff]
    simp only [RecordItems.readAll_ok_iff, RecordItems.foldl_including, RecordItems.none,
      Option.or_none, List.nil_append, Attribute.written]
    constructor
    · rintro ⟨_, ⟨fits, rfl⟩, read⟩
      split at read
      · rename_i named
        cases read
        exact ⟨nofun, fits, named, rfl, rfl⟩
      · cases read
    · rintro ⟨_, fits, named, supertypes, kind⟩
      refine ⟨_, ⟨fits, rfl⟩, ?_⟩
      rw [← supertypes, ← kind]
      dsimp only
      rw [named]
      rfl

namespace Description

variable {description : Description} {derivation : Derivation}

theorem names_accessors (description : Description) :
    (description.marked.map Field.accessor).map Accessor.name = description.accessorNames :=
  List.map_map

/-- A record is accepted exactly if it has named fields, its attributes can be read and name its
type, and its accessors have different names. -/
theorem ofDescription_ok_iff :
    Derivation.ofDescription description = .ok derivation ↔
      description.shape = .namedFields ∧ description.IsReadable ∧
        description.typeName? = some derivation.options.typeName ∧
        description.accessorNames.Nodup ∧
        derivation.options.implements = description.implements ∧
        derivation.options.kind = description.kind ∧
        derivation.accessors = description.marked.map Field.accessor := by
  rw [Derivation.ofDescription]
  cases description.shape with
  | alternatives | overlay | positionalFields | noFields => exact ⟨nofun, nofun⟩
  | namedFields =>
    have listed (accessors : List Accessor) :=
      @Derivation.accessorsOf_ok_iff description.fields [] accessors List.nodup_nil
    simp only [Except.bind_eq_ok_iff, RecordOptions.ofWritten_ok_iff, listed, List.nil_append]
    constructor
    · rintro ⟨options, ⟨own, items, named, supertypes, kind⟩, accessors,
        ⟨fields, distinct, rfl⟩, made⟩
      cases made
      have distinct := description.names_accessors ▸ distinct
      exact ⟨trivial, ⟨own, items, fields⟩, named, distinct, supertypes, kind, rfl⟩
    · rintro ⟨_, readable, named, distinct, supertypes, kind, accessors⟩
      have distinct := description.names_accessors.symm ▸ distinct
      refine ⟨derivation.options, ⟨readable.own, readable.items, named, supertypes, kind⟩,
        _, ⟨readable.fields, distinct, rfl⟩, ?_⟩
      rw [← accessors]
      rfl

/-- A readable record with named fields is refused for want of a name, or for two equal ones. -/
theorem ofDescription_error_iff (shape : description.shape = .namedFields)
    (readable : description.IsReadable) :
    (∃ complaint, Derivation.ofDescription description = .error complaint) ↔
      description.typeName? = none ∨ ¬ description.accessorNames.Nodup := by
  constructor
  · rintro ⟨complaint, refused⟩
    by_contra! fine
    obtain ⟨named, distinct⟩ := fine
    obtain ⟨typeName, given⟩ := Option.ne_none_iff_exists'.mp named
    have accepted : Derivation.ofDescription description =
        .ok ⟨⟨typeName, description.implements, description.kind⟩,
          description.marked.map Field.accessor⟩ :=
      ofDescription_ok_iff.mpr ⟨shape, readable, given, distinct, rfl, rfl, rfl⟩
    cases refused.symm.trans accepted
  · intro lacking
    cases derived : Derivation.ofDescription description with
    | error complaint => exact ⟨complaint, rfl⟩
    | ok derivation =>
      obtain ⟨_, _, given, distinct, _⟩ := ofDescription_ok_iff.mp derived
      rcases lacking with unnamed | repeated
      · cases given.symm.trans unnamed
      · exact absurd distinct repeated

end Description

/-! ### What is derived -/

/-- What a target is for those who snapshot objects of the type. -/
def Kind.target : Kind → TargetKind
  | .extendable => .ofClass false true
  | .final => .ofClass true true
  | .interface => .interface

/-- What is derived from a record agrees with the record as it is written. -/
structure Description.Derives (description : Description) (derivation : Derivation) : Prop where
  /-- The name that the attribute gives is that of the type. -/
  named : description.typeName? = some derivation.options.typeName
  /-- No accessor has the name of another one. -/
  distinct : description.accessorNames.Nodup
  /-- The type lists one accessor without parameters for each marked field, in order. -/
  target_eq : ∀ types, derivation.target types =
    ⟨derivation.typeName, description.kind.target, description.marked.map fun field =>
      ⟨field.accessorName, [], field.declaredType types, derivation.typeName⟩⟩
  /-- Each of them answers the contents of that very field. -/
  answer_own : ∀ contents, ∀ field ∈ description.marked,
    derivation.answer contents field.accessorName = .ok (contents field.identifier)
  /-- No other one answers anything. -/
  answer_other : ∀ contents name, name ∉ description.accessorNames →
    derivation.answer contents name = .error (.unknown derivation.typeName name)
  /-- The supertypes of an instance are those that the attribute lists. -/
  runtime_eq : derivation.runtime =
    ⟨derivation.typeName, description.implements.map TypeName.mk⟩
  /-- An instance can be written as the type. -/
  accepts : ∀ types, (derivation.target types).accepts derivation.runtime

namespace Derivation

variable {derivation : Derivation}

theorem foldl_accessor (target : Target) (types : String → DeclaredType)
    (accessors : List Accessor) :
    accessors.foldl (fun target accessor =>
        target.accessor accessor.name (declaredType types accessor)) target =
      ⟨target.name, target.kind, target.methods ++ accessors.map fun accessor =>
        ⟨accessor.name, [], declaredType types accessor, target.name⟩⟩ := by
  induction accessors generalizing target with
  | nil => rw [List.foldl_nil, List.map_nil, List.append_nil]
  | cons accessor rest inductionHypothesis =>
    rw [List.foldl_cons, inductionHypothesis, List.map_cons, List.append_cons]
    rfl

theorem target_eq (derivation : Derivation) (types : String → DeclaredType) :
    derivation.target types =
      ⟨derivation.typeName, derivation.options.kind.target, derivation.accessors.map fun accessor =>
        ⟨accessor.name, [], declaredType types accessor, derivation.typeName⟩⟩ := by
  rw [target, foldl_accessor, emptyTarget]
  cases derivation.options.kind <;> rfl

end Derivation

namespace Description

variable {description : Description} {derivation : Derivation}

/-- A name leads to the only field whose accessor has it. -/
theorem find?_accessors (distinct : description.accessorNames.Nodup) {field : Field}
    (member : field ∈ description.marked) :
    (description.marked.map Field.accessor).find? (·.name == field.accessorName) =
      some field.accessor := by
  let bears (other : Field) : Bool := other.accessorName == field.accessorName
  have named : (description.marked.find? bears).isSome :=
    List.find?_isSome.mpr ⟨field, member, beq_self_eq_true _⟩
  obtain ⟨found, same⟩ := Option.isSome_iff_exists.mp named
  have bearing : bears found := List.find?_some same
  have own : found = field :=
    List.inj_on_of_nodup_map distinct (List.mem_of_find?_eq_some same) member
      (beq_iff_eq.mp bearing)
  rw [List.find?_map]
  exact congrArg (Option.map Field.accessor) (own ▸ same)

theorem find?_accessors_eq_none {name : String} (other : name ∉ description.accessorNames) :
    (description.marked.map Field.accessor).find? (·.name == name) = none := by
  rw [List.find?_eq_none]
  intro accessor member same
  obtain ⟨field, marked, rfl⟩ := List.mem_map.mp member
  exact other (beq_iff_eq.mp same ▸ List.mem_map_of_mem marked)

/-- What is derived from a record that is accepted agrees with it. -/
theorem derives_of_ok (derived : Derivation.ofDescription description = .ok derivation) :
    description.Derives derivation := by
  obtain ⟨_, _, named, distinct, supertypes, kind, accessors⟩ := ofDescription_ok_iff.mp derived
  refine ⟨named, distinct, fun types => ?_, fun contents field member => ?_,
    fun contents name other => ?_, ?_, fun types => ?_⟩
  · rw [Derivation.target_eq, accessors, kind, List.map_map]
    rfl
  · rw [Derivation.answer, accessors, find?_accessors distinct member]
    rfl
  · rw [Derivation.answer, accessors, find?_accessors_eq_none other]
  · rw [Derivation.runtime, supertypes]
  · rw [Derivation.target_eq, Target.accepts, RuntimeType.isSubtypeOf]
    exact Bool.or_eq_true_iff.mpr (.inl (beq_self_eq_true _))

end Description

end Record

/-! ### Objects of a record -/

/-- An object of a heap answers what its record holds. -/
def Heap.Hosts (heap : Heap) (record : Record.Instance) : Prop :=
  ∀ history accessor, heap.answer history record.identity accessor = record.answer accessor

theorem Record.heap_hosts {instances : List Record.Instance}
    (distinct : (instances.map Record.Instance.identity).Nodup) {record : Record.Instance}
    (member : record ∈ instances) : (Record.heap instances).Hosts record := by
  intro history accessor
  have named : (instances.find? (·.identity = record.identity)).isSome :=
    List.find?_isSome.mpr ⟨record, member, decide_eq_true rfl⟩
  obtain ⟨found, same⟩ := Option.isSome_iff_exists.mp named
  have bearing := List.find?_some same
  have own : found = record :=
    List.inj_on_of_nodup_map distinct (List.mem_of_find?_eq_some same) member
      (of_decide_eq_true bearing)
  simp only [Record.heap, same, own]

/-- Where every accessor answers, a node is only left unfinished because an answer cannot be
written. -/
theorem Node.overrides_error_of_answers {heap : Heap} {attempt : Attempt} {node : Node}
    {registry inner : Registry} {methods : List Method}
    (answers : ∀ method ∈ methods, ∀ run, ∃ value after,
      node.answer heap method run = .ok value after)
    {ledger : Ledger} {run after : Run} {stop : Stop}
    (failed : node.overrides heap attempt registry inner ledger methods run = .error stop after) :
    ∃ method ∈ methods, ∃ value before reason noted,
      node.express attempt registry inner method.returns value before = .error reason after ∧
      stop = reason.annotate (noteAccessor noted method after) := by
  induction methods generalizing ledger run with
  | nil => cases failed
  | cons method rest inductionHypothesis =>
    obtain ⟨own, others⟩ := List.forall_mem_cons.mp answers
    have later {ledger : Ledger} {run : Run}
        (failed : node.overrides heap attempt registry inner ledger rest run =
          .error stop after) :
        ∃ later ∈ method :: rest, ∃ value before reason noted,
          node.express attempt registry inner later.returns value before = .error reason after ∧
          stop = reason.annotate (noteAccessor noted later after) := by
      obtain ⟨later, member, written⟩ := inductionHypothesis others failed
      exact ⟨later, List.mem_cons_of_mem method member, written⟩
    rw [overrides] at failed
    split at failed
    · rcases Walk.bind_eq_error failed with failed | ⟨_, _, _, impossible⟩
      · exact later failed
      · cases impossible
    · obtain ⟨value, between, answered⟩ := own run
      obtain ⟨noted, kept, recorded⟩ := record_ok ledger method value between
      rw [Walk.bind_ok (Walk.annotatedAfter_ok answered), Walk.bind_ok recorded] at failed
      rcases Walk.bind_eq_error failed with failed | ⟨code, written, _, failed⟩
      · cases expressed : node.express attempt registry inner method.returns value kept with
        | ok code written =>
          rw [Walk.annotatedAfter_ok expressed] at failed
          cases failed
        | error reason broken =>
          rw [Walk.annotatedAfter_error expressed] at failed
          cases failed
          exact ⟨method, List.mem_cons_self, value, kept, reason, noted, expressed, rfl⟩
      · rcases Walk.bind_eq_error failed with failed | ⟨_, _, _, impossible⟩
        · exact later failed
        · cases impossible

/-- In a walk that fails, an accessor without an answer is noted exactly as the heap replied. -/
theorem Stopped.exists_reply {heap : Heap} {task : Task} {before after : Run}
    {events : List Event} {stop : Stop} (stopped : Stopped heap task before events stop after) :
    ∀ invocation ∈ Event.invocations events,
      (∃ value, invocation.outcome = .ok value) ∨ ∃ world allocated,
        heap.reply world invocation.object invocation.accessor =
          (invocation.outcome, allocated) := by
  have answered {part : Part} {before after : Run} {events : List Event}
      (walked : Walked heap part before events after) :
      ∀ invocation ∈ Event.invocations events,
        (∃ value, invocation.outcome = .ok value) ∨ ∃ world allocated,
          heap.reply world invocation.object invocation.accessor =
            (invocation.outcome, allocated) :=
    fun invocation member => .inl (walked.exists_outcome invocation member)
  induction stopped with
  | untargeted | unbuilt | reentered | exhausted | unrouted | shapeless =>
    exact fun _ member => nomatch member
  | list _ _ inductionHypothesis | item _ inductionHypothesis | skipped _ _ inductionHypothesis =>
    exact inductionHypothesis
  | literalObject _ _ _ inductionHypothesis => exact inductionHypothesis
  | literal _ _ inductionHypothesis | expanded _ _ inductionHypothesis => exact inductionHypothesis
  | laterItem head _ inductionHypothesis =>
    rw [Event.invocations_append]
    exact List.forall_mem_append.mpr ⟨answered head, inductionHypothesis⟩
  | unrendered _ _ _ _ inductionHypothesis => exact inductionHypothesis
  | unanswered _ replied =>
    exact List.forall_mem_singleton.mpr (.inr ⟨_, _, replied⟩)
  | unexpressed _ _ _ _ inductionHypothesis =>
    rw [Event.invocations_cons_call]
    exact List.forall_mem_cons.mpr ⟨.inl ⟨_, rfl⟩, inductionHypothesis⟩
  | laterMethod _ _ _ expressed _ inductionHypothesis =>
    rw [Event.invocations_cons_call, Event.invocations_append]
    exact List.forall_mem_cons.mpr ⟨.inl ⟨_, rfl⟩,
      List.forall_mem_append.mpr ⟨answered expressed, inductionHypothesis⟩⟩

namespace Record

namespace Description.Derives

variable {description : Description} {derivation : Derivation}
  (derives : description.Derives derivation) (types : String → DeclaredType)

include derives

theorem exists_field {method : Method} (member : method ∈ (derivation.target types).methods) :
    ∃ field ∈ description.marked, field.accessorName = method.name ∧ method.takesNothing := by
  rw [derives.target_eq] at member
  obtain ⟨field, marked, rfl⟩ := List.mem_map.mp member
  exact ⟨field, marked, rfl, rfl⟩

/-- All accessors can be listed, since none has parameters. -/
theorem accessors_eq :
    (derivation.target types).accessors =
      .ok (Target.sortByName (derivation.target types).overridable) := by
  have plain : (derivation.target types).overridable.find? (!·.takesNothing) = none := by
    rw [List.find?_eq_none]
    intro method listed
    obtain ⟨_, _, _, nothing⟩ := derives.exists_field types (List.mem_filter.mp listed).1
    rw [nothing]
    exact Bool.false_ne_true
  rw [Target.accessors, plain]

/-- An object of the record can be planned as its own type, unless that is a final class. -/
theorem exists_build (extendable : description.kind ≠ .final) {live : LiveObject}
    (own : live.runtime = derivation.runtime) (expansions : Expansions) :
    ∃ node, Node.build live (derivation.target types) expansions = .ok node := by
  have fits : (derivation.target types).accepts live.runtime := own ▸ derives.accepts types
  have checked : Node.checkExtendable (derivation.target types) = .ok () := by
    rw [Node.checkExtendable, derives.target_eq]
    cases kind : description.kind with
    | extendable | interface => rfl
    | final => exact absurd kind extendable
  rw [Node.build_of_accepts expansions fits, checked, derives.accessors_eq types]
  exact ⟨_, rfl⟩

/-- What the heap replies where an object of the record is asked for one of its accessors. -/
theorem exists_reply {heap : Heap} {record : Instance} (own : record.derivation = derivation)
    (hosts : heap.Hosts record) {method : Method}
    (member : method ∈ (derivation.target types).methods) (world : World) :
    ∃ value allocated,
      heap.reply world record.identity method.name = (.ok value, allocated) := by
  obtain ⟨field, marked, named, _⟩ := derives.exists_field types member
  have answered : heap.answer world.history record.identity method.name =
      .ok (record.contents field.identifier) := by
    rw [hosts, Instance.answer, own, ← named]
    exact derives.answer_own record.contents field marked
  rw [Heap.reply, answered]
  exact ⟨_, _, rfl⟩

end Description.Derives

/-- An object never fails for want of an answer of its own when it is written as a target. -/
structure Instance.NeverFaults (record : Instance) (target : Target) (heap : Heap) : Prop where
  /-- Wherever the object is written, and whatever was invoked before, all accessors answer. -/
  answers : ∀ {expansions node}, Node.build record.face target expansions = .ok node →
    ∀ method ∈ node.accessors, ∀ run, ∃ value after,
      node.answer heap method run = .ok value after
  /-- So its accessors are gone through to the end, unless one of the answers cannot be written. -/
  overrides : ∀ {expansions node}, Node.build record.face target expansions = .ok node →
    ∀ {attempt registry inner ledger run stop after},
      node.overrides heap attempt registry inner ledger node.accessors run = .error stop after →
      ∃ method ∈ node.accessors, ∃ value before reason noted,
        node.express attempt registry inner method.returns value before = .error reason after ∧
        stop = reason.annotate (Node.noteAccessor noted method after)
  /-- In the rendering of its snapshot, whether it succeeds or not, the object never fails. -/
  rendering : ∀ {canned expanded snapshot world number},
    Snapshot.plan (.object record.face) target canned expanded = .ok snapshot → canned.IsPlain →
    world.snapshots[number]? = some snapshot → ∀ registry,
    ∀ invocation ∈ (heap.render world number registry).world.since world,
      invocation.object = record.identity → ∃ value, invocation.outcome = .ok value

/-- An object of a record that is written as its own type has all the answers. -/
theorem Description.Derives.neverFaults {description : Description} {derivation : Derivation}
    (derives : description.Derives derivation) (types : String → DeclaredType) {heap : Heap}
    {record : Instance} (own : record.derivation = derivation) (hosts : heap.Hosts record) :
    record.NeverFaults (derivation.target types) heap := by
  have listed {accessors : List Method}
      (same : (derivation.target types).accessors = .ok accessors) :
      ∀ method ∈ accessors, method ∈ (derivation.target types).methods := by
    intro method member
    rw [derives.accessors_eq types] at same
    cases same
    exact (List.mem_filter.mp (List.mem_mergeSort.mp member)).1
  have answers {expansions node}
      (built : Node.build record.face (derivation.target types) expansions = .ok node) :
      ∀ method ∈ node.accessors, ∀ run, ∃ value after,
        node.answer heap method run = .ok value after := by
    intro method member run
    obtain ⟨object, _, _, _, _, _, same⟩ := Node.built_of_build built
    obtain ⟨value, allocated, replied⟩ :=
      derives.exists_reply types own hosts (listed same method member) run.world
    have asked : record.identity = node.object.identity := congrArg LiveObject.identity object.symm
    rw [asked] at replied
    exact ⟨_, _, Node.answer_ok replied⟩
  refine ⟨answers, fun built => Node.overrides_error_of_answers (answers built), ?_⟩
  intro canned expanded snapshot world number planned plain placed registry invocation member mine
  obtain ⟨_, same, built, rfl⟩ := Snapshot.built_of_plan planned
  cases same
  obtain ⟨object, target, _⟩ := Node.built_of_build built
  have root : snapshot.root.object.identity = record.identity := congrArg LiveObject.identity object
  obtain ⟨events, walk, invocations, renderings⟩ :=
    heap.render_rootWalk registry planned plain placed
  obtain ⟨once, _⟩ := heap.render_walkedOnce registry planned plain placed
  -- The object is expanded once, as the root, so what is invoked is an accessor of its own type.
  obtain ⟨rendering, begun, itself, accessors, same, method, called, named, _⟩ :=
    once.owned invocation member
  have distinct := once.nodup
  have first : ⟨snapshot.root.object.identity, snapshot.root.target⟩ ∈
      (heap.render world number registry).world.renderingsSince world := by
    rw [renderings]
    exact List.mem_cons_self
  obtain rfl := List.inj_on_of_nodup_map distinct begun first
    (itself.trans (mine.trans root.symm))
  rw [target] at same
  rw [invocations] at member
  generalize (heap.render world number registry).result = result at walk
  cases walk with
  | ok _ walked => exact walked.exists_outcome invocation member
  | outOfFuel => cases member
  | error _ stopped =>
    rcases stopped.exists_reply invocation member with answered | ⟨earlier, allocated, replied⟩
    · exact answered
    · obtain ⟨value, _, answered⟩ :=
        derives.exists_reply types own hosts (listed same method called) earlier
      rw [named, ← mine, replied] at answered
      exact ⟨value, congrArg Prod.fst answered⟩

/-- What is derived from a record agrees with it. A readable record with named fields is refused
exactly if its type has no name or two of its accessors have one name. Of a record that is accepted,
the type lists the accessors of the marked fields, and each of them answers the contents of its own
field. So an object that is written as its own type, which is no final class, can be planned as a
snapshot, and never fails for want of an answer of its own. -/
theorem Description.derivation_agrees (description : Description) :
    (description.shape = .namedFields → description.IsReadable →
      ((∃ complaint, Derivation.ofDescription description = .error complaint) ↔
        description.typeName? = none ∨ ¬ description.accessorNames.Nodup)) ∧
    ∀ derivation, Derivation.ofDescription description = .ok derivation →
      description.Derives derivation ∧
      ∀ (types : String → DeclaredType) (record : Instance), record.derivation = derivation →
        description.kind ≠ .final →
        (∀ canned expanded, ∃ snapshot,
          Snapshot.plan (.object record.face) (derivation.target types) canned expanded =
            .ok snapshot) ∧
        ∀ heap : Heap, heap.Hosts record → record.NeverFaults (derivation.target types) heap := by
  refine ⟨ofDescription_error_iff, fun derivation derived => ?_⟩
  have derives := derives_of_ok derived
  refine ⟨derives, fun types record own extendable => ⟨fun canned expanded => ?_, fun heap hosts =>
    derives.neverFaults types own hosts⟩⟩
  obtain ⟨root, built⟩ := derives.exists_build types extendable
    (show record.face.runtime = derivation.runtime from congrArg Derivation.runtime own)
    (.ofList expanded)
  rw [Snapshot.plan, built]
  exact ⟨_, rfl⟩

end Record

/-! ### A record with all kinds of fields -/

namespace Everything

open Record

/-- An object whose fields are all empty. -/
def blank : Instance :=
  record (.entry "blank") []

theorem derivation_agrees_blank :
    (description.shape = .namedFields ∧ description.IsReadable ∧
      ¬ ∃ complaint, Derivation.ofDescription description = .error complaint) ∧
    Derivation.ofDescription description = .ok derivation ∧ description.Derives derivation ∧
    description.kind ≠ .final ∧
    (∃ snapshot, Snapshot.plan (.object blank.face) target .empty [] = .ok snapshot) ∧
    (Record.heap [blank]).Hosts blank ∧ blank.NeverFaults target (Record.heap [blank]) := by
  have readable : description.IsReadable := by decide +kernel
  have named : description.typeName? ≠ none := by decide +kernel
  have distinct : description.accessorNames.Nodup := by decide +kernel
  obtain ⟨refused, accepted⟩ := description.derivation_agrees
  have fine : ¬ ∃ complaint, Derivation.ofDescription description = .error complaint := by
    rw [refused rfl readable]
    exact not_or_intro named (not_not_intro distinct)
  have derived : Derivation.ofDescription description = .ok derivation :=
    Derivation.ofDescription_derive description isOk_record
  obtain ⟨derives, served⟩ := accepted derivation derived
  have extendable : description.kind ≠ .final := by decide +kernel
  have own : blank.derivation = derivation := by rw [blank, record]
  obtain ⟨planned, reliable⟩ := served types blank own extendable
  have hosts : (Record.heap [blank]).Hosts blank := by
    refine Record.heap_hosts ?_ List.mem_cons_self
    exact List.nodup_singleton _
  exact ⟨⟨rfl, readable, fine⟩, derived, derives, extendable, planned .empty [], hosts,
    reliable _ hosts⟩

end Everything

end FrozenGraph
