/-
This file shows that data survives being written as a literal. Data is what is built of scalars
other than floating-point numbers and of lists. However its lists are shared, it is written item by
item: the expression that is remembered for a list is the one that the list is written as. The
layout of that expression has the tokens of the expression, so the reader finds the data again.
-/

import FrozenGraph.Proofs.Attained
import FrozenGraph.Proofs.Distinguished

namespace FrozenGraph

/-! ### Data -/

/-- Data: scalars that are no floating-point numbers, and lists. -/
inductive Datum where
  | scalar (value : { scalar : Scalar // scalar.isExact })
  | list (items : List Datum)

mutual

/-- The data that a value is, if it is data; the identities of its lists do not belong to it. -/
def Value.datum? : Value → Option Datum
  | .scalar value => if exact : value.isExact then some (.scalar ⟨value, exact⟩) else none
  | .list _ items => (Value.data? items).map .list
  | .object _ => none

/-- The data that some values are. -/
def Value.data? : List Value → Option (List Datum)
  | [] => some []
  | first :: rest => first.datum?.bind fun datum => (Value.data? rest).map (datum :: ·)

end

namespace Expr

variable {δ : Type}

mutual

/-- The data that an expression says, if it says data. -/
def datum? : Expr δ → Option Datum
  | .literal value => if exact : value.isExact then some (.scalar ⟨value, exact⟩) else none
  | .list items => (data? items).map .list
  | .reference _ | .raw _ | .anonymous .. | .ret _ | .deferred _ => none

/-- The data that some expressions say. -/
def data? : List (Expr δ) → Option (List Datum)
  | [] => some []
  | first :: rest => first.datum?.bind fun datum => (data? rest).map (datum :: ·)

end

end Expr

namespace Datum

mutual

/-- Data as an expression. -/
def code : Datum → Code
  | .scalar value => .literal value.1
  | .list items => .list (codes items)

/-- Some data as expressions. -/
def codes : List Datum → List Code
  | [] => []
  | first :: rest => first.code :: codes rest

end

/-- The data that a text says. -/
def read? (text : List Char) : Option Datum :=
  (Grammar.read? text : Option Code).bind Expr.datum?

mutual

theorem datum_code : (datum : Datum) → datum.code.datum? = some datum
  | .scalar value => dif_pos value.2
  | .list items => by rw [code, Expr.datum?, data_codes items, Option.map_some]

theorem data_codes : (data : List Datum) → Expr.data? (codes data) = some data
  | [] => rfl
  | first :: rest => by
    rw [codes, Expr.data?, datum_code first, Option.bind_some, data_codes rest, Option.map_some]

end

mutual

/-- Data can be read back from its source text. -/
theorem isReadable_code : (datum : Datum) → datum.code.isReadable
  | .scalar value => value.2
  | .list items => areItemsReadable_codes items

theorem areItemsReadable_codes : (data : List Datum) → Expr.areItemsReadable (codes data)
  | [] => rfl
  | first :: rest => by
    rw [codes, Expr.areItemsReadable, Bool.and_eq_true]
    exact ⟨isReadable_code first, areItemsReadable_codes rest⟩

end

mutual

/-- Nothing of data is dropped. -/
theorem bare_code : (datum : Datum) → datum.code.bare = datum.code
  | .scalar _ => rfl
  | .list items => by rw [code, Expr.bare, bareItems_codes items]

theorem bareItems_codes : (data : List Datum) → Expr.bareItems (codes data) = codes data
  | [] => rfl
  | first :: rest => by rw [codes, Expr.bareItems, bare_code first, bareItems_codes rest]

end

mutual

/-- Data is written as a closed text. -/
theorem isBalanced_code : (datum : Datum) → datum.code.IsBalanced
  | .scalar value => closed_scalar value.1
  | .list items => closed_list (rows_codes items)

theorem rows_codes : (data : List Datum) →
    Layout.Rows (Expr.additionsText Deferred.finished (codes data)).toList
  | [] => fun _ => rfl
  | first :: rest => by
    rw [codes, Expr.additionsText_cons, String.toList_append]
    exact (rows_addition (isBalanced_code first)).append (rows_codes rest)

end

theorem isReturn_code (datum : Datum) : datum.code.isReturn = false := by
  cases datum <;> rfl

/-! ### How data is written -/

/-- Whether a session knows lists as the data that they are. -/
def IsKnown (holds : Value → Prop) (session : Session) : Prop :=
  ∀ identity items code, holds (.list identity items) →
    session.memo.find? identity = some code →
    (Value.list identity items).datum?.map Datum.code = some code

section Walks

variable {holds : Value → Prop} {heap : Heap} {attempt : Attempt} {registry : Registry}
  {expansions : Expansions} {declared : Option DeclaredType} {before : Run}

/-- A list is written as the data that it is, and no other list has its identity. -/
theorem IsKnown.record (own : Universe holds) (known : IsKnown holds before.session)
    {identity : Identity} {items : List Value} {data : List Datum}
    (held : holds (.list identity items)) (same : Value.data? items = some data) :
    IsKnown holds (before.record identity (.list (codes data))).session := by
  intro other others code member found
  rcases Memo.find?_record_iff.mp found with earlier | ⟨_, rfl, rfl⟩
  · exact known other others code member earlier
  · rw [own.coherent held member rfl, Value.datum?, same]
    rfl

mutual

/-- Data is written as the expression for it, whichever of its lists are known. -/
theorem endsIn_value (own : Universe holds) : (value : Value) → holds value →
    (datum : Datum) → value.datum? = some datum → (declared : Option DeclaredType) →
    (before : Run) → IsKnown holds before.session →
    ∃ after, Part.EndsIn heap attempt before after
        (.value registry expansions declared value datum.code) ∧ IsKnown holds after.session
  | .scalar value, _, datum, same, declared, before, known => by
    rw [Value.datum?] at same
    split at same
    · obtain rfl := Option.some.inj same
      exact ⟨before, rfl, known⟩
    · cases same
  | .list identity items, held, datum, same, declared, before, known => by
    cases found : before.session.memo.find? identity with
    | some code =>
      have kept := known identity items code held found
      rw [same, Option.map_some, Option.some_inj] at kept
      exact ⟨before, Encode.value_of_known rfl (kept ▸ found) _ _ _ _, known⟩
    | none =>
      obtain ⟨data, inner, rfl⟩ := Option.map_eq_some_iff.mp same
      obtain ⟨after, written, later⟩ :=
        endsIn_items own items (own.items held) data inner before known
      exact ⟨_, .list found written, later.record own held inner⟩

theorem endsIn_items (own : Universe holds) : (items : List Value) →
    (∀ item ∈ items, holds item) → (data : List Datum) → Value.data? items = some data →
    (before : Run) → IsKnown holds before.session →
    ∃ after, Part.EndsIn heap attempt before after
        (.items registry expansions items (codes data)) ∧ IsKnown holds after.session
  | [], _, data, same, before, known => by
    obtain rfl := Option.some.inj same
    exact ⟨before, rfl, known⟩
  | first :: rest, held, data, same, before, known => by
    obtain ⟨datum, alone, mapped⟩ := Option.bind_eq_some_iff.mp same
    obtain ⟨others, inner, rfl⟩ := Option.map_eq_some_iff.mp mapped
    have kept : IsKnown holds (before.retain first).session := by
      unfold IsKnown
      rwa [Run.retain_memo]
    obtain ⟨between, head, between_known⟩ :=
      endsIn_value own first (held first List.mem_cons_self) datum alone none _ kept
    obtain ⟨after, tail, later⟩ := endsIn_items own rest
      (fun item member => held item (List.mem_cons_of_mem _ member)) others inner between
      between_known
    exact ⟨after, .item head tail, later⟩

end

end Walks

/-! ### Reading what is written -/

/-- The reader finds data in every layout of its source text. -/
theorem read_format (datum : Datum) (options : Layout.Options) :
    read? (Layout.format options datum.code.written).toList = some datum := by
  have bare := Code.read_sourceText datum.isReadable_code
  have value : ¬ datum.code.isReturn := by simp [datum.isReturn_code]
  rw [Code.sourceText, if_neg value, Expr.normal, if_neg value, datum.bare_code] at bare
  have tokens := Token.lex_formatChars options datum.isBalanced_code
  rw [Grammar.read?] at bare
  rw [read?, Grammar.read?, Layout.format, String.toList_ofList, tokens, bare, Option.bind_some,
    datum.datum_code]

end Datum

/-- Data is written as a literal, however its lists are shared, and the reader finds it again in the
layout of its source text. -/
theorem Heap.load_reads_back {value : Value} {datum : Datum} (data : value.datum? = some datum)
    (coherent : Value.Coherent [value]) (heap : Heap) (world : World) (registry : Registry) :
    ∃ text, (heap.load world value registry).result = .ok text ∧
      Datum.read? text.toList = some datum := by
  have held : value ∈ Value.partsOfAll [value] :=
    Value.mem_partsOfAll.mpr ⟨value, List.mem_singleton.mpr rfl, value.mem_parts_self⟩
  have nothing : Datum.IsKnown (· ∈ Value.partsOfAll [value])
      (Run.retain ⟨world, .empty⟩ value).session := by
    intro identity items code _ found
    rw [Run.retain_memo] at found
    cases found
  obtain ⟨after, written, _⟩ := @Datum.endsIn_value _ heap (heap.attempt world) registry .none
    (.of_coherent coherent) value held datum data none _ nothing
  refine ⟨Layout.format registry.options datum.code.written, ?_, datum.read_format _⟩
  have retained : Walk.retain value ⟨world, .empty⟩ =
      .ok () (Run.retain ⟨world, .empty⟩ value) := rfl
  have finished : datum.code.IsFinished := by
    intro statement member
    rw [Expr.statements_of_isReadable _ datum.isReadable_code] at member
    cases member
  have loaded : literalText (heap.attempt world) value registry ⟨world, .empty⟩ =
      .ok (Layout.format registry.options datum.code.written) after := by
    refine (Walk.bind_ok retained).trans ((Walk.bind_ok written).trans ?_)
    rw [Code.source_eq_pure _ _ finished, if_neg (by simp [datum.isReturn_code])]
    rfl
  rw [Heap.load, perform, loaded]

/-! ### A list that stands in two places -/

namespace Ledgers

/-- A line with what could be taken for source text. -/
def line : Value :=
  .list (.entry "line") [.scalar (.string "total\"); \x7d\n"), .scalar (.char '\x27'),
    .scalar (.long (-7))]

/-- The line twice, with an empty list between. -/
def lines : Value :=
  .list (.entry "lines") [line, .list (.entry "empty") [], line, .scalar .null]

/-- What the line says. -/
def lineDatum : Datum :=
  .list [.scalar ⟨.string "total\"); \x7d\n", rfl⟩, .scalar ⟨.char '\x27', rfl⟩,
    .scalar ⟨.long (-7), rfl⟩]

theorem load_reads_back_lines :
    ∃ text, ((Script.heap []).load .initial lines .root).result = .ok text ∧
      Datum.read? text.toList =
        some (.list [lineDatum, .list [], lineDatum, .scalar ⟨.null, rfl⟩]) :=
  Heap.load_reads_back (show lines.datum? = some _ from rfl)
    (show Value.Coherent [lines] by decide +kernel) _ _ _

end Ledgers

end FrozenGraph
