/-
This file shows that source text is well bracketed and indented whatever is written in it. Literals
are closed, since the quote that ends them, backslashes and line ends are escaped in them; so are
anonymous classes and lists whose parts are closed; and the layout of a closed text may be embedded
again, because it is closed too. Everything that a session knows during a rendering is closed if it
was at the start, so the text of a snapshot is.
-/

import FrozenGraph.Proofs.Confined
import FrozenGraph.Proofs.Scanned
import FrozenGraph.Proofs.Shared

namespace FrozenGraph

open Layout Layout.Cursor

/-! ### Quoted literals -/

namespace Literal

/-- The quotes that literals stand in. -/
def quotes : List Char :=
  ['"', '\x27']

/-- The marks that stand for characters behind a backslash in a literal. -/
def marks (quote : Char) : List (Char × Char) :=
  [('\\', '\\'), ('n', '\n'), ('r', '\r'), ('t', '\t'), (quote, quote)]

/-- The ways to write a character in a literal. -/
inductive Written (quote character : Char) : List Char → Prop
  | marked {mark : Char} (known : (mark, character) ∈ marks quote) :
    Written quote character ['\\', mark]
  | coded (control : isControl character) :
    Written quote character ('\\' :: 'u' :: Text.hex4 character.toNat)
  | plain (inside : character ≠ '\n') (backslash : character ≠ '\\') (goes : character ≠ quote) :
    Written quote character [character]

/-- Every character is written in one of these ways. -/
theorem written_escapedChar (quote character : Char) :
    Written quote character (escapedChar quote character) := by
  rw [escapedChar]
  by_cases backslash : character = '\\'
  · rw [if_pos backslash]
    exact .marked (by simp [marks, backslash])
  by_cases newline : character = '\n'
  · rw [if_neg backslash, if_pos newline]
    exact .marked (by simp [marks, newline])
  by_cases carriage : character = '\r'
  · rw [if_neg backslash, if_neg newline, if_pos carriage]
    exact .marked (by simp [marks, carriage])
  by_cases tab : character = '\t'
  · rw [if_neg backslash, if_neg newline, if_neg carriage, if_pos tab]
    exact .marked (by simp [marks, tab])
  by_cases own : character = quote
  · rw [if_neg backslash, if_neg newline, if_neg carriage, if_neg tab, if_pos own]
    exact .marked (by simp [marks, own])
  rw [if_neg backslash, if_neg newline, if_neg carriage, if_neg tab, if_neg own]
  by_cases control : isControl character
  · rw [if_pos control]
    exact .coded control
  · rw [if_neg control]
    exact .plain newline backslash own

/-- Characters in a literal that do not end it leave a cursor in the literal. -/
theorem scan_literal (depth : Nat) (edge : Edge) {quote : Char} {text : List Char}
    (plain : ∀ c ∈ text, c ≠ '\n' ∧ c ≠ '\\' ∧ c ≠ quote) :
    (Cursor.mk depth (.literal quote) edge).scan text =
      some ⟨depth, .literal quote, text.foldl Edge.next edge⟩ := by
  induction text generalizing edge with
  | nil => rfl
  | cons character rest inductionHypothesis =>
    obtain ⟨⟨inside, own, goes⟩, others⟩ := List.forall_mem_cons.mp plain
    have stays : (Place.literal quote).next character = .literal quote := by
      simp [Place.next, own, goes]
    rw [scan_cons, next_literal (by simp) inside, stays]
    exact inductionHypothesis _ others

/-- A backslash and the character behind it leave a cursor in the literal. -/
theorem scan_escape (depth : Nat) (edge : Edge) {quote character : Char}
    (inside : character ≠ '\n') (rest : List Char) :
    (Cursor.mk depth (.literal quote) edge).scan ('\\' :: character :: rest) =
      (Cursor.mk depth (.literal quote) ((edge.next '\\').next character)).scan rest := by
  have begins : (Place.literal quote).next '\\' = .escape quote := rfl
  rw [scan_cons, next_literal (by simp) (by decide), begins, Option.bind_some, scan_cons,
    next_literal (by simp) inside]
  rfl

/-- Hexadecimal digits end no literal. -/
theorem plain_hex4 {quote : Char} (quoted : quote ∈ quotes) {number : Nat} (small : number < 0xA0) :
    ∀ c ∈ Text.hex4 number, c ≠ '\n' ∧ c ≠ '\\' ∧ c ≠ quote := by
  have every : ∀ number < 0xA0, ∀ c ∈ Text.hex4 number,
      c ≠ '\n' ∧ c ≠ '\\' ∧ ∀ quote ∈ quotes, c ≠ quote := by
    decide +kernel
  intro c member
  obtain ⟨inside, plain, goes⟩ := every number small c member
  exact ⟨inside, plain, goes quote quoted⟩

theorem lt_of_isControl {character : Char} (control : isControl character) :
    character.toNat < 0xA0 := by
  simp only [isControl, Bool.or_eq_true, Bool.and_eq_true, decide_eq_true_eq] at control
  omega

/-- No mark ends a line. -/
theorem ne_newline_of_marks {quote mark character : Char} (quoted : quote ∈ quotes)
    (known : (mark, character) ∈ marks quote) : mark ≠ '\n' := by
  have every : ∀ quote ∈ quotes, ∀ pair ∈ marks quote, pair.1 ≠ '\n' := by decide
  exact every quote quoted _ known

/-- Whatever character is escaped, it leaves a cursor in the literal. -/
theorem scan_escapedChar (depth : Nat) (edge : Edge) {quote : Char} (quoted : quote ∈ quotes)
    (character : Char) :
    ∃ edge', (Cursor.mk depth (.literal quote) edge).scan (escapedChar quote character) =
      some ⟨depth, .literal quote, edge'⟩ := by
  have written := written_escapedChar quote character
  generalize escapedChar quote character = text at written
  cases written with
  | marked known =>
    exact ⟨_, scan_escape depth edge (ne_newline_of_marks quoted known) []⟩
  | coded control =>
    exact ⟨_, (scan_escape depth edge (by decide) _).trans
      (scan_literal depth _ (plain_hex4 quoted (lt_of_isControl control)))⟩
  | plain inside backslash goes =>
    exact ⟨_, scan_literal depth edge (by simpa using ⟨inside, backslash, goes⟩)⟩

theorem scan_escaped (depth : Nat) (edge : Edge) {quote : Char} (quoted : quote ∈ quotes)
    (text : List Char) :
    ∃ edge', (Cursor.mk depth (.literal quote) edge).scan (text.flatMap (escapedChar quote)) =
      some ⟨depth, .literal quote, edge'⟩ := by
  induction text generalizing edge with
  | nil => exact ⟨edge, rfl⟩
  | cons character rest inductionHypothesis =>
    obtain ⟨between, own⟩ := scan_escapedChar depth edge quoted character
    obtain ⟨after, later⟩ := inductionHypothesis between
    exact ⟨after, by rw [List.flatMap_cons, scan_append, own, Option.bind_some, later]⟩

/-- A quoted text is closed, whatever it says. -/
theorem closed_quotedText {quote : Char} (quoted : quote ∈ quotes) (text : List Char) :
    Closed (quotedText quote text).toList := by
  have everyQuote : ∀ quote ∈ quotes, Unicode.isBlank quote = false ∧
      Place.code.next quote = .literal quote ∧ quote ≠ '\\' ∧ quote ≠ '\n' ∧ quote ≠ '\x7d' ∧
        quote ≠ '\x7b' := by
    decide
  obtain ⟨dark, begins, backslash, inside, closes, opens⟩ := everyQuote quote quoted
  rw [quotedText, String.toList_ofList]
  refine ⟨⟨quote, rfl, dark⟩, fun depth => ?_⟩
  have opened : (start depth).next quote = some ⟨depth, .literal quote, .solid⟩ := by
    simp [next, start, Place.deepen, Edge.next, inside, closes, opens, dark, begins]
  obtain ⟨edge, escaped⟩ := scan_escaped depth .solid quoted text
  have closed : (Cursor.mk depth (.literal quote) edge).next quote = some (solid depth) := by
    simp [next, solid, Place.deepen, Place.next, Edge.next, inside, dark, backslash]
  rw [List.cons_append, scan_cons, opened, Option.bind_some, scan_append, escaped,
    Option.bind_some, scan_cons, closed]
  rfl

end Literal

/-! ### Numbers -/

/-- Whether a text is written without white space, quotes, braces and line ends. -/
def IsWord (text : String) : Prop :=
  ∀ c ∈ text.toList, isBright c

instance (text : String) : Decidable (IsWord text) :=
  inferInstanceAs (Decidable (∀ c ∈ text.toList, isBright c))

@[simp] theorem isWord_append {first second : String} :
    IsWord (first ++ second) ↔ IsWord first ∧ IsWord second := by
  simp [IsWord, or_imp, forall_and]

@[simp] theorem isWord_ofList {text : List Char} :
    IsWord (String.ofList text) ↔ ∀ c ∈ text, isBright c := by
  simp [IsWord]

theorem mem_digits_of_isDigit {character : Char} (digit : character.isDigit) :
    character ∈ "0123456789".toList := by
  have every : ∀ code < 58, 48 ≤ code → Char.ofNat code ∈ "0123456789".toList := by decide
  simp only [Char.isDigit, Bool.and_eq_true, decide_eq_true_eq, ge_iff_le,
    UInt32.le_iff_toNat_le] at digit
  rw [← Char.ofNat_toNat character]
  exact every _ (Nat.lt_succ_of_le digit.2) digit.1

theorem isBright_of_isDigit {character : Char} (digit : character.isDigit) :
    isBright character := by
  have every : ∀ digit ∈ "0123456789".toList, isBright digit := by decide
  exact every character (mem_digits_of_isDigit digit)

theorem isDigit_of_mem_toDigits (number : Nat) : ∀ c ∈ Nat.toDigits 10 number, c.isDigit :=
  fun _ member => Nat.isDigit_of_mem_toDigits (by decide) (by decide) member

theorem isBright_toDigits (number : Nat) : ∀ c ∈ Nat.toDigits 10 number, isBright c :=
  fun c member => isBright_of_isDigit (isDigit_of_mem_toDigits number c member)

/-- The digits of an integer, with a minus in front of a negative one. -/
theorem toList_toString (number : Int) :
    (toString number).toList =
      (if number < 0 then ['-'] else []) ++ Nat.toDigits 10 number.natAbs := by
  cases number with
  | ofNat number =>
    show (toString number).toList = _
    rw [Nat.toString_eq_ofList_toDigits, String.toList_ofList, if_neg (by simp)]
    rfl
  | negSucc number =>
    show ("-" ++ toString (number + 1)).toList = _
    rw [String.toList_append, Nat.toString_eq_ofList_toDigits, String.toList_ofList,
      String.toList_ofList, if_pos (Int.negSucc_lt_zero number)]
    rfl

/-- What holds of a minus and of all digits holds of all characters of an integer. -/
theorem forall_mem_toString {holds : Char → Prop} (minus : holds '-')
    (digits : ∀ digit ∈ "0123456789".toList, holds digit) (number : Int) :
    ∀ c ∈ (toString number).toList, holds c := by
  intro c member
  rw [toList_toString, List.mem_append] at member
  rcases member with sign | digit
  · split at sign
    · exact List.mem_singleton.mp sign ▸ minus
    · cases sign
  · exact digits c (mem_digits_of_isDigit (isDigit_of_mem_toDigits _ c digit))

theorem isWord_toString (number : Int) : IsWord (toString number) :=
  forall_mem_toString (by decide) (by decide) number

theorem toString_ne_empty (number : Int) : (toString number).toList ≠ [] := by
  rw [toList_toString]
  exact List.append_ne_nil_of_right_ne_nil _ Nat.toDigits_ne_nil

theorem isWord_positional {ending : String} (whole : IsWord ending) (number : Nat) (point : Int) :
    IsWord (Decimal.positional ending (Nat.toDigits 10 number) point) := by
  have zeros : ∀ count, ∀ c ∈ List.replicate count '0', isBright c := fun count c member => by
    rw [List.eq_of_mem_replicate member]
    decide
  have digits := isBright_toDigits number
  rw [Decimal.positional]
  split
  · exact isWord_append.mpr ⟨by decide, isWord_ofList.mpr fun c member =>
      (List.mem_append.mp member).elim (zeros _ c) (digits c)⟩
  · split
    · exact isWord_append.mpr ⟨isWord_ofList.mpr fun c member =>
        (List.mem_append.mp member).elim (digits c) (zeros _ c), whole⟩
    · simp only [isWord_append, isWord_ofList]
      exact ⟨⟨fun c member => digits c (List.mem_of_mem_take member), by decide⟩,
        fun c member => digits c (List.mem_of_mem_drop member)⟩

theorem isWord_scientific (number : Nat) (exponent : Int) :
    IsWord (Decimal.scientific (Nat.toDigits 10 number) exponent) := by
  have digits := isBright_toDigits number
  simp only [Decimal.scientific, isWord_append, isWord_ofList]
  refine ⟨⟨⟨fun c member => digits c (List.mem_of_mem_take member), ?_⟩, by decide⟩,
    isWord_toString exponent⟩
  split
  · decide
  · exact isWord_append.mpr ⟨by decide, isWord_ofList.mpr fun c member =>
      digits c (List.mem_of_mem_drop member)⟩

theorem isWord_decimal (negative : Bool) (decimal : Decimal) :
    IsWord (Decimal.Style.literal.text negative decimal) := by
  have sign : IsWord (if negative then "-" else "") := by
    cases negative <;> decide
  have ending : IsWord Decimal.Style.literal.wholeEnding := by decide
  simp only [Decimal.Style.text]
  split
  · exact isWord_append.mpr ⟨isWord_append.mpr ⟨sign, by decide⟩, ending⟩
  · split
    · exact isWord_append.mpr ⟨sign, isWord_positional ending _ _⟩
    · exact isWord_append.mpr ⟨sign, isWord_scientific _ _⟩

theorem decimal_ne_empty (negative : Bool) (decimal : Decimal) :
    (Decimal.Style.literal.text negative decimal).toList ≠ [] := by
  have positional : ∀ digits point,
      (Decimal.positional Decimal.Style.literal.wholeEnding digits point).toList ≠ [] := by
    intro digits point
    rw [Decimal.positional]
    split
    · simp
    · split <;> simp [Decimal.Style.literal]
  have scientific : ∀ digits exponent, (Decimal.scientific digits exponent).toList ≠ [] := by
    simp [Decimal.scientific]
  simp only [Decimal.Style.text]
  split
  · simp
  · split
    · simp [positional]
    · simp [scientific]

/-- A text without white space, quotes, braces and line ends is closed. -/
theorem closed_of_isWord {text : String} (filled : text.toList ≠ []) (word : IsWord text) :
    Closed text.toList :=
  .of_bright filled word

theorem closed_floatText (format : Decimal.Format) {boxed ending : String}
    (filled : boxed.toList ≠ []) (named : IsWord boxed) (marked : IsWord ending) (bits : Nat) :
    Closed (Literal.floatText format boxed ending bits).toList := by
  rw [Literal.floatText]
  split
  · exact closed_of_isWord (by simp) (isWord_append.mpr ⟨named, by decide⟩)
  · refine closed_of_isWord ?_ (isWord_append.mpr ⟨named, ?_⟩)
    · simp [filled]
    · split <;> decide
  · refine closed_of_isWord ?_ (isWord_append.mpr ⟨isWord_decimal _ _, marked⟩)
    rw [String.toList_append]
    exact List.append_ne_nil_of_left_ne_nil (decimal_ne_empty _ _) _

/-- A number behind a cast is closed. -/
theorem closed_cast {cast : String} {text : List Char} (begins : cast.toList.head? = some '(')
    (passed : ∀ depth, (start depth).scan cast.toList = some ⟨depth, .code, .blank⟩)
    (closed : Closed text) : Closed (cast.toList ++ text) := by
  refine ⟨⟨'(', by rw [List.head?_append, begins, Option.some_or], by decide⟩, fun depth => ?_⟩
  rw [scan_append, passed]
  exact closed.scan depth .blank

/-- Every scalar is written as a closed text. -/
theorem closed_scalar (scalar : Scalar) : Closed scalar.source.toList := by
  have number : ∀ value : Int, Closed (toString value).toList := fun value =>
    closed_of_isWord (toString_ne_empty value) (isWord_toString value)
  cases scalar with
  | null => exact closed_of_isWord (by decide) (by decide)
  | bool value => cases value <;> exact closed_of_isWord (by decide) (by decide)
  | byte value =>
    rw [Scalar.source, String.toList_append]
    exact closed_cast (by decide) (fun depth => rfl) (number _)
  | short value =>
    rw [Scalar.source, String.toList_append]
    exact closed_cast (by decide) (fun depth => rfl) (number _)
  | int value => exact number _
  | long value =>
    refine closed_of_isWord ?_ (isWord_append.mpr ⟨isWord_toString _, by decide⟩)
    rw [Scalar.source, String.toList_append]
    exact List.append_ne_nil_of_right_ne_nil _ (by decide)
  | float bits => exact closed_floatText _ (by decide) (by decide) (by decide) _
  | double bits => exact closed_floatText _ (by decide) (by decide) (by decide) _
  | char value => exact Literal.closed_quotedText (by decide) _
  | string value => exact Literal.closed_quotedText (by decide) _

/-! ### Classes, lists and methods -/

section Printing

variable {declared : DeclaredType}

/-- A name is run over in its line. -/
theorem scan_source (named : declared.IsNamed) (depth : Nat) {edge : Edge}
    (settled : edge ≠ .start) :
    ∃ edge', edge' ≠ .start ∧ (Cursor.mk depth .code edge).scan declared.source.toList =
      some ⟨depth, .code, edge'⟩ :=
  scan_calm depth settled fun c member =>
    isCalm_of_isPart (DeclaredType.isPart_of_mem_source named c member)

theorem scan_name {name : String} (named : Identifier.isWord name.toList) (depth : Nat)
    {edge : Edge} (settled : edge ≠ .start) :
    ∃ edge', edge' ≠ .start ∧ (Cursor.mk depth .code edge).scan name.toList =
      some ⟨depth, .code, edge'⟩ :=
  scan_calm depth settled fun c member => isCalm_of_isPart (by
    rw [Identifier.isPart, Identifier.continues_of_mem named c member, Bool.true_or])

/-- The opening line of a method opens one brace. -/
theorem scan_methodOpening {name : String} (named : Identifier.isWord name.toList)
    (returns : declared.IsNamed) (depth : Nat) :
    (start depth).scan (Expr.methodOpening name declared).toList = some (start (depth + 1)) := by
  have head : (start depth).scan "public ".toList = some ⟨depth, .code, .blank⟩ := rfl
  obtain ⟨first, settled, source⟩ := scan_source returns depth (show Edge.blank ≠ .start by decide)
  have space : (Cursor.mk depth .code first).scan " ".toList = some ⟨depth, .code, .blank⟩ := by
    cases first with
    | start => exact absurd rfl settled
    | blank | solid => rfl
  obtain ⟨second, _, word⟩ := scan_name named depth (show Edge.blank ≠ .start by decide)
  have tail : (Cursor.mk depth .code second).scan "() \x7b\n".toList =
      some (start (depth + 1)) := rfl
  simp only [Expr.methodOpening, String.toList_append, scan_append, head, source, space, word,
    tail, Option.bind_some]

/-- A method without a body is a whole number of lines. -/
theorem rows_empty {name : String} (named : Identifier.isWord name.toList)
    (returns : declared.IsNamed) :
    Rows (Expr.methodOpening name declared ++ "\x7d\n").toList := by
  intro depth
  have closing : (start (depth + 1)).scan "\x7d\n".toList = some (start depth) := rfl
  simp only [String.toList_append, scan_append, scan_methodOpening named returns, closing,
    Option.bind_some]

theorem rows_returning {name value : String} (named : Identifier.isWord name.toList)
    (returns : declared.IsNamed) (closed : Closed value.toList) :
    Rows (Expr.methodOpening name declared ++ "return " ++ value ++ ";\n" ++ "\x7d\n").toList := by
  intro depth
  have begins : (start (depth + 1)).scan "return ".toList =
      some ⟨depth + 1, .code, .blank⟩ := rfl
  have ends : (solid (depth + 1)).scan ";\n".toList = some (start (depth + 1)) := rfl
  have closing : (start (depth + 1)).scan "\x7d\n".toList = some (start depth) := rfl
  simp only [String.toList_append, scan_append, scan_methodOpening named returns, begins,
    closed.scan, ends, closing, Option.bind_some]

theorem rows_addition {item : String} (closed : Closed item.toList) :
    Rows ("add(" ++ item ++ ");\n").toList := by
  intro depth
  have begins : (start depth).scan "add(".toList = some (solid depth) := rfl
  have ends : (solid depth).scan ");\n".toList = some (start depth) := rfl
  have stands := closed.scan depth .solid
  rw [← Cursor.solid] at stands
  simp only [String.toList_append, scan_append, begins, stands, ends, Option.bind_some]

/-- A class of closed methods is closed. -/
theorem closed_class {methods : String} (named : declared.IsNamed) (rows : Rows methods.toList) :
    Closed ("new " ++ declared.source ++ "() \x7b\n" ++ methods ++ "\x7d").toList := by
  refine ⟨⟨'n', ?_, by decide⟩, fun depth => ?_⟩
  · simp
  have begins : (start depth).scan "new ".toList = some ⟨depth, .code, .blank⟩ := rfl
  obtain ⟨edge, _, source⟩ := scan_source named depth (show Edge.blank ≠ .start by decide)
  have opens : (Cursor.mk depth .code edge).scan "() \x7b\n".toList =
      some (start (depth + 1)) := rfl
  have closes : (start (depth + 1)).scan "\x7d".toList = some (solid depth) := rfl
  simp only [String.toList_append, scan_append, begins, source, opens, rows _, closes,
    Option.bind_some]

/-- The opening lines of a list open two braces. -/
theorem scan_listOpening (depth : Nat) :
    (start depth).scan Expr.listOpening.toList = some (start (depth + 2)) := by
  have written : Expr.listOpening.toList =
      "new ".toList ++ "java.util.ArrayList".toList ++ "() \x7b\n\x7b\n".toList := by
    simp [Expr.listOpening]
  have begins : (start depth).scan "new ".toList = some ⟨depth, .code, .blank⟩ := rfl
  have name : (Cursor.mk depth .code .blank).scan "java.util.ArrayList".toList =
      some (solid depth) := scan_bright depth .blank (by decide) (by decide)
  have opens : (solid depth).scan "() \x7b\n\x7b\n".toList = some (start (depth + 2)) := rfl
  rw [written, scan_append, scan_append, begins, Option.bind_some, name, Option.bind_some, opens]

/-- A list of closed items is closed. -/
theorem closed_list {additions : String} (rows : Rows additions.toList) :
    Closed (Expr.listOpening ++ additions ++ "\x7d\n\x7d").toList := by
  refine ⟨⟨'n', by simp [Expr.listOpening], by decide⟩, fun depth => ?_⟩
  have closes : (start (depth + 2)).scan "\x7d\n\x7d".toList = some (solid depth) := rfl
  rw [String.toList_append, String.toList_append, scan_append, scan_append, scan_listOpening,
    Option.bind_some, rows, Option.bind_some, closes]

end Printing

/-! ### The course of a walk -/

/-- Whether an expression is written as a closed text. -/
def Code.IsBalanced (code : Code) : Prop :=
  Closed code.written.toList

/-- Whether every expression that a session knows is written as a closed text. -/
def Session.IsBalanced (session : Session) : Prop :=
  ∀ identity code, session.memo.find? identity = some code → code.IsBalanced

/-- Whether what came of a part is written as a closed text, or as lines that close what they
open. -/
def Part.IsBalanced : Part → Prop
  | .value _ _ _ _ code | .object _ _ _ _ code | .answer _ _ _ _ code => code.IsBalanced
  | .items _ _ _ codes => Rows (Expr.additionsText Deferred.finished codes).toList
  | .methods _ _ _ _ overrides => Rows (Expr.overridesText Deferred.finished overrides).toList

/-- Whether a part can find no targets but those of a list, and overrides no other methods than
theirs. -/
def Part.NamesOnly (targets : List Target) : Part → Prop
  | .value registry expansions _ _ _ | .items registry expansions _ _ =>
    Scoped targets registry expansions
  | .object registry expansions _ target _ =>
    Scoped targets registry expansions ∧ target ∈ targets
  | .answer node registry _ _ _ => Scoped targets registry node.expansions
  | .methods node registry _ listed _ =>
    Scoped targets registry node.expansions ∧
      ∀ method ∈ listed, ∃ target ∈ targets, method ∈ target.methods

namespace Session.IsBalanced

theorem record {session : Session} {identity : Identity} {code : Code}
    (balanced : session.IsBalanced) (closed : code.IsBalanced) :
    (session.record identity code).IsBalanced := by
  intro other found known
  rcases Memo.find?_record_iff.mp known with earlier | ⟨_, _, rfl⟩
  · exact balanced other found earlier
  · exact closed

theorem recordFor {run : Run} {value : Value} {code : Code} (balanced : run.session.IsBalanced)
    (closed : code.IsBalanced) : (run.recordFor value code).session.IsBalanced := by
  unfold Run.recordFor
  split
  · exact balanced.record closed
  · exact balanced

theorem of_memo_eq {first second : Session} (balanced : first.IsBalanced)
    (same : second.memo = first.memo) : second.IsBalanced := by
  intro identity code known
  rw [same] at known
  exact balanced identity code known

end Session.IsBalanced

/-- A target has no accessors but its own methods. -/
theorem Target.mem_methods_of_accessors {target : Target} {accessors : List Method}
    (listed : target.accessors = .ok accessors) {method : Method} (member : method ∈ accessors) :
    method ∈ target.methods := by
  rw [Target.accessors] at listed
  split at listed
  · cases listed
  · cases listed
    exact (List.mem_filter.mp (List.mem_mergeSort.mp member)).1

/-- The text of a class is closed if its methods are. -/
theorem closed_classText {node : Node} {registry : Registry}
    {overrides : List (Override Deferred)} (named : node.target.name.IsDotted)
    (rows : Rows (Expr.overridesText Deferred.finished overrides).toList) :
    Closed (node.classText registry overrides).toList := by
  rw [Node.classText, Layout.format, String.toList_ofList]
  have closed : Closed (Code.written (.anonymous node.target.declaredType overrides)).toList :=
    closed_class named rows
  exact closed.formatChars _

/-- A walk that starts with closed texts ends with closed texts, if all types and methods in reach
have names. -/
theorem Walked.balanced {heap : Heap} {part : Part} {before after : Run} {events : List Event}
    (walked : Walked heap part before events after) {targets : List Target}
    (named : ∀ target ∈ targets, target.IsNamed) (names : part.NamesOnly targets)
    (balanced : before.session.IsBalanced) : part.IsBalanced ∧ after.session.IsBalanced := by
  induction walked with
  | scalar => exact ⟨closed_scalar _, balanced⟩
  | known _ found => exact ⟨balanced _ _ found, balanced⟩
  | list _ _ inductionHypothesis =>
    obtain ⟨rows, kept⟩ := inductionHypothesis names balanced
    exact ⟨closed_list rows, kept.record (closed_list rows)⟩
  | literalObject _ fits _ inductionHypothesis =>
    exact inductionHypothesis ⟨names, names.mem_of_targetFor? fits⟩ balanced
  | noItem => exact ⟨fun _ => rfl, balanced⟩
  | item _ _ head tail =>
    obtain ⟨first, between⟩ := head names (balanced.of_memo_eq (Run.retain_memo _ _))
    obtain ⟨rest, kept⟩ := tail names between
    refine ⟨?_, kept⟩
    show Rows (Expr.additionsText _ (_ :: _)).toList
    rw [Expr.additionsText_cons, String.toList_append]
    exact (rows_addition first).append rest
  | reused found => exact ⟨balanced _ _ found, balanced⟩
  | @rendered registry expansions object target node overrides before events after _ built _ _
      inductionHypothesis =>
    obtain ⟨rfl, rfl, rfl, _, uncached, _, listed⟩ := Node.built_of_build built
    obtain ⟨rows, kept⟩ := inductionHypothesis
      ⟨names.1, fun method member =>
        ⟨node.target, names.2, Target.mem_methods_of_accessors listed member⟩⟩ balanced
    have closed : Code.IsBalanced
        (.deferred (.node (node.complete (node.classText registry overrides)))) := by
      show Closed (String.toList (node.cached.getD _))
      rw [uncached]
      exact closed_classText (named _ names.2).own rows
    exact ⟨closed, kept.record closed⟩
  | null => exact ⟨closed_scalar _, balanced⟩
  | recalled routed =>
    obtain ⟨identity, _, found⟩ := Route.known_of_choose routed
    exact ⟨balanced _ _ found, balanced.recordFor (balanced _ _ found)⟩
  | literal _ _ inductionHypothesis =>
    obtain ⟨closed, kept⟩ := inductionHypothesis names.inner balanced
    exact ⟨closed, kept.recordFor closed⟩
  | expanded routed _ inductionHypothesis =>
    cases Route.chosen_of_eq routed with
    | expand _ registered _ =>
      obtain ⟨closed, kept⟩ := inductionHypothesis
        ⟨names.inner, names.mem_of_byDeclared? registered⟩ balanced
      exact ⟨closed, kept.record closed⟩
  | noMethod => exact ⟨fun _ => rfl, balanced⟩
  | @skipped node registry ledger method rest overrides _ _ _ _ _ inductionHypothesis =>
    obtain ⟨own, others⟩ := List.forall_mem_cons.mp names.2
    obtain ⟨target, among, member⟩ := own
    obtain ⟨word, returns⟩ := (named target among).methods method member
    obtain ⟨rows, kept⟩ := inductionHypothesis ⟨names.1, others⟩ balanced
    refine ⟨?_, kept⟩
    show Rows (Expr.overridesText _ (_ :: _)).toList
    rw [Expr.overridesText_empty, String.toList_append]
    exact (rows_empty word returns).append rows
  | @method node registry ledger ledger' method rest value allocated code overrides before noted
      between first second after _ _ recorded _ _ expressed later =>
    obtain ⟨own, others⟩ := List.forall_mem_cons.mp names.2
    obtain ⟨target, among, member⟩ := own
    obtain ⟨word, returns⟩ := (named target among).methods method member
    obtain ⟨closed, between⟩ := expressed names.1
      (balanced.of_memo_eq (Ledger.memo_of_record recorded))
    obtain ⟨rows, kept⟩ := later ⟨names.1, others⟩ between
    refine ⟨?_, kept⟩
    show Rows (Expr.overridesText _ (_ :: _)).toList
    rw [Expr.overridesText_returning, String.toList_append]
    exact (rows_returning word returns closed).append rows

/-! ### Renderings -/

namespace Heap

variable {heap : Heap} {world : World} {number : Nat} {snapshot : Snapshot}

/-- The text of a snapshot without canned representations is well indented, with any width and
whatever the texts in its objects are, if its types and methods have names. -/
theorem render_wellIndented {value : Value} {target : Target} {expanded : List Target}
    {registry : Registry} {text : String}
    (planned : Snapshot.plan value target .empty expanded = .ok snapshot)
    (placed : world.snapshots[number]? = some snapshot)
    (named : ∀ other ∈ target :: expanded ++ registry.targets, other.IsNamed)
    (rendered : (heap.render world number registry).result = .ok text) :
    WellIndented registry.options.indentWidth text.toList := by
  obtain ⟨events, walk, _, _⟩ := render_rootWalk heap registry planned Canned.empty_isPlain placed
  obtain ⟨live, rfl, built, canned⟩ := Snapshot.built_of_plan planned
  obtain ⟨_, target_eq, expansions_eq, _, _, _, listed⟩ := Node.built_of_build built
  rw [rendered] at walk
  cases walk with
  | @ok _ overrides _ after printed walked =>
    have names : Scoped (target :: expanded ++ registry.targets) registry
        snapshot.root.expansions := by
      constructor
      · exact fun other member => List.mem_append_right _ member
      · intro other member
        rw [expansions_eq] at member
        exact List.mem_append_left _ (List.mem_cons_of_mem _
          (Expansions.mem_targets_ofList other member))
    have own : target ∈ target :: expanded ++ registry.targets := List.mem_cons_self
    have opened : (world.begun number snapshot).session.IsBalanced := by
      intro identity code known
      change (Session.opening snapshot.canned).memo.find? identity = some code at known
      rw [Session.opening_find?, canned] at known
      cases known
    obtain ⟨rows, _⟩ := walked.balanced named ⟨names, fun method member =>
      ⟨target, own, Target.mem_methods_of_accessors listed member⟩⟩ opened
    have closed : Closed (Code.written
        (.anonymous snapshot.root.target.declaredType overrides)).toList :=
      closed_class (target_eq ▸ (named target own).own) rows
    rw [printed, Node.classText, Layout.format, String.toList_ofList]
    exact wellIndented_formatChars _ _ closed.solid (closed.scanned 0)

end Heap

/-! ### A card with braces and quotes in its text -/

namespace Letters

/-- A card has a text. -/
def card : Target :=
  (Target.interface "post.Card").accessor "getText" .string

/-- An envelope has a card. -/
def envelope : Target :=
  (Target.interface "post.Envelope").accessor "getCard" card.declaredType

/-- The only card. -/
def cardObject : LiveObject :=
  ⟨.entry "card", ⟨card.name, []⟩, none⟩

/-- The envelope of the card. -/
def envelopeObject : LiveObject :=
  ⟨.entry "envelope", ⟨envelope.name, []⟩, none⟩

/-- The text of the card is full of what a layout counts. -/
def script : Script :=
  [⟨envelopeObject, [("getCard", .value (.existing (.object cardObject)))]⟩,
    ⟨cardObject, [("getText", .value (.existing (.scalar
      (.string "\x7b\"\n \x7d'\\\x01\x7b "))))]⟩]

/-- The heap of the envelope and the card. -/
def heap : Heap :=
  script.heap

/-- The envelope is planned, and cards are expanded. -/
def snapshot : Snapshot where
  root := ⟨envelopeObject, envelope, envelope.methods, .ofList [card], .pending, none⟩
  canned := .empty
  origins := .empty

/-- Nothing has happened but the planning. -/
def world : World :=
  { World.initial with snapshots := [snapshot] }

/-- Four spaces for each level. -/
def registry : Registry :=
  .withOptions ⟨4⟩

theorem planned :
    Snapshot.plan (.object envelopeObject) envelope .empty [card] = .ok snapshot := by
  have built : Node.build envelopeObject envelope (.ofList [card]) = .ok snapshot.root := by
    decide +kernel
  rw [Snapshot.plan, built]
  rfl

theorem render_wellIndented_card :
    ∃ text, (heap.render world 0 registry).result = .ok text ∧ WellIndented 4 text.toList := by
  obtain ⟨text, rendered⟩ : ∃ text, (heap.render world 0 registry).result = .ok text :=
    Heap.Ended.exists_text (by decide +kernel)
  exact ⟨text, rendered, Heap.render_wellIndented planned rfl (by decide +kernel) rendered⟩

end Letters

end FrozenGraph
