/-
This file reads source text back. A reader of tokens follows the grammar that the text is written
in: literals with their escapes and casts, variables, lists with their statements, and anonymous
classes with their methods. It finds every readable expression again, up to what is dropped when it
is printed; so two expressions with one text differ in nothing else.
-/

import FrozenGraph.Proofs.Spelled

namespace FrozenGraph

/-! ### Literals -/

namespace Literal

/-- What stands behind a backslash for which character. -/
def escapes : List (Char × Char) :=
  [('\\', '\\'), ('\x27', '\x27'), ('"', '"'), ('n', '\n'), ('r', '\r'), ('t', '\t'), ('b', '\x08'),
    ('f', '\x0c')]

/-- What is written between quotes as the characters that it stands for. -/
def unescape? : List Char → Option (List Char)
  | [] => some []
  | '\\' :: 'u' :: a :: b :: c :: d :: rest => do
    let code ← Layout.Options.hexValue? [a, b, c, d]
    let others ← unescape? rest
    if code.isValidChar then some (Char.ofNat code :: others) else none
  | ['\\'] => none
  | '\\' :: letter :: rest => do
    let character ← escapes.lookup letter
    let others ← unescape? rest
    some (character :: others)
  | character :: rest => (unescape? rest).map (character :: ·)

theorem hex4_eq {number : Nat} (small : number < 0xA0) :
    ∃ a b c d, Text.hex4 number = [a, b, c, d] ∧
      Layout.Options.hexValue? [a, b, c, d] = some number := by
  have every : ∀ number < 0xA0, (Text.hex4 number).length = 4 ∧
      Layout.Options.hexValue? (Text.hex4 number) = some number := by
    decide +kernel
  obtain ⟨four, value⟩ := every number small
  generalize Text.hex4 number = digits at four value
  match digits, four with
  | [a, b, c, d], _ => exact ⟨a, b, c, d, rfl, value⟩

/-- Whatever character is escaped is found again. -/
theorem unescape_escapedChar {quote : Char} (quoted : quote ∈ quotes) (character : Char)
    (rest : List Char) :
    unescape? (escapedChar quote character ++ rest) = (unescape? rest).map (character :: ·) := by
  have written := written_escapedChar quote character
  generalize escapedChar quote character = text at written
  cases written with
  | @marked letter known =>
    have every : ∀ quote ∈ quotes, ∀ pair ∈ marks quote,
        pair.1 ≠ 'u' ∧ escapes.lookup pair.1 = some pair.2 := by
      decide
    obtain ⟨other, found⟩ := every quote quoted _ known
    have step : unescape? ('\\' :: letter :: rest) =
        (escapes.lookup letter).bind fun character =>
          (unescape? rest).bind fun others => some (character :: others) := by
      rw [unescape?]
      · rfl
      · exact fun _ _ _ _ _ same _ => other same
    show unescape? ('\\' :: letter :: rest) = _
    rw [step, found]
    cases unescape? rest <;> rfl
  | coded control =>
    obtain ⟨a, b, c, d, digits, value⟩ := hex4_eq (lt_of_isControl control)
    rw [digits]
    show ((Layout.Options.hexValue? [a, b, c, d]).bind fun code =>
      (unescape? rest).bind fun others =>
        if code.isValidChar then some (Char.ofNat code :: others) else none) = _
    rw [value, Option.bind_some, Char.ofNat_toNat]
    cases unescape? rest with
    | none => rfl
    | some others => exact if_pos character.valid
  | plain inside backslash goes =>
    show unescape? (character :: rest) = _
    rw [unescape?]
    · exact fun _ _ _ _ _ same _ => backslash same
    · exact fun same _ => backslash same
    · exact fun _ _ same _ => backslash same

/-- Every text is found again from what is written between quotes. -/
theorem unescape_written {quote : Char} (quoted : quote ∈ quotes) (text : List Char) :
    unescape? (text.flatMap (escapedChar quote)) = some text := by
  induction text with
  | nil => rfl
  | cons character rest inductionHypothesis =>
    rw [List.flatMap_cons, unescape_escapedChar quoted, inductionHypothesis, Option.map_some]

end Literal

/-! ### Numbers -/

namespace Grammar

/-- The natural number that some digits say. -/
def natural? (digits : List Char) : Option Nat :=
  if digits ≠ [] ∧ digits.all Char.isDigit then some (Nat.ofDigitChars 10 digits 0) else none

/-- The integer that a word says. -/
def integer? (letters : List Char) : Option Int :=
  if letters.head? = some '-' then (natural? letters.tail).map Int.negOfNat
  else (natural? letters).map Int.ofNat

/-- The integer that a word says with the mark of long numbers behind it. -/
def long? (letters : List Char) : Option Int :=
  if letters.getLast? = some 'L' then integer? letters.dropLast else none

/-- A number of limited size, if an integer is one. -/
def fitting? {α : Type} (ofInt : Int → α) (toInt : α → Int) (number : Int) : Option α :=
  if toInt (ofInt number) = number then some (ofInt number) else none

theorem natural_toDigits (number : Nat) : natural? (Nat.toDigits 10 number) = some number := by
  rw [natural?, if_pos ⟨Nat.toDigits_ne_nil, List.all_eq_true.mpr (isDigit_of_mem_toDigits number)⟩,
    Nat.ofDigitChars_ten_toDigits]

theorem natural_eq_none {digits : List Char} {character : Char} (member : character ∈ digits)
    (other : character.isDigit = false) : natural? digits = none := by
  rw [natural?, if_neg]
  rintro ⟨_, all⟩
  rw [List.all_eq_true.mp all character member] at other
  cases other

theorem head_toDigits (number : Nat) : (Nat.toDigits 10 number).head? ≠ some '-' := by
  intro minus
  have digit := isDigit_of_mem_toDigits number '-' (List.mem_of_head? minus)
  revert digit
  decide

theorem integer_toString (number : Int) : integer? (toString number).toList = some number := by
  rw [toList_toString]
  by_cases negative : number < 0
  · have minus : (['-'] ++ Nat.toDigits 10 number.natAbs).head? = some '-' := rfl
    rw [if_pos negative, integer?, if_pos minus]
    show (natural? (Nat.toDigits 10 number.natAbs)).map _ = _
    rw [natural_toDigits, Option.map_some, Int.negOfNat_eq, Option.some_inj]
    show -(number.natAbs : Int) = number
    omega
  · rw [if_neg negative, integer?, List.nil_append, if_neg (head_toDigits _), natural_toDigits,
      Option.map_some, Option.some_inj]
    show (number.natAbs : Int) = number
    omega

/-- A word that holds a character that is no digit, and no minus at its start, is no integer. -/
theorem integer_eq_none {letters : List Char} {character : Char} (member : character ∈ letters)
    (letter : character ≠ '-') (other : character.isDigit = false) : integer? letters = none := by
  rw [integer?]
  split
  · rename_i minus
    obtain ⟨rest, rfl⟩ := List.head?_eq_some_iff.mp minus
    rw [List.tail_cons, natural_eq_none ((List.mem_cons.mp member).resolve_left letter) other,
      Option.map_none]
  · rw [natural_eq_none member other, Option.map_none]

/-- No number begins like an identifier. -/
theorem ne_minus_of_begins {character : Char} (first : Identifier.begins character) :
    character ≠ '-' ∧ character.isDigit = false := by
  constructor
  · rintro rfl
    revert first
    decide
  · rw [Bool.eq_false_iff]
    intro digit
    have every : ∀ digit ∈ "0123456789".toList, Identifier.begins digit = false := by decide
    rw [every character (mem_digits_of_isDigit digit)] at first
    cases first

/-- A word that begins with a number is not reserved. -/
theorem toString_notMem_reserved (number : Int) (ending : List Char) :
    (toString number).toList ++ ending ∉ Identifier.reserved := by
  have every : ∀ word ∈ Identifier.reserved, ∀ first ∈ word.take 1,
      first ≠ '-' ∧ first.isDigit = false := by
    decide
  intro member
  rw [toList_toString] at member
  by_cases negative : number < 0
  · rw [if_pos negative] at member
    exact (every _ member '-' List.mem_cons_self).1 rfl
  · rw [if_neg negative, List.nil_append] at member
    obtain ⟨first, rest, digits⟩ := List.exists_cons_of_ne_nil
      (show Nat.toDigits 10 number.natAbs ≠ [] from Nat.toDigits_ne_nil)
    have digit := isDigit_of_mem_toDigits number.natAbs first (digits ▸ List.mem_cons_self)
    rw [digits] at member
    rw [(every _ member first List.mem_cons_self).2] at digit
    cases digit

theorem number_notMem_reserved (number : Int) :
    (toString number).toList ∉ Identifier.reserved := by
  simpa using toString_notMem_reserved number []

/-! ### Values of one token -/

variable {δ : Type}

/-- The value of a word. -/
def wordValue? (letters : List Char) : Option (Expr δ) :=
  if letters = "null".toList then some (.literal .null)
  else if letters = "true".toList then some (.literal (.bool true))
  else if letters = "false".toList then some (.literal (.bool false))
  else match integer? letters, long? letters with
    | some number, _ => (fitting? Int32.ofInt Int32.toInt number).map fun value =>
      .literal (.int value)
    | none, some number => (fitting? Int64.ofInt Int64.toInt number).map fun value =>
      .literal (.long value)
    | none, none =>
      if Identifier.isWord letters then some (.reference (String.ofList letters)) else none

/-- The value of a number behind a cast. -/
def castValue? (kind digits : List Char) : Option (Expr δ) :=
  (integer? digits).bind fun number =>
    if kind = "byte".toList then
      (fitting? Int8.ofInt Int8.toInt number).map fun value => .literal (.byte value)
    else if kind = "short".toList then
      (fitting? Int16.ofInt Int16.toInt number).map fun value => .literal (.short value)
    else none

/-- The value of a quoted literal. -/
def quotedValue? (quote : Char) (content : List Char) : Option (Expr δ) :=
  (Literal.unescape? content).bind fun text =>
    if quote = '"' then some (.literal (.string (String.ofList text)))
    else match text with
      | [character] => some (.literal (.char character))
      | _ => none

theorem wordValue_of_notMem {letters : List Char} (free : letters ∉ Identifier.reserved) :
    (wordValue? letters : Option (Expr δ)) = match integer? letters, long? letters with
      | some number, _ => (fitting? Int32.ofInt Int32.toInt number).map fun value =>
        .literal (.int value)
      | none, some number => (fitting? Int64.ofInt Int64.toInt number).map fun value =>
        .literal (.long value)
      | none, none =>
        if Identifier.isWord letters then some (.reference (String.ofList letters)) else none := by
  have differs : ∀ word ∈ Identifier.reserved, letters ≠ word := fun word member same =>
    free (same ▸ member)
  rw [wordValue?, if_neg (differs _ (by decide)), if_neg (differs _ (by decide)),
    if_neg (differs _ (by decide))]

theorem wordValue_name {name : String} (named : Identifier.isWord name.toList) :
    (wordValue? name.toList : Option (Expr δ)) = some (.reference name) := by
  rw [wordValue_of_notMem (Identifier.notMem_reserved named)]
  obtain ⟨first, rest, letters⟩ : ∃ first rest, name.toList = first :: rest := by
    refine List.exists_cons_of_ne_nil ?_
    intro empty
    rw [empty] at named
    cases named
  have begins : Identifier.begins first := by
    rw [letters] at named
    simp only [Identifier.isWord, Bool.and_eq_true] at named
    exact named.1.1
  obtain ⟨minus, digit⟩ := ne_minus_of_begins begins
  have short : integer? name.toList = none :=
    integer_eq_none (letters ▸ List.mem_cons_self) minus digit
  have long : long? name.toList = none := by
    rw [long?, letters]
    split
    · cases rest with
      | nil => rfl
      | cons second more =>
        rw [List.dropLast_cons_cons]
        exact integer_eq_none List.mem_cons_self minus digit
    · rfl
  rw [short, long]
  show (if Identifier.isWord name.toList then _ else _) = _
  rw [if_pos named, String.ofList_toList]

theorem wordValue_int (value : Int32) :
    (wordValue? (toString value.toInt).toList : Option (Expr δ)) =
      some (.literal (.int value)) := by
  rw [wordValue_of_notMem (number_notMem_reserved _), integer_toString]
  show (fitting? Int32.ofInt Int32.toInt value.toInt).map _ = _
  rw [fitting?, Int32.ofInt_toInt, if_pos rfl, Option.map_some]

theorem wordValue_long (value : Int64) :
    (wordValue? (toString value.toInt ++ "L").toList : Option (Expr δ)) =
      some (.literal (.long value)) := by
  have letters : (toString value.toInt ++ "L").toList = (toString value.toInt).toList ++ ['L'] :=
    String.toList_append
  have short : integer? ((toString value.toInt).toList ++ ['L']) = none :=
    integer_eq_none (List.mem_append_right _ List.mem_cons_self) (by decide) (by decide)
  have long : long? ((toString value.toInt).toList ++ ['L']) = some value.toInt := by
    rw [long?, if_pos (by simp), List.dropLast_concat, integer_toString]
  rw [letters, wordValue_of_notMem (toString_notMem_reserved _ _), short, long]
  show (fitting? Int64.ofInt Int64.toInt value.toInt).map _ = _
  rw [fitting?, Int64.ofInt_toInt, if_pos rfl, Option.map_some]

theorem castValue_byte (value : Int8) :
    (castValue? "byte".toList (toString value.toInt).toList : Option (Expr δ)) =
      some (.literal (.byte value)) := by
  rw [castValue?, integer_toString, Option.bind_some, if_pos rfl, fitting?, Int8.ofInt_toInt,
    if_pos rfl, Option.map_some]

theorem castValue_short (value : Int16) :
    (castValue? "short".toList (toString value.toInt).toList : Option (Expr δ)) =
      some (.literal (.short value)) := by
  rw [castValue?, integer_toString, Option.bind_some, if_neg (by decide), if_pos rfl, fitting?,
    Int16.ofInt_toInt, if_pos rfl, Option.map_some]

theorem quotedValue_string (text : String) :
    (quotedValue? '"' (text.toList.flatMap (Literal.escapedChar '"')) : Option (Expr δ)) =
      some (.literal (.string text)) := by
  rw [quotedValue?, Literal.unescape_written (by decide), Option.bind_some, if_pos rfl,
    String.ofList_toList]

theorem quotedValue_char (character : Char) :
    (quotedValue? '\x27' (Literal.escapedChar '\x27' character) : Option (Expr δ)) =
      some (.literal (.char character)) := by
  have written := Literal.unescape_written (show '\x27' ∈ Literal.quotes by decide) [character]
  rw [List.flatMap_singleton] at written
  rw [quotedValue?, written, Option.bind_some, if_neg (by decide)]

/-! ### The reader -/

mutual

/-- Reads a value, and gives back the tokens behind it. -/
def readValue : (fuel : Nat) → List Token → Option (Expr δ × List Token)
  | 0, _ => none
  | fuel + 1, tokens =>
    match tokens with
    | .quoted quote content :: rest => (quotedValue? quote content).map (·, rest)
    | .word letters :: rest =>
      if letters = "new".toList then readNew fuel rest else (wordValue? letters).map (·, rest)
    | .mark opening :: .word kind :: .mark closing :: .word digits :: rest =>
      if opening = '(' ∧ closing = ')' then (castValue? kind digits).map (·, rest) else none
    | _ => none

/-- Reads what stands behind `new`: a list or an anonymous class. -/
def readNew : (fuel : Nat) → List Token → Option (Expr δ × List Token)
  | 0, _ => none
  | fuel + 1, tokens =>
    match tokens with
    | .word name :: rest => do
      let rest ← rest.dropPrefix? [.mark '(', .mark ')', .mark '\x7b']
      match rest.dropPrefix? [.mark '\x7b'] with
      | some rest =>
        if name = "java.util.ArrayList".toList then do
          let (items, rest) ← readItems fuel rest
          let rest ← rest.dropPrefix? [.mark '\x7d', .mark '\x7d']
          some (.list items, rest)
        else none
      | none =>
        if Identifier.isDotted name then do
          let (overrides, rest) ← readOverrides fuel rest
          let rest ← rest.dropPrefix? [.mark '\x7d']
          some (.anonymous (.plain (String.ofList name)) overrides, rest)
        else none
    | _ => none

/-- Reads the statements that add items to a list. -/
def readItems : (fuel : Nat) → List Token → Option (List (Expr δ) × List Token)
  | 0, _ => none
  | fuel + 1, tokens =>
    match tokens.dropPrefix? [.word "add".toList, .mark '('] with
    | none => some ([], tokens)
    | some rest => do
      let (item, rest) ← readValue fuel rest
      let rest ← rest.dropPrefix? [.mark ')', .mark ';']
      let (items, rest) ← readItems fuel rest
      some (item :: items, rest)

/-- Reads the methods of an anonymous class. -/
def readOverrides : (fuel : Nat) → List Token → Option (List (Override δ) × List Token)
  | 0, _ => none
  | fuel + 1, tokens =>
    match tokens with
    | .word opening :: .word returns :: .word name :: rest =>
      if opening = "public".toList ∧ Identifier.isDotted returns ∧ Identifier.isWord name then do
        let rest ← rest.dropPrefix? [.mark '(', .mark ')', .mark '\x7b']
        match rest.dropPrefix? [.word "return".toList] with
        | none => do
          let rest ← rest.dropPrefix? [.mark '\x7d']
          let (others, rest) ← readOverrides fuel rest
          some (.empty (String.ofList name) (.plain (String.ofList returns)) :: others, rest)
        | some rest => do
          let (value, rest) ← readValue fuel rest
          let rest ← rest.dropPrefix? [.mark ';', .mark '\x7d']
          let (others, rest) ← readOverrides fuel rest
          some (.returning (String.ofList name) (.plain (String.ofList returns)) value :: others,
            rest)
      else none
    | _ => some ([], tokens)

end

/-! ### What the reader finds -/

section Forms

variable {fuel : Nat} {between later rest : List Token}

theorem readValue_word {letters : List Char} (free : letters ≠ "new".toList) :
    (readValue (fuel + 1) (.word letters :: rest) : Option (Expr δ × List Token)) =
      (wordValue? letters).map (·, rest) := by
  rw [readValue, if_neg free]

theorem readValue_new :
    (readValue (fuel + 1) (.word "new".toList :: rest) : Option (Expr δ × List Token)) =
      readNew fuel rest := by
  rw [readValue, if_pos rfl]

theorem readNew_list {items : List (Expr δ)}
    (found : readItems fuel between = some (items, .mark '\x7d' :: .mark '\x7d' :: rest)) :
    readNew (fuel + 1) (.word "java.util.ArrayList".toList :: .mark '(' :: .mark ')' ::
      .mark '\x7b' :: .mark '\x7b' :: between) = some (.list items, rest) := by
  simp only [readNew, List.dropPrefix?, beq_self_eq_true, if_true, found, Option.bind_eq_bind,
    Option.bind_some]

theorem readNew_class {name : List Char} {overrides : List (Override δ)}
    (dotted : Identifier.isDotted name) (single : between.head? ≠ some (.mark '\x7b'))
    (found : readOverrides fuel between = some (overrides, .mark '\x7d' :: rest)) :
    readNew (fuel + 1) (.word name :: .mark '(' :: .mark ')' :: .mark '\x7b' :: between) =
      some (.anonymous (.plain (String.ofList name)) overrides, rest) := by
  have closed : between.dropPrefix? [.mark '\x7b'] = none := by
    cases between with
    | nil => rfl
    | cons first others => simpa [List.dropPrefix?] using single
  simp only [readNew, List.dropPrefix?, beq_self_eq_true, if_true, closed, dotted, found,
    Option.bind_eq_bind, Option.bind_some]

theorem readItems_cons {item : Expr δ} {items : List (Expr δ)}
    (first : readValue fuel between = some (item, .mark ')' :: .mark ';' :: later))
    (others : readItems fuel later = some (items, rest)) :
    readItems (fuel + 1) (.word "add".toList :: .mark '(' :: between) =
      some (item :: items, rest) := by
  simp [readItems, List.dropPrefix?, first, others]

theorem readOverrides_empty {name returns : List Char} {overrides : List (Override δ)}
    (named : Identifier.isWord name) (spelled : Identifier.isDotted returns)
    (others : readOverrides fuel later = some (overrides, rest)) :
    readOverrides (fuel + 1) (.word "public".toList :: .word returns :: .word name :: .mark '(' ::
      .mark ')' :: .mark '\x7b' :: .mark '\x7d' :: later) =
        some (.empty (String.ofList name) (.plain (String.ofList returns)) :: overrides, rest) := by
  simp [readOverrides, List.dropPrefix?, named, spelled, others]

theorem readOverrides_returning {name returns : List Char} {value : Expr δ}
    {overrides : List (Override δ)}
    (named : Identifier.isWord name) (spelled : Identifier.isDotted returns)
    (body : readValue fuel between = some (value, .mark ';' :: .mark '\x7d' :: later))
    (others : readOverrides fuel later = some (overrides, rest)) :
    readOverrides (fuel + 1) (.word "public".toList :: .word returns :: .word name :: .mark '(' ::
      .mark ')' :: .mark '\x7b' :: .word "return".toList :: between) =
        some (.returning (String.ofList name) (.plain (String.ofList returns)) value :: overrides,
          rest) := by
  simp [readOverrides, List.dropPrefix?, named, spelled, body, others]

theorem readValue_scalar {scalar : Scalar} (exact : scalar.isExact) :
    (readValue (fuel + 1) (scalar.tokens ++ rest) : Option (Expr δ × List Token)) =
      some (.literal scalar, rest) := by
  cases scalar with
  | null => rfl
  | bool value => cases value <;> rfl
  | byte value =>
    show (castValue? "byte".toList (toString value.toInt).toList).map _ = _
    rw [castValue_byte]
    rfl
  | short value =>
    show (castValue? "short".toList (toString value.toInt).toList).map _ = _
    rw [castValue_short]
    rfl
  | int value =>
    have free := number_notMem_reserved value.toInt
    refine (readValue_word (ne_of_mem_of_not_mem (by decide) free).symm).trans ?_
    rw [wordValue_int]
    rfl
  | long value =>
    have free := toString_notMem_reserved value.toInt "L".toList
    rw [← String.toList_append] at free
    refine (readValue_word (ne_of_mem_of_not_mem (by decide) free).symm).trans ?_
    rw [wordValue_long]
    rfl
  | float bits => cases exact
  | double bits => cases exact
  | char value =>
    show (quotedValue? '\x27' (Literal.escapedChar '\x27' value)).map _ = _
    rw [quotedValue_char]
    rfl
  | string value =>
    show (quotedValue? '"' (value.toList.flatMap (Literal.escapedChar '"'))).map _ = _
    rw [quotedValue_string]
    rfl

/-- No literal begins what an anonymous class is made of. -/
theorem head_overridesTokens (overrides : List (Override δ)) :
    (Expr.overridesTokens overrides ++ .mark '\x7d' :: rest).head? ≠ some (.mark '\x7b') := by
  cases overrides with
  | nil => simp [Expr.overridesTokens]
  | cons first others => cases first <;> simp [Expr.overridesTokens, Expr.methodTokens]

end Forms

open FrozenGraph.Expr

mutual

/-- The reader finds every readable expression, without what is dropped. -/
theorem readValue_tokens : (expression : Expr δ) → expression.isReadable → (fuel : Nat) →
    expression.tokens.length ≤ fuel → (rest : List Token) →
    readValue fuel (expression.tokens ++ rest) = some (expression.bare, rest)
  | .literal value, exact, fuel, enough, rest => by
    obtain ⟨less, rfl⟩ := Nat.exists_eq_succ_of_ne_zero
      (Nat.pos_iff_ne_zero.mp (Nat.lt_of_lt_of_le value.length_tokens_pos enough))
    exact readValue_scalar exact
  | .reference name, named, fuel + 1, enough, rest => by
    have free := Identifier.notMem_reserved named
    show readValue (fuel + 1) (.word name.toList :: rest) = _
    rw [readValue_word (ne_of_mem_of_not_mem (by decide) free).symm, wordValue_name named]
    rfl
  | .anonymous extended overrides, readable, fuel + 2, enough, rest => by
    simp only [isReadable, Bool.and_eq_true] at readable
    have fits : (overridesTokens overrides).length < fuel := by
      simp only [tokens, List.length_append, List.length_cons, List.length_nil] at enough
      omega
    have found := readOverrides_tokens overrides readable.2 fuel fits rest
    have whole := readNew_class readable.1 (head_overridesTokens overrides) found
    simp only [tokens, List.append_assoc, List.cons_append, List.nil_append]
    rw [readValue_new, whole, bare, String.ofList_toList]
  | .list items, readable, fuel + 2, enough, rest => by
    have fits : (additionsTokens items).length < fuel := by
      simp only [tokens, listTokens, List.length_append, List.length_cons, List.length_nil]
        at enough
      omega
    have found := readItems_tokens items readable fuel fits (.mark '\x7d' :: rest)
    simp only [tokens, listTokens, List.append_assoc, List.cons_append, List.nil_append]
    rw [readValue_new, readNew_list found, bare]
  | .ret inner, readable, fuel, enough, rest => readValue_tokens inner readable fuel enough rest
  | .raw _, readable, _, _, _ => nomatch readable
  | .deferred _, readable, _, _, _ => nomatch readable

theorem readItems_tokens : (items : List (Expr δ)) → Expr.areItemsReadable items → (fuel : Nat) →
    (Expr.additionsTokens items).length < fuel → (rest : List Token) →
    readItems fuel (Expr.additionsTokens items ++ .mark '\x7d' :: rest) =
      some (Expr.bareItems items, .mark '\x7d' :: rest)
  | [], _, fuel + 1, enough, rest => rfl
  | item :: others, readable, fuel + 1, enough, rest => by
    simp only [areItemsReadable, Bool.and_eq_true] at readable
    simp only [additionsTokens, List.length_append, List.length_cons, List.length_nil] at enough
    have first := readValue_tokens item readable.1 fuel (by omega)
      (.mark ')' :: .mark ';' :: (additionsTokens others ++ .mark '\x7d' :: rest))
    have later := readItems_tokens others readable.2 fuel (by omega) rest
    simp only [additionsTokens, List.append_assoc, List.cons_append, List.nil_append]
    rw [readItems_cons first later, bareItems]

theorem readOverrides_tokens : (overrides : List (Override δ)) →
    Expr.areOverridesReadable overrides → (fuel : Nat) →
    (Expr.overridesTokens overrides).length < fuel → (rest : List Token) →
    readOverrides fuel (Expr.overridesTokens overrides ++ .mark '\x7d' :: rest) =
      some (Expr.bareOverrides overrides, .mark '\x7d' :: rest)
  | [], _, fuel + 1, enough, rest => rfl
  | .empty name returns :: others, readable, fuel + 1, enough, rest => by
    simp only [areOverridesReadable, Bool.and_eq_true] at readable
    simp only [overridesTokens, methodTokens, List.length_append, List.length_cons,
      List.length_nil] at enough
    have later := readOverrides_tokens others readable.2 fuel (by omega) rest
    simp only [overridesTokens, methodTokens, List.cons_append, List.nil_append]
    rw [readOverrides_empty readable.1.1 readable.1.2 later, bareOverrides, String.ofList_toList,
      String.ofList_toList]
  | .returning name returns value :: others, readable, fuel + 1, enough, rest => by
    simp only [areOverridesReadable, Bool.and_eq_true] at readable
    obtain ⟨⟨⟨named, spelled⟩, inner⟩, more⟩ := readable
    simp only [overridesTokens, methodTokens, List.length_append, List.length_cons,
      List.length_nil] at enough
    have body := readValue_tokens value inner fuel (by omega)
      (.mark ';' :: .mark '\x7d' :: (overridesTokens others ++ .mark '\x7d' :: rest))
    have later := readOverrides_tokens others more fuel (by omega) rest
    simp only [overridesTokens, methodTokens, List.append_assoc, List.cons_append,
      List.nil_append]
    rw [readOverrides_returning named spelled body later, bareOverrides, String.ofList_toList,
      String.ofList_toList]

end

/-! ### Whole texts -/

/-- The value that some tokens say with an ending behind it. -/
def readWhole (ending tokens : List Token) : Option (Expr δ) :=
  (readValue tokens.length tokens).bind fun (value, rest) =>
    if rest = ending then some value else none

/-- The expression that some tokens say: a value, or a statement that returns one. -/
def readSource (tokens : List Token) : Option (Expr δ) :=
  match tokens.dropPrefix? [.word "return".toList] with
  | none => readWhole [] tokens
  | some tokens => (readWhole [.mark ';'] tokens).map .ret

/-- The expression that a text says. -/
def read? (text : List Char) : Option (Expr δ) :=
  (Token.lex text).bind readSource

theorem readWhole_tokens {expression : Expr δ} (readable : expression.isReadable)
    (ending : List Token) :
    readWhole ending (expression.tokens ++ ending) = some expression.bare := by
  have fits : expression.tokens.length ≤ (expression.tokens ++ ending).length := by
    rw [List.length_append]
    exact Nat.le_add_right _ _
  rw [readWhole, readValue_tokens expression readable _ fits, Option.bind_some]
  exact if_pos rfl

end Grammar

end FrozenGraph
