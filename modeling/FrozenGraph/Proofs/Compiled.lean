/-
This file reads quoted literals as a compiler of the target language does. The text becomes a
sequence of UTF-16 code units first, and escapes of single units are translated on the way: a
backslash begins one if the run of backslashes in front of it is even and a `u` follows. Only then
is the literal cut at its quotes and are the escape sequences in it replaced. The two passes do not
get in each other's way: every character is written so that it leaves the run of backslashes even,
and no escape of the first pass puts a quote, a backslash or a line end into the second one.
-/

import FrozenGraph.Proofs.Parsed

namespace FrozenGraph

/-! ### Code units -/

namespace Utf16

/-- The code units of a character: one of them, or a pair of surrogates. -/
def units (character : Char) : List Nat :=
  if character.toNat < 0x10000 then [character.toNat]
  else [0xD800 + (character.toNat - 0x10000) / 0x400, 0xDC00 + (character.toNat - 0x10000) % 0x400]

/-- The code units of a text. -/
def encode (text : List Char) : List Nat :=
  text.flatMap units

/-- Whether a unit is the first one of a pair. -/
def isHigh (unit : Nat) : Bool :=
  0xD800 ≤ unit && unit < 0xDC00

/-- Whether a unit is the second one of a pair. -/
def isLow (unit : Nat) : Bool :=
  0xDC00 ≤ unit && unit < 0xE000

/-- The text of a sequence of code units, in which no surrogate may stand alone. -/
def decode? : List Nat → Option (List Char)
  | [] => some []
  | [unit] => if isHigh unit || isLow unit then none else some [Char.ofNat unit]
  | first :: second :: rest =>
    if isHigh first then
      if isLow second then
        (decode? rest).map
          (Char.ofNat (0x10000 + (first - 0xD800) * 0x400 + (second - 0xDC00)) :: ·)
      else none
    else if isLow first then none
    else (decode? (second :: rest)).map (Char.ofNat first :: ·)

/-- A unit that is no surrogate is a character. -/
theorem decode_cons {unit : Nat} (single : (isHigh unit || isLow unit) = false) (rest : List Nat) :
    decode? (unit :: rest) = (decode? rest).map (Char.ofNat unit :: ·) := by
  cases rest with
  | nil =>
    show (if isHigh unit || isLow unit then none else some [Char.ofNat unit]) = _
    rw [single]
    rfl
  | cons second rest =>
    obtain ⟨high, low⟩ := Bool.or_eq_false_iff.mp single
    rw [decode?, high, low]
    rfl

theorem decode_units (character : Char) (rest : List Nat) :
    decode? (units character ++ rest) = (decode? rest).map (character :: ·) := by
  have valid : character.toNat < 0xD800 ∨ 0xDFFF < character.toNat ∧ character.toNat < 0x110000 :=
    character.valid
  rw [units]
  split
  · have single : (isHigh character.toNat || isLow character.toNat) = false := by
      simp only [isHigh, isLow, Bool.or_eq_false_iff, Bool.and_eq_false_iff,
        decide_eq_false_iff_not]
      omega
    rw [List.cons_append, List.nil_append, decode_cons single, Char.ofNat_toNat]
  · rename_i large
    have high : isHigh (0xD800 + (character.toNat - 0x10000) / 0x400) := by
      simp only [isHigh, Bool.and_eq_true, decide_eq_true_eq]
      omega
    have low : isLow (0xDC00 + (character.toNat - 0x10000) % 0x400) := by
      simp only [isLow, Bool.and_eq_true, decide_eq_true_eq]
      omega
    have whole : 0x10000 + (0xD800 + (character.toNat - 0x10000) / 0x400 - 0xD800) * 0x400 +
        (0xDC00 + (character.toNat - 0x10000) % 0x400 - 0xDC00) = character.toNat := by
      omega
    rw [List.cons_append, List.cons_append, List.nil_append, decode?, if_pos high, if_pos low,
      whole, Char.ofNat_toNat]

/-- Every text is found again from its code units. -/
theorem decode_encode (text : List Char) : decode? (encode text) = some text := by
  induction text with
  | nil => rfl
  | cons character rest inductionHypothesis =>
    rw [encode, List.flatMap_cons, decode_units]
    rw [encode] at inductionHypothesis
    rw [inductionHypothesis, Option.map_some]

end Utf16

namespace Literal

open Utf16

/-! ### The first pass: escapes of code units -/

/-- Where the first pass stands in a text. -/
inductive Pass where
  /-- Behind so many backslashes in a row. -/
  | text (backslashes : Nat)
  /-- Behind a backslash that begins an escape. -/
  | begun
  /-- Behind hexadecimal digits of some value, in front of one more and so many behind it. -/
  | digits (value more : Nat)
deriving DecidableEq, Repr

/-- The code units of a text, its escapes translated; an escape has any number of `u` and then four
hexadecimal digits. -/
def translate? : Pass → List Char → Option (List Nat)
  | .text _, [] => some []
  | .text backslashes, character :: rest =>
    if character = '\\' ∧ backslashes % 2 = 0 ∧ rest.head? = some 'u' then translate? .begun rest
    else
      (translate? (.text (if character = '\\' then backslashes + 1 else 0)) rest).map
        (units character ++ ·)
  | .begun, character :: rest =>
    if character = 'u' then translate? .begun rest
    else (Layout.Options.hexDigit? character).bind fun digit => translate? (.digits digit 2) rest
  | .digits value more, character :: rest =>
    (Layout.Options.hexDigit? character).bind fun digit =>
      match more with
      | 0 => (translate? (.text 0) rest).map ((16 * value + digit) :: ·)
      | more + 1 => translate? (.digits (16 * value + digit) more) rest
  | .begun, [] | .digits .., [] => none

/-! ### The second pass: quotes and escape sequences -/

/-- Where the second pass stands in a literal. -/
inductive Spot where
  | inside
  /-- Behind a backslash. -/
  | escape
  /-- Behind a backslash and octal digits of some value, when so many more can belong to them. -/
  | octal (value more : Nat)
  | closed
deriving DecidableEq, Repr

/-- What a letter behind a backslash stands for. -/
def sequences : List (Char × Char) :=
  [('b', '\x08'), ('s', ' '), ('t', '\t'), ('n', '\n'), ('f', '\x0c'), ('r', '\r'), ('"', '"'),
    ('\x27', '\x27'), ('\\', '\\')]

/-- The value of an octal digit. -/
def octalDigit? (unit : Nat) : Option Nat :=
  if '0'.toNat ≤ unit ∧ unit ≤ '7'.toNat then some (unit - '0'.toNat) else none

/-- What a unit that belongs to no escape sequence adds to the literal, and where it leads. A line
end is no part of a literal. -/
def plainStep (quote : Char) (unit : Nat) : Option (List Nat × Spot) :=
  if unit = quote.toNat then some ([], .closed)
  else if unit = '\n'.toNat ∨ unit = '\r'.toNat then none
  else if unit = '\\'.toNat then some ([], .escape)
  else some ([unit], .inside)

/-- What a unit adds to the literal, and where it leads. -/
def step (quote : Char) (unit : Nat) : Spot → Option (List Nat × Spot)
  | .inside => plainStep quote unit
  | .escape =>
    match sequences.find? (·.1.toNat == unit) with
    | some (_, meant) => some ([meant.toNat], .inside)
    | none => (octalDigit? unit).map fun digit => ([], .octal digit (if digit < 4 then 2 else 1))
  | .octal value more =>
    match octalDigit? unit, more with
    | some digit, more + 1 => some ([], .octal (8 * value + digit) more)
    | _, _ => (plainStep quote unit).map fun (added, spot) => (value :: added, spot)
  | .closed => none

/-- What a literal says from some spot on, if it ends where the text does. -/
def content? (quote : Char) : Spot → List Nat → Option (List Nat)
  | .closed, [] => some []
  | .inside, [] | .escape, [] | .octal .., [] => none
  | spot, unit :: rest =>
    (step quote unit spot).bind fun (added, next) => (content? quote next rest).map (added ++ ·)

/-- What a text says that is one literal in quotes of the given kind. -/
def compile? (quote : Char) (source : String) : Option (List Char) :=
  (translate? (.text 0) source.toList).bind fun translated =>
    match translated with
    | [] => none
    | first :: rest =>
      if first = quote.toNat then (content? quote .inside rest).bind decode? else none

/-! ### Characters that are written -/

variable {quote character : Char}

/-- A control character is written behind a backslash. -/
theorem escapedChar_of_isControl (control : isControl character) :
    ∃ rest, escapedChar quote character = '\\' :: rest := by
  rw [escapedChar]
  split
  · exact ⟨_, rfl⟩
  split
  · exact ⟨_, rfl⟩
  split
  · exact ⟨_, rfl⟩
  split
  · exact ⟨_, rfl⟩
  split
  · exact ⟨_, rfl⟩
  · exact ⟨_, rfl⟩

/-- What is written as it is, is no control character. -/
theorem bright_of_plain (plain : escapedChar quote character = [character]) :
    isControl character = false := by
  cases control : isControl character with
  | false => rfl
  | true =>
    obtain ⟨rest, escaped⟩ : ∃ rest, escapedChar quote character = '\\' :: rest :=
      escapedChar_of_isControl control
    rw [plain] at escaped
    obtain ⟨rfl, -⟩ := List.cons.inj escaped
    cases control

/-- What is written by its code ends no line. -/
theorem unbroken_of_coded {rest : List Char}
    (coded : escapedChar quote character = '\\' :: 'u' :: rest) :
    character ≠ '\n' ∧ character ≠ '\r' := by
  constructor
  · rintro rfl
    cases coded
  · rintro rfl
    cases coded

/-- No control character is written into a literal. -/
theorem bright_of_mem_escapedChar (quoted : quote ∈ quotes) {c : Char}
    (member : c ∈ escapedChar quote character) : isControl c = false := by
  have written := written_escapedChar quote character
  generalize same : escapedChar quote character = text at written member
  cases written with
  | marked known =>
    have every : ∀ quote ∈ quotes, ∀ pair ∈ marks quote, ∀ c ∈ ['\\', pair.1],
        isControl c = false := by
      decide
    exact every quote quoted _ known c member
  | coded control =>
    have every : ∀ number < 0xA0, ∀ c ∈ '\\' :: 'u' :: Text.hex4 number, isControl c = false := by
      decide +kernel
    exact every _ (lt_of_isControl control) c member
  | plain =>
    rw [List.mem_singleton.mp member]
    exact bright_of_plain same

/-! ### Both passes over what is written -/

/-- The first pass goes on behind a character that begins no escape. -/
theorem translate_cons {backslashes : Nat} {rest : List Char}
    (plain : character = '\\' → backslashes % 2 = 0 → rest.head? ≠ some 'u') :
    translate? (.text backslashes) (character :: rest) =
      (translate? (.text (if character = '\\' then backslashes + 1 else 0)) rest).map
        (units character ++ ·) := by
  rw [translate?, if_neg fun ⟨own, even, marked⟩ => plain own even marked]

/-- The first pass reads the four digits of an escape, and counts backslashes anew behind them. -/
theorem translate_code {a b c d : Char} {number : Nat}
    (value : Layout.Options.hexValue? [a, b, c, d] = some number) (rest : List Char) :
    translate? .begun (a :: b :: c :: d :: rest) =
      (translate? (.text 0) rest).map (number :: ·) := by
  simp only [Layout.Options.hexValue?, List.foldlM, Option.bind_eq_bind, Option.pure_def,
    Option.bind_eq_some_iff, Option.map_eq_some_iff] at value
  obtain ⟨_, ⟨w, one, rfl⟩, _, ⟨x, two, rfl⟩, _, ⟨y, three, rfl⟩, _, ⟨z, four, rfl⟩, value⟩ := value
  rw [Nat.mul_zero, Nat.zero_add, Option.some_inj] at value
  subst value
  have first : a ≠ 'u' := by
    rintro rfl
    cases one
  rw [translate?, if_neg first, one, Option.bind_some, translate?, two, Option.bind_some]
  show translate? (.digits _ 1) _ = _
  rw [translate?, three, Option.bind_some]
  show translate? (.digits _ 0) _ = _
  rw [translate?, four, Option.bind_some]

/-- What a unit adds is put in front of what the rest of a literal says. -/
theorem content_cons {unit : Nat} {spot next : Spot} {added : List Nat}
    (stepped : step quote unit spot = some (added, next)) (rest : List Nat) :
    content? quote spot (unit :: rest) = (content? quote next rest).map (added ++ ·) := by
  rw [content?, stepped, Option.bind_some]

/-- Both passes carry a written text to what it means. The first one leaves an even run of
backslashes, and the second one finds the code units of the meaning, whatever follows. -/
def Carries (quote : Char) (written meant : List Char) : Prop :=
  ∀ backslashes, backslashes % 2 = 0 → ∃ translated after, after % 2 = 0 ∧
    (∀ rest, translate? (.text backslashes) (written ++ rest) =
      (translate? (.text after) rest).map (translated ++ ·)) ∧
    ∀ rest, content? quote .inside (translated ++ rest) =
      (content? quote .inside rest).map (encode meant ++ ·)

theorem Carries.nil : Carries quote [] [] := fun backslashes even =>
  ⟨[], backslashes, even, fun _ => Option.map_id'.symm, fun _ => Option.map_id'.symm⟩

theorem Carries.append {first second meant others : List Char} (own : Carries quote first meant)
    (later : Carries quote second others) :
    Carries quote (first ++ second) (meant ++ others) := by
  intro backslashes even
  obtain ⟨front, between, level, translates, reads⟩ := own backslashes even
  obtain ⟨back, after, ends, translates', reads'⟩ := later between level
  refine ⟨front ++ back, after, ends, fun rest => ?_, fun rest => ?_⟩
  · rw [List.append_assoc, translates, translates', Option.map_map]
    simp only [Function.comp_def, List.append_assoc]
  · rw [List.append_assoc, reads, reads', Option.map_map]
    simp only [Function.comp_def, encode, List.flatMap_append, List.append_assoc]

/-- A letter behind a backslash is carried to what it stands for. -/
theorem carries_marked (quoted : quote ∈ quotes) {mark : Char}
    (known : (mark, character) ∈ marks quote) : Carries quote ['\\', mark] [character] := by
  have every : ∀ quote ∈ quotes, ∀ pair ∈ marks quote, pair.1 ≠ 'u' ∧
      units pair.1 = [pair.1.toNat] ∧ units pair.2 = [pair.2.toNat] ∧
      step quote '\\'.toNat .inside = some ([], .escape) ∧
      step quote pair.1.toNat .escape = some ([pair.2.toNat], .inside) := by
    decide
  obtain ⟨other, own, meant, begins, found⟩ := every quote quoted _ known
  intro backslashes even
  -- Behind the first of two backslashes the run is odd, so the second one begins no escape.
  refine ⟨['\\'.toNat, mark.toNat], if mark = '\\' then backslashes + 2 else 0, ?_, fun rest => ?_,
    fun rest => ?_⟩
  · split
    · omega
    · rfl
  · show translate? (.text backslashes) ('\\' :: mark :: rest) = _
    rw [translate_cons fun _ _ => by simpa using other, if_pos rfl,
      translate_cons fun _ odd => by omega, own, Option.map_map]
    rfl
  · show content? quote .inside ('\\'.toNat :: mark.toNat :: rest) = _
    rw [content_cons begins, content_cons found, encode, List.flatMap_singleton, meant,
      Option.map_map]
    rfl

/-- Units of a literal that neither end it nor begin an escape sequence are what they say. -/
theorem content_units (own : character ≠ quote) (backslash : character ≠ '\\')
    (newline : character ≠ '\n') (carriage : character ≠ '\r') (quoted : quote ∈ quotes)
    (rest : List Nat) :
    content? quote .inside (units character ++ rest) =
      (content? quote .inside rest).map (units character ++ ·) := by
  have plain : ∀ unit, unit ≠ quote.toNat → unit ≠ '\n'.toNat → unit ≠ '\r'.toNat →
      unit ≠ '\\'.toNat → step quote unit .inside = some ([unit], .inside) := by
    intro unit own newline carriage backslash
    simp only [step, plainStep, own, newline, carriage, backslash, or_self, if_false]
  have small : ∀ quote ∈ quotes, quote.toNat < 0x80 := by decide
  have ascii := small quote quoted
  rw [units]
  split
  · exact content_cons (plain _ (Char.toNat_inj.not.mpr own) (Char.toNat_inj.not.mpr newline)
      (Char.toNat_inj.not.mpr carriage) (Char.toNat_inj.not.mpr backslash)) rest
  · have surrogate : ∀ unit, 0xD800 ≤ unit → step quote unit .inside = some ([unit], .inside) := by
      intro unit large
      refine plain unit ?_ ?_ ?_ ?_ <;> simp <;> omega
    rw [List.cons_append, List.cons_append, List.nil_append,
      content_cons (surrogate _ (Nat.le_add_right _ _)),
      content_cons (surrogate _ (by omega)), Option.map_map]
    rfl

/-- Every character is carried to itself by the way in which it is written. -/
theorem carries_escapedChar (quoted : quote ∈ quotes) (character : Char) :
    Carries quote (escapedChar quote character) [character] := by
  have written := written_escapedChar quote character
  generalize same : escapedChar quote character = text at written
  cases written with
  | marked known => exact carries_marked quoted known
  | coded control =>
    intro backslashes even
    obtain ⟨newline, carriage⟩ := unbroken_of_coded same
    obtain ⟨a, b, c, d, digits, value⟩ := hex4_eq (lt_of_isControl control)
    have small := lt_of_isControl control
    have single : units character = [character.toNat] := if_pos (by omega)
    refine ⟨units character, 0, rfl, fun rest => ?_, fun rest => ?_⟩
    · rw [digits, single]
      show translate? (.text backslashes) ('\\' :: 'u' :: a :: b :: c :: d :: rest) = _
      rw [translate?, if_pos ⟨rfl, even, rfl⟩, translate?, if_pos rfl, translate_code value]
      rfl
    · have other : ∀ bright : Char, isControl bright = false → character ≠ bright := by
        rintro _ bright rfl
        rw [control] at bright
        cases bright
      have bright : ∀ quote ∈ quotes, isControl quote = false := by decide
      rw [encode, List.flatMap_singleton]
      exact content_units (other quote (bright quote quoted)) (other '\\' rfl) newline carriage
        quoted rest
  | plain inside backslash goes =>
    intro backslashes even
    have bright := bright_of_plain same
    refine ⟨units character, 0, rfl, fun rest => ?_, fun rest => ?_⟩
    · show translate? (.text backslashes) (character :: rest) = _
      rw [translate_cons fun own => absurd own backslash, if_neg backslash]
    · rw [encode, List.flatMap_singleton]
      refine content_units goes backslash inside ?_ quoted rest
      rintro rfl
      cases bright

theorem carries_text (quoted : quote ∈ quotes) (text : List Char) :
    Carries quote (text.flatMap (escapedChar quote)) text := by
  induction text with
  | nil => exact .nil
  | cons character rest inductionHypothesis =>
    exact (carries_escapedChar quoted character).append inductionHypothesis

/-- A quoted text is one literal that says the text. -/
theorem compile_quotedText (quoted : quote ∈ quotes) (text : List Char) :
    compile? quote (quotedText quote text) = some text := by
  have every : ∀ quote ∈ quotes, quote ≠ '\\' ∧ units quote = [quote.toNat] ∧
      step quote quote.toNat .inside = some ([], .closed) := by
    decide
  obtain ⟨other, single, closes⟩ := every quote quoted
  obtain ⟨translated, after, _, translates, reads⟩ := carries_text quoted text 0 rfl
  have opened : translate? (.text 0) (quotedText quote text).toList =
      some (quote.toNat :: (translated ++ [quote.toNat])) := by
    rw [quotedText, String.toList_ofList, List.cons_append,
      translate_cons fun own => absurd own other, if_neg other, translates,
      translate_cons fun own => absurd own other, single]
    rfl
  have closed : content? quote .inside [quote.toNat] = some [] := by
    rw [content_cons closes]
    rfl
  rw [compile?, opened, Option.bind_some]
  show (if quote.toNat = quote.toNat then _ else _) = _
  rw [if_pos rfl, reads, closed, Option.map_some, List.append_nil, Option.bind_some, decode_encode]

theorem bright_quotedText (quoted : quote ∈ quotes) (text : List Char) :
    (quotedText quote text).toList.any isControl = false := by
  have bright : ∀ quote ∈ quotes, isControl quote = false := by decide
  refine List.any_eq_false.mpr fun c member => ne_true_of_eq_false ?_
  rw [quotedText, String.toList_ofList, List.cons_append, List.mem_cons, List.mem_append,
    List.mem_flatMap, List.mem_singleton] at member
  rcases member with rfl | ⟨_, _, inside⟩ | rfl
  · exact bright c quoted
  · exact bright_of_mem_escapedChar quoted inside
  · exact bright c quoted

theorem splitLines_quotedText (quoted : quote ∈ quotes) (text : List Char) :
    Layout.splitLines (quotedText quote text).toList = [(quotedText quote text).toList] := by
  refine Layout.splitLines_of_notMem _ fun inside => ?_
  exact List.any_eq_false.mp (bright_quotedText quoted text) '\n' inside (by decide)

end Literal

/-- The literal of a string or of a character is one literal on one line, without control
characters, and a compiler finds in it exactly what was written. -/
theorem Scalar.compile_source :
    (∀ text : String, Literal.compile? '"' (string text).source = some text.toList ∧
      Layout.splitLines (string text).source.toList = [(string text).source.toList] ∧
      (string text).source.toList.any Literal.isControl = false) ∧
    ∀ character : Char, Literal.compile? '\x27' (char character).source = some [character] ∧
      Layout.splitLines (char character).source.toList = [(char character).source.toList] ∧
      (char character).source.toList.any Literal.isControl = false := by
  have double : '"' ∈ Literal.quotes := by decide
  have single : '\x27' ∈ Literal.quotes := by decide
  refine ⟨fun text => ⟨Literal.compile_quotedText double text.toList, ?_, ?_⟩,
    fun character => ⟨Literal.compile_quotedText single [character], ?_, ?_⟩⟩
  · exact Literal.splitLines_quotedText double text.toList
  · exact Literal.bright_quotedText double text.toList
  · exact Literal.splitLines_quotedText single [character]
  · exact Literal.bright_quotedText single [character]

-- Behind two backslashes an escape begins, behind one it does not.
example : Literal.compile? '"' "\"\\\\\\u0001\\\\u0001\"" = some "\\\x01\\u0001".toList := by
  decide

-- A line end may not be written by its code.
example : Literal.compile? '"' "\"\\u000a\"" = none := by
  decide

end FrozenGraph
