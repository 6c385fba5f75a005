/-
This file cuts source text into tokens: words, punctuation marks, and literals with what is written
between their quotes. Two texts are cut like one text, unless a word runs from one into the other.
White space is only a border of words, so a layout is cut like the text that was laid out: literals
end with their lines, and nothing but spaces is put in front of a line.
-/

import FrozenGraph.Proofs.Indented
import FrozenGraph.Source.LayoutSettings

namespace FrozenGraph

/-- A token of source text. -/
inductive Token where
  | word (letters : List Char)
  | mark (character : Char)
  /-- A literal, with what is written between its quotes. -/
  | quoted (quote : Char) (content : List Char)
deriving DecidableEq, Repr

namespace Token

open Layout Layout.Cursor Unicode

/-! ### Cutting a text -/

/-- Whether a character is white space between tokens. -/
def isGap (character : Char) : Bool :=
  [' ', '\t', '\n', '\r', '\x0c'].contains character

/-- Whether a character is a token of its own. -/
def isMark (character : Char) : Bool :=
  ['(', ')', '\x7b', '\x7d', ';'].contains character

/-- Whether a character can stand in a word. -/
def isLetter (character : Char) : Bool :=
  !(isGap character || isMark character || Literal.quotes.contains character)

/-- Whether a text begins with a letter. -/
def goesOn (text : List Char) : Bool :=
  text.head?.any isLetter

/-- Puts a letter in front of tokens; it may be joined to the word that comes first. -/
def pushLetter (letter : Char) (joined : Bool) : List Token → List Token
  | .word letters :: rest =>
    if joined then .word (letter :: letters) :: rest else .word [letter] :: .word letters :: rest
  | tokens => .word [letter] :: tokens

/-- Puts a character in front of what is written in the literal that comes first. -/
def pushContent (character : Char) : List Token → List Token
  | .quoted quote content :: rest => .quoted quote (character :: content) :: rest
  | tokens => tokens

/-- What a character at a place adds to the tokens behind it; it may be joined to a letter. -/
def adds? (character : Char) (joined : Bool) : Place → Option (List Token → List Token)
  | .code =>
    if isLetter character then some (pushLetter character joined)
    else if isMark character then some (.mark character :: ·)
    else some id
  | .literal quote =>
    if character = '\n' then none
    else if character = quote ∧ character ≠ '\\' then some (.quoted quote [] :: ·)
    else some (pushContent character)
  | .escape _ => if character = '\n' then none else some (pushContent character)

/-- The tokens of a text that begins at a place and ends in code. -/
def lexFrom : Place → List Char → Option (List Token)
  | place, [] => if place = .code then some [] else none
  | place, character :: rest =>
    (adds? character (goesOn rest) place).bind fun add =>
      (lexFrom (place.next character) rest).map add

/-- The tokens of a text. -/
def lex (text : List Char) : Option (List Token) :=
  lexFrom .code text

/-! ### Texts behind each other -/

/-- What a character at a place adds, and how the cut goes on behind it. -/
theorem lexFrom_cons {place : Place} {character : Char} {rest : List Char} {tokens : List Token}
    (cut : lexFrom place (character :: rest) = some tokens) :
    ∃ add later, adds? character (goesOn rest) place = some add ∧
      lexFrom (place.next character) rest = some later ∧ tokens = add later := by
  rw [lexFrom, Option.bind_eq_some_iff] at cut
  obtain ⟨add, added, mapped⟩ := cut
  obtain ⟨later, cut, rfl⟩ := Option.map_eq_some_iff.mp mapped
  exact ⟨add, later, added, cut, rfl⟩

/-- Inside a literal, a character ends it or is part of its content. -/
theorem adds_literal {place : Place} {character : Char} {joined : Bool}
    {add : List Token → List Token} (literal : place ≠ .code)
    (added : adds? character joined place = some add) :
    (∃ quote, add = (.quoted quote [] :: ·)) ∨
      (add = pushContent character ∧ place.next character ≠ .code) := by
  cases place with
  | code => exact absurd rfl literal
  | literal quote =>
    simp only [adds?] at added
    split at added
    · cases added
    · split at added
      · exact .inl ⟨quote, (Option.some.inj added).symm⟩
      · rename_i stays
        refine .inr ⟨(Option.some.inj added).symm, ?_⟩
        simp only [Place.next]
        split
        · simp
        · rename_i plain
          rw [if_neg fun ends => stays ⟨ends, plain⟩]
          simp
  | escape quote =>
    simp only [adds?] at added
    split at added
    · cases added
    · exact .inr ⟨(Option.some.inj added).symm, by simp [Place.next]⟩

/-- What is cut from inside a literal begins with the rest of the literal. -/
theorem quoted_of_lexFrom {place : Place} {text : List Char} {tokens : List Token}
    (literal : place ≠ .code) (cut : lexFrom place text = some tokens) :
    ∃ quote content rest, tokens = .quoted quote content :: rest := by
  induction text generalizing place tokens with
  | nil =>
    rw [lexFrom, if_neg literal] at cut
    cases cut
  | cons character rest inductionHypothesis =>
    obtain ⟨add, later, added, follows, rfl⟩ := lexFrom_cons cut
    rcases adds_literal literal added with ⟨quote, rfl⟩ | ⟨rfl, stays⟩
    · exact ⟨quote, [], later, rfl⟩
    · obtain ⟨quote, content, more, rfl⟩ := inductionHypothesis stays follows
      exact ⟨quote, character :: content, more, rfl⟩

theorem adds_code {character : Char} {joined : Bool} {add : List Token → List Token}
    (added : adds? character joined .code = some add) :
    (isLetter character ∧ add = pushLetter character joined) ∨
      add = (.mark character :: ·) ∨ add = id := by
  simp only [adds?] at added
  split at added
  · rename_i letter
    exact .inl ⟨letter, (Option.some.inj added).symm⟩
  · split at added
    · exact .inr (.inl (Option.some.inj added).symm)
    · exact .inr (.inr (Option.some.inj added).symm)

/-- What is cut where a letter stands begins with a word. -/
theorem word_of_lexFrom {text : List Char} {tokens : List Token} (goes : goesOn text)
    (cut : lexFrom .code text = some tokens) :
    ∃ letters rest, tokens = .word letters :: rest := by
  cases text with
  | nil => cases goes
  | cons character rest =>
    obtain ⟨add, later, added, cut, rfl⟩ := lexFrom_cons cut
    have letter : isLetter character := goes
    rw [adds?, if_pos letter, Option.some_inj] at added
    subst added
    unfold pushLetter
    split
    · split
      · exact ⟨_, _, rfl⟩
      · exact ⟨_, _, rfl⟩
    · exact ⟨_, _, rfl⟩

@[simp] theorem pushLetter_false (letter : Char) (tokens : List Token) :
    pushLetter letter false tokens = .word [letter] :: tokens := by
  unfold pushLetter
  split <;> rfl

/-- A letter is no quote. -/
theorem next_letter {character : Char} (letter : isLetter character) :
    Place.code.next character = .code := by
  rw [Place.next, if_neg]
  rintro (rfl | rfl) <;> cases letter

/-- What a character adds to tokens it adds to tokens with others behind them. -/
theorem adds_append {place : Place} {character : Char} {joined : Bool} {rest : List Char}
    {tokens : List Token} {add : List Token → List Token}
    (added : adds? character joined place = some add) (follows : joined → goesOn rest)
    (cut : lexFrom (place.next character) rest = some tokens) (others : List Token) :
    add (tokens ++ others) = add tokens ++ others := by
  by_cases code : place = .code
  · subst code
    rcases adds_code added with ⟨letter, rfl⟩ | rfl | rfl
    · cases joined with
      | false => simp
      | true =>
        rw [next_letter letter] at cut
        obtain ⟨letters, more, rfl⟩ := word_of_lexFrom (follows rfl) cut
        rfl
    · rfl
    · rfl
  · rcases adds_literal code added with ⟨quote, rfl⟩ | ⟨rfl, stays⟩
    · rfl
    · obtain ⟨quote, content, more, rfl⟩ := quoted_of_lexFrom stays cut
      rfl

/-- Whether a letter is joined matters to letters only. -/
theorem adds_of_not_letter {place : Place} {character : Char}
    (border : place = .code → isLetter character = false) (joined : Bool) :
    adds? character joined place = adds? character false place := by
  cases place with
  | code => simp [adds?, border rfl]
  | literal quote => rfl
  | escape quote => rfl

/-- Whether a text ends with a letter. -/
def endsOn (text : List Char) : Bool :=
  text.getLast?.any isLetter

/-- Two texts behind each other are cut like each of them alone, if no word runs from one into the
other. -/
theorem lexFrom_append {place : Place} {first second : List Char} {tokens : List Token}
    (cut : lexFrom place first = some tokens) (apart : goesOn second → endsOn first = false) :
    lexFrom place (first ++ second) = (lex second).map (tokens ++ ·) := by
  induction first generalizing place tokens with
  | nil =>
    rw [lexFrom] at cut
    split at cut
    · rename_i code
      cases cut
      simp [code, lex]
    · cases cut
  | cons character rest inductionHypothesis =>
    obtain ⟨add, later, added, follows, rfl⟩ := lexFrom_cons cut
    have tail : goesOn second → endsOn rest = false := by
      intro goes
      cases rest with
      | nil => rfl
      | cons next more =>
        have ends := apart goes
        rwa [endsOn, List.getLast?_cons_cons] at ends
    have same : adds? character (goesOn (rest ++ second)) place = some add := by
      cases rest with
      | cons next more => exact added
      | nil =>
        by_cases goes : goesOn second
        · have border : isLetter character = false := apart goes
          rw [adds_of_not_letter fun _ => border] at added ⊢
          exact added
        · rw [List.nil_append, Bool.eq_false_iff.mpr goes]
          exact added
    rw [List.cons_append, lexFrom, same, Option.bind_some, inductionHypothesis follows tail,
      Option.map_map]
    congr 1
    funext others
    exact adds_append added id follows others

theorem lex_append {first second : List Char} {tokens : List Token}
    (cut : lex first = some tokens) (apart : goesOn second → endsOn first = false) :
    lex (first ++ second) = (lex second).map (tokens ++ ·) :=
  lexFrom_append cut apart

section Strings

variable {first second : String} {tokens others : List Token}

/-- No word runs over the end of a text that ends with no letter. -/
theorem lex_append_of_ends (left : lex first.toList = some tokens)
    (border : endsOn first.toList = false) (right : lex second.toList = some others) :
    lex (first ++ second).toList = some (tokens ++ others) := by
  rw [String.toList_append, lex_append left fun _ => border, right, Option.map_some]

/-- No word runs into a text that begins with no letter. -/
theorem lex_append_of_begins (left : lex first.toList = some tokens)
    (border : goesOn second.toList = false) (right : lex second.toList = some others) :
    lex (first ++ second).toList = some (tokens ++ others) := by
  have apart : goesOn second.toList → endsOn first.toList = false := fun goes => by
    rw [border] at goes
    cases goes
  rw [String.toList_append, lex_append left apart, right, Option.map_some]

theorem goesOn_append (filled : first.toList ≠ []) (border : goesOn first.toList = false) :
    goesOn (first ++ second).toList = false := by
  obtain ⟨letter, rest, begins⟩ := List.exists_cons_of_ne_nil filled
  rw [begins] at border
  rw [String.toList_append, begins]
  exact border

theorem endsOn_append (filled : second.toList ≠ []) :
    endsOn (first ++ second).toList = endsOn second.toList := by
  rw [endsOn, endsOn, String.toList_append, List.getLast?_append,
    List.getLast?_eq_some_getLast filled, Option.some_or]

end Strings

/-! ### Words and literals -/

/-- A word is cut as one token. -/
theorem lex_word {letters : List Char} (filled : letters ≠ []) (all : ∀ c ∈ letters, isLetter c) :
    lex letters = some [.word letters] := by
  induction letters with
  | nil => exact absurd rfl filled
  | cons letter rest inductionHypothesis =>
    obtain ⟨own, others⟩ := List.forall_mem_cons.mp all
    rw [lex, lexFrom, next_letter own, adds?, if_pos own, Option.bind_some]
    cases rest with
    | nil => rfl
    | cons next more =>
      have joined : goesOn (next :: more) = true := others next List.mem_cons_self
      have later := inductionHypothesis (List.cons_ne_nil _ _) others
      rw [lex] at later
      rw [later, joined]
      rfl

theorem isLetter_of_isPart {character : Char} (part : Identifier.isPart character) :
    isLetter character := by
  have refused : ∀ other ∈ [' ', '\t', '\n', '\r', '\x0c', '(', ')', '\x7b', '\x7d', ';', '"',
      '\x27'], ¬ Identifier.isPart other := by
    decide
  by_contra border
  refine refused character ?_ part
  simp only [isLetter, isGap, isMark, Literal.quotes, Bool.not_eq_true', Bool.not_eq_false,
    Bool.or_eq_true, List.contains_iff_mem, List.mem_cons, List.not_mem_nil, or_false] at border ⊢
  tauto

section Literals

variable {quote : Char} {tail content : List Char} {more : List Token}

/-- Characters in a literal that do not end it are put in front of its content. -/
theorem lexFrom_plain {text : List Char} (plain : ∀ c ∈ text, c ≠ '\n' ∧ c ≠ '\\' ∧ c ≠ quote)
    (cut : lexFrom (.literal quote) tail = some (.quoted quote content :: more)) :
    lexFrom (.literal quote) (text ++ tail) = some (.quoted quote (text ++ content) :: more) := by
  induction text with
  | nil => exact cut
  | cons character rest inductionHypothesis =>
    obtain ⟨⟨inside, backslash, goes⟩, others⟩ := List.forall_mem_cons.mp plain
    have stays : (Place.literal quote).next character = .literal quote := by
      simp [Place.next, backslash, goes]
    rw [List.cons_append, lexFrom, stays, inductionHypothesis others]
    simp [adds?, inside, goes, pushContent]

/-- So are a backslash and the character behind it. -/
theorem lexFrom_escape {mark : Char} (inside : mark ≠ '\n')
    (cut : lexFrom (.literal quote) tail = some (.quoted quote content :: more)) :
    lexFrom (.literal quote) ('\\' :: mark :: tail) =
      some (.quoted quote ('\\' :: mark :: content) :: more) := by
  have begins : (Place.literal quote).next '\\' = .escape quote := rfl
  have ends : (Place.escape quote).next mark = .literal quote := rfl
  rw [lexFrom, begins, lexFrom, ends, cut]
  simp [adds?, inside, pushContent]

theorem lexFrom_escapedChar (quoted : quote ∈ Literal.quotes) (character : Char)
    (cut : lexFrom (.literal quote) tail = some (.quoted quote content :: more)) :
    lexFrom (.literal quote) (Literal.escapedChar quote character ++ tail) =
      some (.quoted quote (Literal.escapedChar quote character ++ content) :: more) := by
  have written := Literal.written_escapedChar quote character
  generalize Literal.escapedChar quote character = text at written
  cases written with
  | marked known => exact lexFrom_escape (Literal.ne_newline_of_marks quoted known) cut
  | coded control =>
    exact lexFrom_escape (by decide)
      (lexFrom_plain (Literal.plain_hex4 quoted (Literal.lt_of_isControl control)) cut)
  | plain inside backslash goes =>
    exact lexFrom_plain (by simpa using ⟨inside, backslash, goes⟩) cut

/-- A quoted text is cut as one token, whatever it says. -/
theorem lex_quotedText (quoted : quote ∈ Literal.quotes) (text : List Char) :
    lex (Literal.quotedText quote text).toList =
      some [.quoted quote (text.flatMap (Literal.escapedChar quote))] := by
  have everyQuote : ∀ quote ∈ Literal.quotes, isLetter quote = false ∧ isMark quote = false ∧
      Place.code.next quote = .literal quote ∧ (Place.literal quote).next quote = .code ∧
        quote ≠ '\n' ∧ quote ≠ '\\' := by
    decide
  obtain ⟨letter, mark, opens, closes, inside, backslash⟩ := everyQuote quote quoted
  have written : lexFrom (.literal quote)
      (text.flatMap (Literal.escapedChar quote) ++ [quote]) =
        some [.quoted quote (text.flatMap (Literal.escapedChar quote))] := by
    induction text with
    | nil => simp [lexFrom, adds?, inside, backslash, closes]
    | cons character rest inductionHypothesis =>
      rw [List.flatMap_cons, List.append_assoc]
      exact lexFrom_escapedChar quoted character inductionHypothesis
  rw [Literal.quotedText, String.toList_ofList, List.cons_append, lex, lexFrom, opens, written]
  simp [adds?, letter, mark]

end Literals

/-! ### Layouts -/

section Layouts

variable {first second : List Char}

/-- What follows a line matters by its tokens only. -/
theorem lexFrom_congr {place : Place} {line : List Char} (same : lex first = lex second)
    (ends : line.foldl Place.next place = .code) :
    lexFrom place (line ++ '\n' :: first) = lexFrom place (line ++ '\n' :: second) := by
  induction line generalizing place with
  | nil =>
    have code : place = .code := ends
    subst code
    rw [lex, lex] at same
    show Option.map id (lexFrom .code first) = Option.map id (lexFrom .code second)
    rw [same]
  | cons character rest inductionHypothesis =>
    have joined : goesOn (rest ++ '\n' :: first) = goesOn (rest ++ '\n' :: second) := by
      cases rest <;> rfl
    rw [List.cons_append, List.cons_append, lexFrom, lexFrom, joined, inductionHypothesis ends]

theorem lex_spaces_append {spaces : List Char} (blank : ∀ c ∈ spaces, c = ' ') (text : List Char) :
    lex (spaces ++ text) = lex text := by
  induction spaces with
  | nil => rfl
  | cons character rest inductionHypothesis =>
    obtain ⟨rfl, others⟩ := List.forall_mem_cons.mp blank
    show Option.map id (lex (rest ++ text)) = lex text
    rw [Option.map_id, inductionHypothesis others, id]

/-- Indentation does not change the tokens of lines that a cursor can run over. -/
theorem lex_indentLines (options : Options) {depth after : Nat} {lines : List (List Char)}
    (runs : Runs depth lines after) (level : Nat) :
    lex (joinLines (indentLines options.unit level (lines.map trim))) = lex (joinLines lines) := by
  induction runs generalizing level with
  | @last _ _ line _ scanned =>
    obtain ⟨_, _, front, whole, gap⟩ := scan_trim scanned
    obtain ⟨spaces, written, blank⟩ := indentLine_eq options level (trim line)
    show lex (indentLine options.unit level (trim line)) = lex line
    rw [written, lex_spaces_append blank]
    conv_rhs => rw [whole, lex_spaces_append gap]
  | @next _ _ _ line rest single scanned later inductionHypothesis =>
    obtain ⟨_, trimmed, front, whole, gap⟩ := scan_trim scanned
    obtain ⟨spaces, written, blank⟩ := indentLine_eq options level (trim line)
    have ends := (scan_line (fun member => single (mem_of_mem_trim member)) trimmed).1
    rw [List.map_cons, indentLines, joinLines_cons (later.indented options _).ne_nil,
      joinLines_cons later.ne_nil, written, List.append_assoc, lex_spaces_append blank]
    conv_rhs => rw [whole, List.append_assoc, lex_spaces_append gap]
    exact lexFrom_congr (inductionHypothesis _) ends

/-- A layout has the tokens of the text. -/
theorem lex_formatChars (options : Options) {text : List Char} (closed : Closed text) :
    lex (formatChars options text) = lex text := by
  have runs : Runs 0 (splitLines text) 0 := .of_text (closed.scanned 0)
  rw [← joinLines_splitLines (formatChars options text),
    splitLines_formatChars options text closed.solid, lex_indentLines options runs,
    joinLines_splitLines]

end Layouts

end Token

end FrozenGraph
