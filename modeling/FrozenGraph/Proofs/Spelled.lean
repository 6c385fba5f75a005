/-
This file brings expressions into the form in which their source text tells them apart: what is
dropped when they are printed is dropped, and a type is its name in the text. It says which
expressions are readable, and shows that the text of a readable expression has exactly the tokens
that its structure says, whatever is written in its strings.
-/

import FrozenGraph.Proofs.Lexed

namespace FrozenGraph

/-! ### Types by their names in source text -/

namespace TypeName

/-- A name in source text, from the name without type arguments. -/
def shorten (qualified : List Char) : String :=
  if implicitPackage.isPrefixOf qualified then
    let simple := qualified.drop implicitPackage.length
    if simple.contains '.' then String.ofList qualified else String.ofList simple
  else String.ofList qualified

theorem source_eq_shorten (name : TypeName) : name.source = shorten name.erased.text.toList :=
  rfl

/-- A trimmed name without type arguments is erased already. -/
theorem source_ofList {text : List Char} (bare : '<' ∉ text) (trimmed : Unicode.trim text = text) :
    (TypeName.mk (String.ofList text)).source = shorten text := by
  have head : text.takeWhile (· ≠ '<') = text :=
    List.takeWhile_eq_self_iff.mpr fun c member =>
      decide_eq_true (ne_of_mem_of_not_mem member bare)
  rw [source_eq_shorten, erased, TypeName.head, String.toList_ofList, String.toList_ofList, head,
    trimmed]

theorem erased_bare (name : TypeName) : '<' ∉ name.erased.text.toList := by
  intro member
  rw [erased, String.toList_ofList] at member
  simpa using List.mem_takeWhile_imp (Unicode.mem_of_mem_trim member)

theorem erased_trimmed (name : TypeName) :
    Unicode.trim name.erased.text.toList = name.erased.text.toList := by
  rw [erased, String.toList_ofList, Unicode.trim_trim]

end TypeName

/-- A trimmed text ends with no white space. -/
theorem Unicode.getLast_of_trimmed {text : List Char} {last : Char}
    (trimmed : trim text = text) (ends : text.getLast? = some last) : isBlank last = false := by
  have whole : (text.dropWhile isBlank).rdropWhile isBlank = text := trimmed
  have filled : (text.dropWhile isBlank).rdropWhile isBlank ≠ [] := by
    rw [whole]
    rintro rfl
    cases ends
  have dark := List.rdropWhile_last_not isBlank _ filled
  rw [← whole, List.getLast?_eq_some_getLast filled, Option.some_inj] at ends
  rwa [ends, Bool.not_eq_true] at dark

namespace Identifier

/-- The first character of an identifier is no white space. -/
theorem dark_of_begins {character : Char} (first : begins character) :
    Unicode.isBlank character = false := by
  have every : ∀ code < 123, 65 ≤ code → Unicode.isBlank (Char.ofNat code) = false := by decide
  simp only [begins, Bool.or_eq_true, Bool.and_eq_true, decide_eq_true_eq,
    Bool.not_eq_true'] at first
  rcases first with ((letter | rfl) | rfl) | ⟨_, dark⟩
  · have range : (decide ('A'.val ≤ character.val ∧ character.val ≤ 'Z'.val) ||
        (decide ('a'.val ≤ character.val) && decide (character.val ≤ 'z'.val))) = true := letter
    simp only [Bool.or_eq_true, Bool.and_eq_true, decide_eq_true_eq, UInt32.le_iff_toNat_le,
      Char.reduceVal, UInt32.reduceToNat, Char.toNat_val] at range
    rw [← Char.ofNat_toNat character]
    exact every _ (by omega) (by omega)
  · decide
  · decide
  · exact dark

/-- An identifier at the end of a trimmed text is trimmed. -/
theorem trim_of_isWord {text front : List Char} (named : isWord text)
    (trimmed : Unicode.trim (front ++ text) = front ++ text) : Unicode.trim text = text := by
  cases text with
  | nil => rfl
  | cons first rest =>
    simp only [isWord, Bool.and_eq_true] at named
    obtain ⟨last, ends⟩ : ∃ last, (first :: rest).getLast? = some last :=
      ⟨_, List.getLast?_eq_some_getLast (List.cons_ne_nil _ _)⟩
    have dark : Unicode.isBlank last = false :=
      Unicode.getLast_of_trimmed trimmed (by rw [List.getLast?_append, ends, Option.some_or])
    rw [Layout.trim_eq_of_getLast _ last ends dark,
      List.dropWhile_cons_of_neg (by simp [dark_of_begins named.1.1])]

end Identifier

/-- The type with the name that a type has in source text has the same name there. -/
theorem DeclaredType.source_plain_source {declared : DeclaredType}
    (spelled : Identifier.isDotted declared.source.toList) :
    (plain declared.source).source = declared.source := by
  cases declared with
  | void => decide
  | primitive kind => cases kind <;> decide
  | named name arguments =>
    show (TypeName.mk name.source).source = name.source
    have bare := name.erased_bare
    have trimmed := name.erased_trimmed
    change Identifier.isDotted name.source.toList at spelled
    rw [TypeName.source_eq_shorten name] at spelled ⊢
    generalize name.erased.text.toList = text at bare trimmed spelled ⊢
    by_cases implicit : TypeName.implicitPackage.isPrefixOf text
    · obtain ⟨rest, rfl⟩ := List.isPrefixOf_iff_prefix.mp implicit
      by_cases simple : '.' ∈ rest
      · have whole : TypeName.shorten (TypeName.implicitPackage ++ rest) =
            String.ofList (TypeName.implicitPackage ++ rest) := by
          simp [TypeName.shorten, simple]
        rw [whole, TypeName.source_ofList bare trimmed, whole]
      · -- What is left of the name has no dots, so nothing more is taken from it.
        have shortened : TypeName.shorten (TypeName.implicitPackage ++ rest) =
            String.ofList rest := by
          simp [TypeName.shorten, simple]
        rw [shortened, String.toList_ofList, Identifier.isDotted,
          List.splitOn_eq_singleton simple] at spelled
        have named : Identifier.isWord rest := by simpa using spelled
        have kept : TypeName.shorten rest = String.ofList rest := by
          rw [TypeName.shorten, if_neg]
          intro front
          obtain ⟨more, rfl⟩ := List.isPrefixOf_iff_prefix.mp front
          exact simple (List.mem_append_left _ (by decide))
        rw [shortened, TypeName.source_ofList (fun member => bare (List.mem_append_right _ member))
          (Identifier.trim_of_isWord named trimmed), kept]
    · have whole : TypeName.shorten text = String.ofList text := by
        rw [TypeName.shorten, if_neg implicit]
      rw [whole, TypeName.source_ofList bare trimmed, whole]

/-! ### What is dropped and what is readable -/

/-- Whether a scalar is no floating-point number. -/
def Scalar.isExact : Scalar → Bool
  | .float _ | .double _ => false
  | _ => true

namespace Expr

variable {δ : Type}

mutual

/-- An expression where a value stands, without what is dropped there: it has no `return` wrappers,
and a type is its name in source text. -/
def bare : Expr δ → Expr δ
  | .literal value => .literal value
  | .reference name => .reference name
  | .raw text => .raw text
  | .anonymous extended overrides => .anonymous (.plain extended.source) (bareOverrides overrides)
  | .list items => .list (bareItems items)
  | .ret inner => inner.bare
  | .deferred statement => .deferred statement

/-- The methods of an anonymous class without what is dropped. -/
def bareOverrides : List (Override δ) → List (Override δ)
  | [] => []
  | .empty name returns :: rest => .empty name (.plain returns.source) :: bareOverrides rest
  | .returning name returns value :: rest =>
    .returning name (.plain returns.source) value.bare :: bareOverrides rest

/-- The items of a list without what is dropped. -/
def bareItems : List (Expr δ) → List (Expr δ)
  | [] => []
  | item :: rest => item.bare :: bareItems rest

end

/-- A whole expression without what is dropped: of the `return` wrappers around it one is kept. -/
def normal (expression : Expr δ) : Expr δ :=
  if expression.isReturn then .ret expression.bare else expression.bare

mutual

/-- Whether an expression can be read back from its source text: it has no floating-point numbers
and no text of its own, and all its names are identifiers or made of them. -/
def isReadable : Expr δ → Bool
  | .literal value => value.isExact
  | .reference name => Identifier.isWord name.toList
  | .anonymous extended overrides =>
    Identifier.isDotted extended.source.toList && areOverridesReadable overrides
  | .list items => areItemsReadable items
  | .ret inner => inner.isReadable
  | .raw _ | .deferred _ => false

/-- Whether the methods of an anonymous class can be read back. -/
def areOverridesReadable : List (Override δ) → Bool
  | [] => true
  | .empty name returns :: rest =>
    Identifier.isWord name.toList && Identifier.isDotted returns.source.toList &&
      areOverridesReadable rest
  | .returning name returns value :: rest =>
    Identifier.isWord name.toList && Identifier.isDotted returns.source.toList &&
      value.isReadable && areOverridesReadable rest

/-- Whether the items of a list can be read back. -/
def areItemsReadable : List (Expr δ) → Bool
  | [] => true
  | item :: rest => item.isReadable && areItemsReadable rest

end

section Texts

variable (finished : δ → String)

mutual

/-- What is dropped is not printed. -/
theorem text_bare : (expression : Expr δ) → expression.isReadable →
    expression.bare.text finished = expression.text finished
  | .literal _, _ => rfl
  | .reference _, _ => rfl
  | .anonymous extended overrides, readable => by
    simp only [isReadable, Bool.and_eq_true] at readable
    rw [bare, text_anonymous, text_anonymous, DeclaredType.source_plain_source readable.1,
      overridesText_bare overrides readable.2]
  | .list items, readable => by
    rw [bare, text_list, text_list, additionsText_bare items readable]
  | .ret inner, readable => text_bare inner readable
  | .raw _, readable => nomatch readable
  | .deferred _, readable => nomatch readable

theorem overridesText_bare : (overrides : List (Override δ)) → areOverridesReadable overrides →
    overridesText finished (bareOverrides overrides) = overridesText finished overrides
  | [], _ => rfl
  | .empty name returns :: rest, readable => by
    simp only [areOverridesReadable, Bool.and_eq_true] at readable
    rw [bareOverrides, overridesText_empty, overridesText_empty, methodOpening, methodOpening,
      DeclaredType.source_plain_source readable.1.2, overridesText_bare rest readable.2]
  | .returning name returns value :: rest, readable => by
    simp only [areOverridesReadable, Bool.and_eq_true] at readable
    rw [bareOverrides, overridesText_returning, overridesText_returning, methodOpening,
      methodOpening, DeclaredType.source_plain_source readable.1.1.2,
      text_bare value readable.1.2, overridesText_bare rest readable.2]

theorem additionsText_bare : (items : List (Expr δ)) → areItemsReadable items →
    additionsText finished (bareItems items) = additionsText finished items
  | [], _ => rfl
  | item :: rest, readable => by
    simp only [areItemsReadable, Bool.and_eq_true] at readable
    rw [bareItems, additionsText_cons, additionsText_cons, text_bare item readable.1,
      additionsText_bare rest readable.2]

end

end Texts

end Expr

/-! ### The tokens of an expression -/

namespace Token

theorem lex_name {name : String} (named : Identifier.isWord name.toList) :
    lex name.toList = some [.word name.toList] := by
  refine lex_word ?_ fun c member => isLetter_of_isPart ?_
  · intro empty
    rw [empty] at named
    cases named
  · rw [Identifier.isPart, Identifier.continues_of_mem named c member, Bool.true_or]

theorem lex_dotted {name : String} (dotted : Identifier.isDotted name.toList) :
    lex name.toList = some [.word name.toList] := by
  refine lex_word ?_ fun c member => isLetter_of_isPart (Identifier.isPart_of_mem dotted c member)
  intro empty
  rw [empty] at dotted
  revert dotted
  decide

end Token

namespace Scalar

/-- The tokens of a number behind a cast. -/
def castTokens (kind : String) (number : Int) : List Token :=
  [.mark '(', .word kind.toList, .mark ')', .word (toString number).toList]

/-- The tokens of a scalar. -/
def tokens : Scalar → List Token
  | .byte value => castTokens "byte" value.toInt
  | .short value => castTokens "short" value.toInt
  | .char value => [.quoted '\x27' (Literal.escapedChar '\x27' value)]
  | .string value => [.quoted '"' (value.toList.flatMap (Literal.escapedChar '"'))]
  | other => [.word other.source.toList]

theorem length_tokens_pos (scalar : Scalar) : 0 < scalar.tokens.length := by
  cases scalar <;> exact Nat.succ_pos _

open Token in
theorem lex_source {scalar : Scalar} (exact : scalar.isExact) :
    lex scalar.source.toList = some scalar.tokens := by
  have numeral : ∀ value : Int, ∀ c ∈ (toString value).toList, isLetter c :=
    forall_mem_toString (by decide) (by decide)
  have number : ∀ value : Int, lex (toString value).toList = some [.word (toString value).toList] :=
    fun value => lex_word (toString_ne_empty value) (numeral value)
  cases scalar with
  | null => decide
  | bool value => cases value <;> decide
  | byte value =>
    exact lex_append_of_ends
      (show lex "(byte) ".toList = some [.mark '(', .word "byte".toList, .mark ')'] by decide)
      (by decide) (number _)
  | short value =>
    exact lex_append_of_ends
      (show lex "(short) ".toList = some [.mark '(', .word "short".toList, .mark ')'] by decide)
      (by decide) (number _)
  | int value => exact number _
  | long value =>
    refine lex_word ?_ ?_
    · rw [source, String.toList_append]
      exact List.append_ne_nil_of_right_ne_nil _ (by decide)
    · intro c member
      rw [source, String.toList_append, List.mem_append] at member
      rcases member with digit | ending
      · exact numeral _ c digit
      · rw [List.mem_singleton.mp ending]
        decide
  | float bits => cases exact
  | double bits => cases exact
  | char value =>
    have cut := lex_quotedText (show '\x27' ∈ Literal.quotes by decide) [value]
    rwa [List.flatMap_singleton] at cut
  | string value => exact lex_quotedText (by decide) value.toList

end Scalar

namespace Expr

variable {δ : Type}

/-- The tokens of the opening line of a method. -/
def methodTokens (name : String) (returns : DeclaredType) : List Token :=
  [.word "public".toList, .word returns.source.toList, .word name.toList, .mark '(', .mark ')',
    .mark '\x7b']

/-- The tokens of the opening lines of a list. -/
def listTokens : List Token :=
  [.word "new".toList, .word "java.util.ArrayList".toList, .mark '(', .mark ')', .mark '\x7b',
    .mark '\x7b']

mutual

/-- The tokens of an expression where a value stands. -/
def tokens : Expr δ → List Token
  | .literal value => value.tokens
  | .reference name => [.word name.toList]
  | .raw _ | .deferred _ => []
  | .anonymous extended overrides =>
    [.word "new".toList, .word extended.source.toList, .mark '(', .mark ')', .mark '\x7b'] ++
      (overridesTokens overrides ++ [.mark '\x7d'])
  | .list items => listTokens ++ (additionsTokens items ++ [.mark '\x7d', .mark '\x7d'])
  | .ret inner => inner.tokens

/-- The tokens of the methods of an anonymous class. -/
def overridesTokens : List (Override δ) → List Token
  | [] => []
  | .empty name returns :: rest =>
    methodTokens name returns ++ (.mark '\x7d' :: overridesTokens rest)
  | .returning name returns value :: rest =>
    methodTokens name returns ++ (.word "return".toList ::
      (value.tokens ++ (.mark ';' :: .mark '\x7d' :: overridesTokens rest)))

/-- The tokens of the statements that add items to a list. -/
def additionsTokens : List (Expr δ) → List Token
  | [] => []
  | item :: rest =>
    [.word "add".toList, .mark '('] ++
      (item.tokens ++ (.mark ')' :: .mark ';' :: additionsTokens rest))

end

open Token

theorem lex_methodOpening {name : String} {returns : DeclaredType}
    (named : Identifier.isWord name.toList) (spelled : Identifier.isDotted returns.source.toList) :
    lex (methodOpening name returns).toList = some (methodTokens name returns) := by
  have opening : lex "public ".toList = some [.word "public".toList] := by decide
  have closing : lex "() \x7b\n".toList = some [.mark '(', .mark ')', .mark '\x7b'] := by decide
  have called := lex_append_of_begins (lex_name named) (by decide) closing
  have spaced := lex_append_of_ends (show lex " ".toList = some [] by decide) (by decide) called
  have typed := lex_append_of_begins (lex_dotted spelled)
    (goesOn_append (by decide) (by decide)) spaced
  have whole := lex_append_of_ends opening (by decide) typed
  simp only [methodOpening, String.append_assoc]
  exact whole

section Texts

variable (finished : δ → String)

mutual

/-- The text of a readable expression has the tokens of the expression. -/
theorem lex_text : (expression : Expr δ) → expression.isReadable →
    lex (expression.text finished).toList = some expression.tokens
  | .literal _, exact => Scalar.lex_source exact
  | .reference _, named => lex_name named
  | .anonymous extended overrides, readable => by
    simp only [isReadable, Bool.and_eq_true] at readable
    have methods := lex_append_of_begins (lex_overridesText overrides readable.2) (by decide)
      (show lex "\x7d".toList = some [.mark '\x7d'] by decide)
    have opened := lex_append_of_ends
      (show lex "() \x7b\n".toList = some [.mark '(', .mark ')', .mark '\x7b'] by decide)
      (by decide) methods
    have typed := lex_append_of_begins (lex_dotted readable.1)
      (goesOn_append (by decide) (by decide)) opened
    have whole := lex_append_of_ends
      (show lex "new ".toList = some [.word "new".toList] by decide) (by decide) typed
    simp only [text_anonymous, String.append_assoc]
    exact whole
  | .list items, readable => by
    have additions := lex_append_of_begins (lex_additionsText items readable) (by decide)
      (show lex "\x7d\n\x7d".toList = some [.mark '\x7d', .mark '\x7d'] by decide)
    have whole := lex_append_of_ends
      (show lex listOpening.toList = some listTokens by decide) (by decide) additions
    simp only [text_list, String.append_assoc]
    exact whole
  | .ret inner, readable => lex_text inner readable
  | .raw _, readable => nomatch readable
  | .deferred _, readable => nomatch readable

theorem lex_overridesText : (overrides : List (Override δ)) → areOverridesReadable overrides →
    lex (overridesText finished overrides).toList = some (overridesTokens overrides)
  | [], _ => rfl
  | .empty name returns :: rest, readable => by
    simp only [areOverridesReadable, Bool.and_eq_true] at readable
    have later := lex_append_of_ends (show lex "\x7d\n".toList = some [.mark '\x7d'] by decide)
      (by decide) (lex_overridesText rest readable.2)
    have whole := lex_append_of_begins (lex_methodOpening readable.1.1 readable.1.2)
      (goesOn_append (by decide) (by decide)) later
    simp only [overridesText_empty, String.append_assoc]
    exact whole
  | .returning name returns value :: rest, readable => by
    simp only [areOverridesReadable, Bool.and_eq_true] at readable
    obtain ⟨⟨⟨named, spelled⟩, inner⟩, others⟩ := readable
    have closed := lex_append_of_ends (show lex "\x7d\n".toList = some [.mark '\x7d'] by decide)
      (by decide) (lex_overridesText rest others)
    have ended := lex_append_of_ends (show lex ";\n".toList = some [.mark ';'] by decide)
      (by decide) closed
    have body := lex_append_of_begins (lex_text value inner)
      (goesOn_append (by decide) (by decide)) ended
    have returned := lex_append_of_ends
      (show lex "return ".toList = some [.word "return".toList] by decide) (by decide) body
    have opening : endsOn (methodOpening name returns).toList = false := by
      rw [methodOpening, endsOn_append (by decide)]
      decide
    have whole := lex_append_of_ends (lex_methodOpening named spelled) opening returned
    simp only [overridesText_returning, String.append_assoc]
    exact whole

theorem lex_additionsText : (items : List (Expr δ)) → areItemsReadable items →
    lex (additionsText finished items).toList = some (additionsTokens items)
  | [], _ => rfl
  | item :: rest, readable => by
    simp only [areItemsReadable, Bool.and_eq_true] at readable
    have ended := lex_append_of_ends
      (show lex ");\n".toList = some [.mark ')', .mark ';'] by decide) (by decide)
      (lex_additionsText rest readable.2)
    have added := lex_append_of_begins (lex_text item readable.1)
      (goesOn_append (by decide) (by decide)) ended
    have whole := lex_append_of_ends
      (show lex "add(".toList = some [.word "add".toList, .mark '('] by decide) (by decide) added
    simp only [additionsText_cons, String.append_assoc]
    exact whole

end

end Texts

end Expr

end FrozenGraph
