/-
This file says what the source text of an expression tells. The reader finds the expression again,
up to what is dropped when it is printed, so two readable expressions have one text if and only if
they are equal without that. In the tokens of a text, a `return` stands at the beginning or right
behind an opening brace: never where a value stands, and never behind another.
-/

import FrozenGraph.Proofs.Parsed
import FrozenGraph.Proofs.Traced
import Mathlib.Data.List.Chain

namespace FrozenGraph

/-! ### Where `return` stands -/

namespace Token

/-- The word in front of what is returned. -/
def returns : Token :=
  .word "return".toList

/-- What may stand behind a token: `return` only behind an opening brace. -/
def Follows (before after : Token) : Prop :=
  after = returns → before = .mark '\x7b'

/-- Whether tokens can stand where a value does: no `return` is in a wrong place, nor at the
beginning. -/
structure IsSeated (tokens : List Token) : Prop where
  behind : tokens.IsChain Follows
  first : returns ∉ tokens.head?

namespace IsSeated

variable {first second : List Token}

theorem nil : IsSeated [] :=
  ⟨.nil, Option.not_mem_none _⟩

theorem cons {token : Token} (other : token ≠ returns) (rest : IsSeated first) :
    IsSeated (token :: first) where
  behind := rest.behind.cons fun _ head same => absurd (same ▸ head) rest.first
  first := fun head => other (Option.some.inj head)

theorem returned (value : IsSeated first) : (returns :: first).IsChain Follows :=
  value.behind.cons fun _ head same => absurd (same ▸ head) value.first

theorem append (left : IsSeated first) (right : IsSeated second) : IsSeated (first ++ second) where
  behind := List.isChain_append.mpr ⟨left.behind, right.behind, fun _ _ _ head same =>
    absurd (same ▸ head) right.first⟩
  first := by
    cases first with
    | nil => exact right.first
    | cons token rest => exact left.first

theorem of_notMem (free : returns ∉ first) : IsSeated first := by
  induction first with
  | nil => exact nil
  | cons token rest inductionHypothesis =>
    simp only [List.mem_cons, not_or] at free
    exact cons (Ne.symm free.1) (inductionHypothesis free.2)

/-- What is returned stands behind an opening brace. -/
theorem append_returns (left : IsSeated (first ++ [.mark '\x7b'])) (right : IsSeated second) :
    IsSeated (first ++ [.mark '\x7b'] ++ returns :: second) where
  behind := by
    refine List.isChain_append.mpr ⟨left.behind, right.returned, ?_⟩
    intro before last _ _ _
    rw [List.getLast?_concat] at last
    exact (Option.some.inj last).symm
  first := by
    cases first with
    | nil => exact left.first
    | cons token rest => exact left.first

end IsSeated

end Token

namespace Grammar

variable {δ : Type} {tokens : List Token}

theorem readSource_returns :
    (readSource (Token.returns :: tokens) : Option (Expr δ)) =
      (readWhole [.mark ';'] tokens).map .ret := by
  have dropped : (Token.returns :: tokens).dropPrefix? [.word "return".toList] = some tokens := by
    simp only [Token.returns, List.dropPrefix?, beq_self_eq_true, if_true]
  rw [readSource, dropped]

theorem readSource_of_seated (value : Token.IsSeated tokens) :
    (readSource tokens : Option (Expr δ)) = readWhole [] tokens := by
  have kept : tokens.dropPrefix? [.word "return".toList] = none := by
    cases tokens with
    | nil => rfl
    | cons token rest =>
      have other : (token == .word "return".toList) = false :=
        beq_eq_false_iff_ne.mpr fun same => value.first (congrArg some same)
      rw [List.dropPrefix?, other]
      rfl
  rw [readSource, kept]

end Grammar

open Token

/-- A word that is not reserved is no `return`. -/
theorem word_ne_returns {letters : List Char} (free : letters ∉ Identifier.reserved) :
    Token.word letters ≠ returns := by
  intro same
  rw [Token.word.inj same] at free
  exact free (by decide)

theorem dotted_ne_returns {letters : List Char} (dotted : Identifier.isDotted letters) :
    Token.word letters ≠ returns := by
  intro same
  rw [Token.word.inj same] at dotted
  revert dotted
  decide

theorem Scalar.seated_tokens {scalar : Scalar} (exact : scalar.isExact) :
    IsSeated scalar.tokens := by
  have number : ∀ value : Int, Token.word (toString value).toList ≠ returns := fun value =>
    word_ne_returns (Grammar.number_notMem_reserved value)
  have cast : ∀ kind (value : Int), kind.toList ≠ "return".toList →
      IsSeated (castTokens kind value) := fun kind value other =>
    .cons (by decide) (.cons (fun same => other (Token.word.inj same)) (.cons (by decide)
      (.cons (number value) .nil)))
  cases scalar with
  | null => exact .of_notMem (by decide)
  | bool value => cases value <;> exact .of_notMem (by decide)
  | byte value => exact cast _ _ (by decide)
  | short value => exact cast _ _ (by decide)
  | int value => exact .cons (number value.toInt) .nil
  | long value =>
    have free := Grammar.toString_notMem_reserved value.toInt "L".toList
    rw [← String.toList_append] at free
    exact .cons (word_ne_returns free) .nil
  | float bits => cases exact
  | double bits => cases exact
  | char value => exact .cons (by simp [returns]) .nil
  | string value => exact .cons (by simp [returns]) .nil

namespace Expr

variable {δ : Type}

theorem seated_methodTokens {name : String} {declared : DeclaredType}
    (named : Identifier.isWord name.toList) (spelled : Identifier.isDotted declared.source.toList) :
    IsSeated (methodTokens name declared) :=
  .cons (by decide) (.cons (dotted_ne_returns spelled)
    (.cons (word_ne_returns (Identifier.notMem_reserved named)) (.of_notMem (by decide))))

mutual

theorem seated_tokens : (expression : Expr δ) → expression.isReadable → IsSeated expression.tokens
  | .literal _, exact => Scalar.seated_tokens exact
  | .reference name, named => .cons (word_ne_returns (Identifier.notMem_reserved named)) .nil
  | .anonymous extended overrides, readable => by
    simp only [isReadable, Bool.and_eq_true] at readable
    have opening : IsSeated [.word "new".toList, .word extended.source.toList, .mark '(',
        .mark ')', .mark '\x7b'] :=
      .cons (by decide) (.cons (dotted_ne_returns readable.1) (.of_notMem (by decide)))
    exact .append opening
      (.append (seated_overridesTokens overrides readable.2) (.of_notMem (by decide)))
  | .list items, readable => .append (.of_notMem (by decide))
    (.append (seated_additionsTokens items readable) (.of_notMem (by decide)))
  | .ret inner, readable => seated_tokens inner readable
  | .raw _, readable => nomatch readable
  | .deferred _, readable => nomatch readable

theorem seated_overridesTokens : (overrides : List (Override δ)) → areOverridesReadable overrides →
    IsSeated (overridesTokens overrides)
  | [], _ => .nil
  | .empty name returns :: rest, readable => by
    simp only [areOverridesReadable, Bool.and_eq_true] at readable
    exact .append (seated_methodTokens readable.1.1 readable.1.2)
      (.cons (by decide) (seated_overridesTokens rest readable.2))
  | .returning name returns value :: rest, readable => by
    simp only [areOverridesReadable, Bool.and_eq_true] at readable
    obtain ⟨⟨⟨named, spelled⟩, inner⟩, others⟩ := readable
    have ending : IsSeated (.mark ';' :: .mark '\x7d' :: overridesTokens rest) :=
      .cons (by decide) (.cons (by decide) (seated_overridesTokens rest others))
    have returned := IsSeated.append (seated_tokens value inner) ending
    have opened := seated_methodTokens named spelled
    exact @IsSeated.append_returns [.word "public".toList, .word returns.source.toList,
      .word name.toList, .mark '(', .mark ')'] _ opened returned

theorem seated_additionsTokens : (items : List (Expr δ)) → areItemsReadable items →
    IsSeated (additionsTokens items)
  | [], _ => .nil
  | item :: rest, readable => by
    simp only [areItemsReadable, Bool.and_eq_true] at readable
    have ending : IsSeated (.mark ')' :: .mark ';' :: additionsTokens rest) :=
      .cons (by decide) (.cons (by decide) (seated_additionsTokens rest readable.2))
    exact .append (.of_notMem (by decide)) (.append (seated_tokens item readable.1) ending)

end

/-! ### Whole expressions -/

theorem isReturn_bare : (expression : Expr δ) → expression.bare.isReturn = false
  | .ret inner => isReturn_bare inner
  | .literal _ | .reference _ | .raw _ | .anonymous .. | .list _ | .deferred _ => rfl

/-- The tokens of a whole expression. -/
def sourceTokens (expression : Expr δ) : List Token :=
  if expression.isReturn then returns :: (expression.tokens ++ [.mark ';']) else expression.tokens

/-- In the tokens of a whole expression, `return` is nowhere but at the beginning and behind opening
braces. -/
theorem isChain_sourceTokens {expression : Expr δ} (readable : expression.isReadable) :
    expression.sourceTokens.IsChain Follows := by
  have seated := seated_tokens expression readable
  rw [sourceTokens]
  split
  · exact (seated.append (.of_notMem (by decide))).returned
  · exact seated.behind

mutual

/-- A readable expression has no statements of its own. -/
theorem statements_of_isReadable : (expression : Expr δ) → expression.isReadable →
    expression.statements = []
  | .literal _, _ => rfl
  | .reference _, _ => rfl
  | .anonymous _ overrides, readable => by
    simp only [isReadable, Bool.and_eq_true] at readable
    exact overridesStatements_of_isReadable overrides readable.2
  | .list items, readable => itemsStatements_of_isReadable items readable
  | .ret inner, readable => statements_of_isReadable inner readable
  | .raw _, readable => nomatch readable
  | .deferred _, readable => nomatch readable

theorem overridesStatements_of_isReadable : (overrides : List (Override δ)) →
    areOverridesReadable overrides → overridesStatements overrides = []
  | [], _ => rfl
  | .empty _ _ :: rest, readable => by
    simp only [areOverridesReadable, Bool.and_eq_true] at readable
    exact overridesStatements_of_isReadable rest readable.2
  | .returning _ _ value :: rest, readable => by
    simp only [areOverridesReadable, Bool.and_eq_true] at readable
    rw [overridesStatements, statements_of_isReadable value readable.1.2,
      overridesStatements_of_isReadable rest readable.2, List.append_nil]

theorem itemsStatements_of_isReadable : (items : List (Expr δ)) → areItemsReadable items →
    itemsStatements items = []
  | [], _ => rfl
  | item :: rest, readable => by
    simp only [areItemsReadable, Bool.and_eq_true] at readable
    rw [itemsStatements, statements_of_isReadable item readable.1,
      itemsStatements_of_isReadable rest readable.2, List.append_nil]

end

end Expr

/-! ### What a text tells -/

namespace Code

variable {code : Code}

/-- A whole expression whose statements are finished as source text. -/
def sourceText (code : Code) : String :=
  if code.isReturn then "return " ++ code.written ++ ";" else code.written

theorem source_result (readable : code.isReadable) (heap : Heap) (world : World)
    (registry : Registry) : (heap.source world code registry).result = .ok code.sourceText := by
  have finished : code.IsFinished := by
    intro statement member
    rw [Expr.statements_of_isReadable code readable] at member
    cases member
  rw [Heap.source, Code.source_eq_pure _ _ finished]
  rfl

/-- What is dropped is not in the text. -/
theorem sourceText_normal (readable : code.isReadable) :
    sourceText code.normal = code.sourceText := by
  have same : Code.written code.bare = code.written := Expr.text_bare _ code readable
  rw [sourceText, sourceText, Expr.normal]
  by_cases statement : code.isReturn
  · rw [if_pos statement, if_pos statement, ← same]
    rfl
  · rw [if_neg statement, if_neg statement, if_neg (by simp [Expr.isReturn_bare]), same]

/-- The tokens of a text are those that the structure of the expression says. -/
theorem lex_sourceText (readable : code.isReadable) :
    lex code.sourceText.toList = some code.sourceTokens := by
  have value : lex code.written.toList = some code.tokens := Expr.lex_text _ code readable
  rw [sourceText, Expr.sourceTokens]
  split
  · have closed := lex_append_of_begins value (by decide)
      (show lex ";".toList = some [.mark ';'] by decide)
    have whole := lex_append_of_ends (show lex "return ".toList = some [returns] by decide)
      (by decide) closed
    rwa [← String.append_assoc] at whole
  · exact value

/-- The reader finds the expression in its text, without what is dropped. -/
theorem read_sourceText (readable : code.isReadable) :
    Grammar.read? code.sourceText.toList = some code.normal := by
  rw [Grammar.read?, lex_sourceText readable, Option.bind_some, Expr.sourceTokens, Expr.normal]
  by_cases statement : code.isReturn
  · have whole := Grammar.readWhole_tokens readable [.mark ';']
    rw [if_pos statement, if_pos statement, Grammar.readSource_returns, whole, Option.map_some]
  · have whole := Grammar.readWhole_tokens readable []
    rw [List.append_nil] at whole
    rw [if_neg statement, if_neg statement,
      Grammar.readSource_of_seated (Expr.seated_tokens code readable), whole]

end Code

/-- Two readable expressions have one source text if and only if they are equal without what is
dropped. The text can be read back, its tokens are those of the structure, whatever the strings in
it say, and `return` stands in it where a statement begins and nowhere else. -/
theorem Heap.source_eq_iff {first second : Code} (readable : first.isReadable)
    (others : second.isReadable) :
    ∃ text other, (∀ (heap : Heap) world registry,
        (heap.source world first registry).result = .ok text ∧
        (heap.source world second registry).result = .ok other) ∧
      (text = other ↔ first.normal = second.normal) ∧
      Grammar.read? text.toList = some first.normal ∧
      lex text.toList = some first.sourceTokens ∧
      first.sourceTokens.IsChain Follows := by
  refine ⟨first.sourceText, second.sourceText, ?_, ⟨fun same => ?_, fun same => ?_⟩,
    Code.read_sourceText readable, Code.lex_sourceText readable,
    Expr.isChain_sourceTokens readable⟩
  · exact fun heap world registry => ⟨Code.source_result readable heap world registry,
      Code.source_result others heap world registry⟩
  · have found := Code.read_sourceText readable
    rw [same, Code.read_sourceText others, Option.some_inj] at found
    exact found.symm
  · rw [← Code.sourceText_normal readable, same, Code.sourceText_normal others]

/-! ### A list that is returned again and again -/

namespace Repeated

/-- A supplier of a text that looks like source text. -/
def supplier (returns : DeclaredType) (value : Code) : Code :=
  .anonymous (.plain "java.util.function.Supplier") [.returning "get" returns value]

/-- What the supplier gives. -/
def quoted : Code :=
  .literal (.string "\"; \x7d return new \\")

/-- The list, returned once, with nothing that is dropped. -/
def once : Code :=
  .ret (.list [supplier (.plain "String") quoted, .reference "other"])

/-- The list, with whatever is dropped. -/
def again : Code :=
  .ret (.ret (.list [.ret (supplier .string (.ret (.ret quoted))), .ret (.reference "other")]))

theorem source_eq_iff_list :
    ∃ text, (∀ (heap : Heap) world registry,
        (heap.source world once registry).result = .ok text ∧
        (heap.source world again registry).result = .ok text) ∧
      Grammar.read? text.toList = some once := by
  have same : once.normal = again.normal := rfl
  obtain ⟨text, other, printed, equal, found, _⟩ :=
    Heap.source_eq_iff (show once.isReadable by decide) (show again.isReadable by decide)
  obtain rfl : text = other := equal.mpr same
  exact ⟨text, printed, found⟩

end Repeated

end FrozenGraph
