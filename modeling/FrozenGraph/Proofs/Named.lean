/-
This file holds the names that stand in source text: identifiers, and the dotted names of types. The
readers of the text allow fewer of them than are allowed here. What counts is what is left out: a
name holds no quotes, no braces and no line ends, and it is none of the words that another kind of
expression begins with.
-/

import FrozenGraph.Types.Target

namespace FrozenGraph

/-! ### Some characters -/

/-- What is said of the characters in a list is decided by going through the list, and not through
all characters. -/
instance decidableForallMem {characters : List Char} {holds : Char → Prop} [DecidablePred holds] :
    Decidable (∀ character ∈ characters, holds character) :=
  List.decidableBAll holds characters

/-! ### Identifiers -/

namespace Identifier

/-- Whether a name can begin with a character: a letter, or what is allowed like one. -/
def begins (character : Char) : Bool :=
  character.isAlpha || character = '_' || character = '$' ||
    (0xA0 ≤ character.toNat && !Unicode.isBlank character)

/-- Whether a name can go on with a character. The control characters that are no white space are
ignored in names, and may stand there. -/
def continues (character : Char) : Bool :=
  character.isAlphanum || character = '_' || character = '$' || character.toNat ≤ 0x8 ||
    (0xE ≤ character.toNat && character.toNat ≤ 0x1B) || 0x7F ≤ character.toNat

/-- The words that an expression other than a variable begins with. -/
def reserved : List (List Char) :=
  ["null".toList, "true".toList, "false".toList, "new".toList, "return".toList]

/-- Whether a word is an identifier. -/
def isWord : List Char → Bool
  | [] => false
  | first :: rest =>
    begins first && rest.all continues && !reserved.contains (first :: rest)

/-- Whether a text is a row of identifiers with dots between them. -/
def isDotted (text : List Char) : Bool :=
  (text.splitOn '.').all isWord

/-- Whether a character can stand in a row of identifiers. -/
def isPart (character : Char) : Bool :=
  continues character || character = '.'

theorem continues_of_begins {character : Char} (first : begins character) :
    continues character := by
  simp only [begins, continues, Char.isAlphanum, Bool.or_eq_true, Bool.and_eq_true,
    decide_eq_true_eq] at first ⊢
  rcases first with ((letter | line) | dollar) | ⟨high, _⟩
  · exact .inl (.inl (.inl (.inl (.inl (.inl letter)))))
  · exact .inl (.inl (.inl (.inl (.inr line))))
  · exact .inl (.inl (.inl (.inr dollar)))
  · exact .inr (Nat.le_trans (by decide) high)

theorem continues_of_mem {word : List Char} (named : isWord word) :
    ∀ character ∈ word, continues character := by
  cases word with
  | nil => exact fun _ member => nomatch member
  | cons first rest =>
    simp only [isWord, Bool.and_eq_true] at named
    intro character member
    rcases List.mem_cons.mp member with rfl | later
    · exact continues_of_begins named.1.1
    · exact List.all_eq_true.mp named.1.2 character later

theorem notMem_reserved {word : List Char} (named : isWord word) : word ∉ reserved := by
  cases word with
  | nil => cases named
  | cons first rest =>
    simp only [isWord, Bool.and_eq_true] at named
    simpa using named.2

theorem mem_intercalate {separator : List Char} {words : List (List Char)} {character : Char}
    (member : character ∈ separator.intercalate words) :
    character ∈ separator ∨ ∃ word ∈ words, character ∈ word := by
  induction words with
  | nil => cases member
  | cons first rest inductionHypothesis =>
    cases rest with
    | nil =>
      rw [List.intercalate_singleton] at member
      exact .inr ⟨first, List.mem_cons_self, member⟩
    | cons second more =>
      rw [List.intercalate_cons_cons, List.append_assoc, List.mem_append,
        List.mem_append] at member
      rcases member with own | between | later
      · exact .inr ⟨first, List.mem_cons_self, own⟩
      · exact .inl between
      · exact (inductionHypothesis later).imp_right fun ⟨word, among, inside⟩ =>
          ⟨word, List.mem_cons_of_mem _ among, inside⟩

theorem isPart_of_mem {text : List Char} (dotted : isDotted text) :
    ∀ character ∈ text, isPart character := by
  intro character member
  have joined : character ∈ ['.'].intercalate (text.splitOn '.') := by
    rwa [List.intercalate_splitOn]
  rw [isPart, Bool.or_eq_true, decide_eq_true_eq]
  rcases mem_intercalate joined with dot | ⟨word, among, inside⟩
  · exact .inr (List.mem_singleton.mp dot)
  · exact .inl (continues_of_mem (List.all_eq_true.mp dotted word among) character inside)

end Identifier

/-! ### Names of types and methods -/

/-- Whether the name of a type is a row of identifiers, its type arguments left out. -/
def TypeName.IsDotted (name : TypeName) : Prop :=
  Identifier.isDotted name.erased.text.toList

instance (name : TypeName) : Decidable name.IsDotted :=
  inferInstanceAs (Decidable (_ = true))

/-- Source text shortens a name, but adds nothing to it. -/
theorem TypeName.mem_of_mem_source {name : TypeName} {character : Char}
    (member : character ∈ name.source.toList) : character ∈ name.erased.text.toList := by
  simp only [source] at member
  split at member
  · split at member
    · simpa using member
    · exact List.mem_of_mem_drop (by simpa using member)
  · simpa using member

/-- Whether source text can name a type: a keyword, or a row of identifiers. -/
def DeclaredType.IsNamed : DeclaredType → Prop
  | .void | .primitive _ => True
  | .named name _ => name.IsDotted

instance (declared : DeclaredType) : Decidable declared.IsNamed :=
  match declared with
  | .void | .primitive _ => isTrue trivial
  | .named name _ => inferInstanceAs (Decidable name.IsDotted)

theorem DeclaredType.isPart_of_mem_source {declared : DeclaredType} (named : declared.IsNamed) :
    ∀ character ∈ declared.source.toList, Identifier.isPart character := by
  cases declared with
  | void => decide
  | primitive kind => cases kind <;> decide
  | named name arguments =>
    exact fun character member =>
      Identifier.isPart_of_mem named character (TypeName.mem_of_mem_source member)

/-- Whether source text can name a target and all that is overridden in it. -/
structure Target.IsNamed (target : Target) : Prop where
  own : target.name.IsDotted
  methods : ∀ method ∈ target.methods,
    Identifier.isWord method.name.toList ∧ method.returns.IsNamed

instance (target : Target) : Decidable target.IsNamed :=
  decidable_of_iff (target.name.IsDotted ∧ ∀ method ∈ target.methods,
      Identifier.isWord method.name.toList ∧ method.returns.IsNamed)
    ⟨fun ⟨own, methods⟩ => ⟨own, methods⟩, fun named => ⟨named.own, named.methods⟩⟩

end FrozenGraph
