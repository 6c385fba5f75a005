/-
This file shows that a text may be laid out before it is put into another one: the layout of the
whole is the same. A layout depends on nothing but the trimmed lines of a text, and laying out a
part changes only the white space at the ends of lines inside the part.
-/

import FrozenGraph.Source.Layout
import Mathlib.Data.List.DropRight

namespace FrozenGraph

/-! ### Trimming -/

namespace Unicode

theorem trimEnd_append_of_blank (text blank : List Char) (white : ∀ c ∈ blank, isBlank c) :
    trimEnd (text ++ blank) = trimEnd text := by
  rw [trimEnd, trimEnd, List.reverse_append,
    List.dropWhile_append_of_pos fun c member => white c (List.mem_reverse.mp member)]

theorem trim_append_of_blank (text blank : List Char) (white : ∀ c ∈ blank, isBlank c) :
    trim (text ++ blank) = trim text := by
  rw [trim, trim, List.dropWhile_append]
  by_cases empty : (text.dropWhile isBlank).isEmpty
  · rw [if_pos empty, List.isEmpty_iff.mp empty, List.dropWhile_eq_nil_iff.mpr white]
  · rw [if_neg empty, trimEnd_append_of_blank _ _ white]

theorem trim_blank_append (blank text : List Char) (white : ∀ c ∈ blank, isBlank c) :
    trim (blank ++ text) = trim text := by
  rw [trim, List.dropWhile_append_of_pos white, trim]

/-- White space at the end of a text is trimmed whatever stands in front of the text. -/
theorem trim_append_trimEnd (before text : List Char) :
    trim (before ++ trimEnd text) = trim (before ++ text) := by
  have white : ∀ c ∈ text.rtakeWhile isBlank, isBlank c := fun c =>
    List.mem_rtakeWhile_imp
  rw [← trim_append_of_blank (before ++ trimEnd text) _ white, List.append_assoc]
  exact congrArg (fun whole => trim (before ++ whole)) List.rdropWhile_append_rtakeWhile

/-- White space in front of a text is trimmed whatever follows the text. -/
theorem trim_dropWhile_append (text after : List Char) :
    trim (text.dropWhile isBlank ++ after) = trim (text ++ after) := by
  have white : ∀ c ∈ text.takeWhile isBlank, isBlank c := fun _ => List.mem_takeWhile_imp
  rw [← trim_blank_append (text.takeWhile isBlank) _ white, ← List.append_assoc,
    List.takeWhile_append_dropWhile]

theorem mem_of_mem_trim {c : Char} {text : List Char} (member : c ∈ trim text) : c ∈ text := by
  have inner := List.mem_reverse.mp
    ((List.dropWhile_suffix isBlank).subset (List.mem_reverse.mp member))
  exact (List.dropWhile_suffix isBlank).subset inner

theorem isBlank_newline {c : Char} (solid : isBlank c = false) : c ≠ '\n' := by
  rintro rfl
  exact absurd solid (by decide)

theorem isBlank_of_eq_space {c : Char} (space : c = ' ') : isBlank c := by
  rw [space]
  decide

theorem trim_trim (text : List Char) : trim (trim text) = trim text := by
  have inner := trim_append_trimEnd [] (text.dropWhile isBlank)
  have outer := trim_dropWhile_append text []
  rw [List.append_nil, List.append_nil] at outer
  exact inner.trans outer

end Unicode

namespace Layout

open Unicode

/-- A text that neither begins nor ends with white space, and is not empty. -/
def Solid (text : List Char) : Prop :=
  (∃ first, text.head? = some first ∧ isBlank first = false) ∧
    ∃ last, text.getLast? = some last ∧ isBlank last = false

/-- The text of a class neither begins nor ends with white space, whatever stands in it. -/
theorem solid_class (extended methods : String) :
    Solid ("new " ++ extended ++ "() \x7b\n" ++ methods ++ "\x7d").toList := by
  simp only [String.toList_append]
  refine ⟨⟨'n', ?_, by decide⟩, '}', ?_, by decide⟩
  · rfl
  · exact List.getLast?_concat

/-- White space in front of a text is no part of its solid end. -/
theorem getLast_dropWhile (text : List Char) (last : Char) (ends : text.getLast? = some last)
    (solid : isBlank last = false) : (text.dropWhile isBlank).getLast? = some last := by
  obtain ⟨front, rfl⟩ := List.getLast?_eq_some_iff.mp ends
  rw [List.dropWhile_append]
  split
  · rw [List.dropWhile_cons_of_neg (by simp [solid])]
    rfl
  · exact List.getLast?_concat

theorem trim_eq_of_getLast (text : List Char) (last : Char) (ends : text.getLast? = some last)
    (solid : isBlank last = false) : trim text = text.dropWhile isBlank := by
  obtain ⟨front, kept⟩ :=
    List.getLast?_eq_some_iff.mp (getLast_dropWhile text last ends solid)
  rw [trim, kept]
  exact List.rdropWhile_concat_neg _ _ _ (by simp [solid])

/-- A text with a solid end keeps what follows it when it is trimmed. -/
theorem trim_append_of_getLast (text after : List Char) (last : Char)
    (ends : text.getLast? = some last) (solid : isBlank last = false) :
    trim (trim text ++ after) = trim (text ++ after) := by
  rw [trim_eq_of_getLast text last ends solid, trim_dropWhile_append]

/-! ### Lines of joined texts -/

/-- The lines of a text without the white space at their ends: all that a layout reads. -/
def trimmedLines (text : List Char) : List (List Char) :=
  (lines text).map trim

theorem formatChars_eq (options : Options) (text : List Char) :
    formatChars options text = joinLines (indentLines options.unit 0 (trimmedLines text)) :=
  rfl

/-- The pieces of two texts written one after the other: the last piece of the first text goes on
with the first piece of the second. -/
def paste : List (List Char) → List (List Char) → List (List Char)
  | [], others => others
  | [last], [] => [last]
  | [last], first :: rest => (last ++ first) :: rest
  | piece :: next :: rest, others => piece :: paste (next :: rest) others

theorem splitLines_ne_nil (text : List Char) : splitLines text ≠ [] := by
  cases text with
  | nil => exact List.cons_ne_nil _ _
  | cons character rest =>
    rw [splitLines]
    split
    · exact List.cons_ne_nil _ _
    · split <;> exact List.cons_ne_nil _ _

theorem splitLines_cons_of_ne (character : Char) (rest first : List Char)
    (others : List (List Char)) (code : character ≠ '\n')
    (split : splitLines rest = first :: others) :
    splitLines (character :: rest) = (character :: first) :: others := by
  rw [splitLines, if_neg code, split]

theorem paste_cons (piece : List Char) (pieces others : List (List Char))
    (more : pieces ≠ []) : paste (piece :: pieces) others = piece :: paste pieces others := by
  cases pieces with
  | nil => exact absurd rfl more
  | cons next rest => rfl

theorem splitLines_append (first second : List Char) :
    splitLines (first ++ second) = paste (splitLines first) (splitLines second) := by
  induction first with
  | nil =>
    obtain ⟨piece, others, pieces⟩ := List.exists_cons_of_ne_nil (splitLines_ne_nil second)
    rw [List.nil_append, splitLines, pieces]
    rfl
  | cons character rest inductionHypothesis =>
    rw [List.cons_append]
    by_cases newline : character = '\n'
    · rw [splitLines, splitLines, if_pos newline, if_pos newline, inductionHypothesis,
        paste_cons _ _ _ (splitLines_ne_nil rest)]
    · obtain ⟨piece, others, pieces⟩ := List.exists_cons_of_ne_nil (splitLines_ne_nil rest)
      rw [pieces] at inductionHypothesis
      rw [splitLines_cons_of_ne _ _ _ _ newline pieces]
      cases others with
      | nil =>
        obtain ⟨next, more, after⟩ := List.exists_cons_of_ne_nil (splitLines_ne_nil second)
        rw [after] at inductionHypothesis ⊢
        exact splitLines_cons_of_ne _ _ _ _ newline inductionHypothesis
      | cons next more => exact splitLines_cons_of_ne _ _ _ _ newline inductionHypothesis

theorem newline_notMem_splitLines (text : List Char) :
    ∀ piece ∈ splitLines text, '\n' ∉ piece := by
  induction text with
  | nil => simp [splitLines]
  | cons character rest inductionHypothesis =>
    obtain ⟨first, others, pieces⟩ := List.exists_cons_of_ne_nil (splitLines_ne_nil rest)
    by_cases newline : character = '\n'
    · rw [splitLines, if_pos newline]
      intro piece member
      rcases List.mem_cons.mp member with rfl | later
      · exact List.not_mem_nil
      · exact inductionHypothesis piece later
    · rw [splitLines_cons_of_ne _ _ _ _ newline pieces]
      rw [pieces] at inductionHypothesis
      intro piece member
      rcases List.mem_cons.mp member with rfl | later
      · intro inside
        rcases List.mem_cons.mp inside with same | deeper
        · exact newline same.symm
        · exact inductionHypothesis first List.mem_cons_self deeper
      · exact inductionHypothesis piece (List.mem_cons_of_mem _ later)

theorem splitLines_of_notMem (piece : List Char) (single : '\n' ∉ piece) :
    splitLines piece = [piece] := by
  induction piece with
  | nil => rfl
  | cons character rest inductionHypothesis =>
    rw [List.mem_cons, not_or] at single
    exact splitLines_cons_of_ne _ _ _ _ (Ne.symm single.1) (inductionHypothesis single.2)

theorem splitLines_joinLines (pieces : List (List Char)) (nonempty : pieces ≠ [])
    (single : ∀ piece ∈ pieces, '\n' ∉ piece) : splitLines (joinLines pieces) = pieces := by
  induction pieces with
  | nil => exact absurd rfl nonempty
  | cons piece rest inductionHypothesis =>
    have own : splitLines piece = [piece] :=
      splitLines_of_notMem piece (single piece List.mem_cons_self)
    cases rest with
    | nil => exact own
    | cons next more =>
      have later := inductionHypothesis (List.cons_ne_nil _ _)
        fun other member => single other (List.mem_cons_of_mem _ member)
      have joined : joinLines (piece :: next :: more) = piece ++ '\n' :: joinLines (next :: more) :=
        rfl
      rw [joined, splitLines_append, own, splitLines, if_pos rfl, later]
      exact congrArg (· :: next :: more) (List.append_nil piece)

/-- The pieces of a text as its lines: an empty piece at the end is none. -/
def closed : List (List Char) → List (List Char)
  | [] => []
  | [last] => if last = [] then [] else [last]
  | piece :: next :: rest => piece :: closed (next :: rest)

theorem closed_cons (piece : List Char) (pieces : List (List Char)) (more : pieces ≠ []) :
    closed (piece :: pieces) = piece :: closed pieces := by
  cases pieces with
  | nil => exact absurd rfl more
  | cons next rest => rfl

theorem closed_eq (pieces : List (List Char)) :
    closed pieces = if pieces.getLast? = some [] then pieces.dropLast else pieces := by
  induction pieces with
  | nil => rfl
  | cons piece rest inductionHypothesis =>
    cases rest with
    | nil => by_cases empty : piece = [] <;> simp [closed, empty]
    | cons next more =>
      rw [closed, inductionHypothesis, List.getLast?_cons_cons, List.dropLast_cons_cons]
      split <;> rfl

theorem lines_eq_closed (text : List Char) : lines text = closed (splitLines text) :=
  (closed_eq _).symm

/-! ### Texts that no layout tells apart -/

/-- Two texts that have the same trimmed lines wherever they stand. -/
def Alike (first second : List Char) : Prop :=
  ∀ before after, trimmedLines (before ++ first ++ after) = trimmedLines (before ++ second ++ after)

theorem Alike.refl (text : List Char) : Alike text text := fun _ _ => rfl

theorem Alike.trans {first second third : List Char} (left : Alike first second)
    (right : Alike second third) : Alike first third := fun before after =>
  (left before after).trans (right before after)

theorem Alike.append {first second first' second' : List Char} (left : Alike first first')
    (right : Alike second second') : Alike (first ++ second) (first' ++ second') := by
  intro before after
  have one := left before (second ++ after)
  have two := right (before ++ first') after
  simp only [List.append_assoc] at one two ⊢
  exact one.trans two

/-- Two strings that are alike. -/
def AlikeText (first second : String) : Prop :=
  Alike first.toList second.toList

theorem AlikeText.refl (text : String) : AlikeText text text := Alike.refl _

theorem AlikeText.trans {first second third : String} (left : AlikeText first second)
    (right : AlikeText second third) : AlikeText first third := Alike.trans left right

theorem AlikeText.append {first second first' second' : String} (left : AlikeText first first')
    (right : AlikeText second second') : AlikeText (first ++ second) (first' ++ second') := by
  unfold AlikeText
  rw [String.toList_append, String.toList_append]
  exact Alike.append left right

/-- Texts that are alike have one layout. -/
theorem format_eq_of_alike (options : Options) {first second : String}
    (alike : AlikeText first second) : format options first = format options second := by
  have same := alike [] []
  rw [List.nil_append, List.nil_append, List.append_nil, List.append_nil] at same
  rw [format, format, formatChars_eq, formatChars_eq, same]

/-! ### A layout and its text are alike -/

/-- Pieces after the first one: trimmed they agree, the last one with whatever follows it. -/
inductive TailAlike : List (List Char) → List (List Char) → Prop
  | last {first second : List Char}
    (agree : ∀ after, trim (first ++ after) = trim (second ++ after))
    (filled : first ≠ []) (filled' : second ≠ []) : TailAlike [first] [second]
  | next {first second : List Char} {rest rest' : List (List Char)}
    (agree : trim first = trim second) (later : TailAlike rest rest') :
    TailAlike (first :: rest) (second :: rest')

/-- All pieces of a text: the first one agrees with whatever stands in front of it. -/
inductive PiecesAlike : List (List Char) → List (List Char) → Prop
  | single {piece : List Char} : PiecesAlike [piece] [piece]
  | more {first second : List Char} {rest rest' : List (List Char)}
    (agree : ∀ before, trim (before ++ first) = trim (before ++ second))
    (later : TailAlike rest rest') : PiecesAlike (first :: rest) (second :: rest')

theorem TailAlike.ne_nil {pieces pieces' : List (List Char)} (alike : TailAlike pieces pieces') :
    pieces ≠ [] ∧ pieces' ≠ [] := by
  cases alike with
  | last => exact ⟨List.cons_ne_nil _ _, List.cons_ne_nil _ _⟩
  | next => exact ⟨List.cons_ne_nil _ _, List.cons_ne_nil _ _⟩

theorem paste_ne_nil (pieces others : List (List Char)) (nonempty : pieces ≠ []) :
    paste pieces others ≠ [] := by
  match pieces, others with
  | [], _ => exact absurd rfl nonempty
  | [_], [] => exact List.cons_ne_nil _ _
  | [_], _ :: _ => exact List.cons_ne_nil _ _
  | _ :: _ :: _, _ => exact List.cons_ne_nil _ _

theorem closed_filled (piece : List Char) (filled : piece ≠ []) (others : List (List Char)) :
    closed (piece :: others) = piece :: closed others := by
  cases others with
  | nil => exact if_neg filled
  | cons next rest => rfl

/-- What follows a text does not see which of two alike tails is in front of it. -/
theorem TailAlike.closed_paste {pieces pieces' : List (List Char)}
    (alike : TailAlike pieces pieces') (others : List (List Char)) :
    (closed (paste pieces others)).map trim = (closed (paste pieces' others)).map trim := by
  induction alike with
  | @last first second agree filled filled' =>
    have alone := agree []
    rw [List.append_nil, List.append_nil] at alone
    cases others with
    | nil =>
      rw [paste, paste, closed_filled _ filled, closed_filled _ filled', List.map_cons,
        List.map_cons, alone]
    | cons next rest =>
      rw [paste, paste, closed_filled _ (List.append_ne_nil_of_left_ne_nil filled _),
        closed_filled _ (List.append_ne_nil_of_left_ne_nil filled' _), List.map_cons,
        List.map_cons, agree]
  | @next first second rest rest' agree later inductionHypothesis =>
    rw [paste_cons _ _ _ later.ne_nil.1, paste_cons _ _ _ later.ne_nil.2,
      closed_cons _ _ (paste_ne_nil _ _ later.ne_nil.1),
      closed_cons _ _ (paste_ne_nil _ _ later.ne_nil.2), List.map_cons, List.map_cons, agree,
      inductionHypothesis]

/-- What surrounds a text does not see which of two alike lists of pieces it is. -/
theorem PiecesAlike.closed_paste {pieces pieces' : List (List Char)}
    (alike : PiecesAlike pieces pieces') (front others : List (List Char)) :
    (closed (paste (paste front pieces) others)).map trim =
      (closed (paste (paste front pieces') others)).map trim := by
  cases alike with
  | single => rfl
  | @more first second rest rest' agree later =>
    induction front with
    | nil =>
      have alone := agree []
      rw [List.nil_append, List.nil_append] at alone
      exact (TailAlike.next alone later).closed_paste others
    | cons piece front inductionHypothesis =>
      cases front with
      | nil => exact (TailAlike.next (agree piece) later).closed_paste others
      | cons next more =>
        rw [paste_cons _ _ _ (List.cons_ne_nil _ _), paste_cons _ _ _ (List.cons_ne_nil _ _),
          paste_cons _ _ _ (paste_ne_nil _ _ (List.cons_ne_nil _ _)),
          paste_cons _ _ _ (paste_ne_nil _ _ (List.cons_ne_nil _ _)),
          closed_cons _ _ (paste_ne_nil _ _ (paste_ne_nil _ _ (List.cons_ne_nil _ _))),
          closed_cons _ _ (paste_ne_nil _ _ (paste_ne_nil _ _ (List.cons_ne_nil _ _))),
          List.map_cons, List.map_cons, inductionHypothesis]

theorem alike_of_pieces {first second : List Char}
    (alike : PiecesAlike (splitLines first) (splitLines second)) : Alike first second := by
  intro before after
  rw [trimmedLines, trimmedLines, lines_eq_closed, lines_eq_closed, splitLines_append,
    splitLines_append, splitLines_append, splitLines_append]
  exact alike.closed_paste _ _

/-- Indentation puts nothing but spaces in front of a line. -/
theorem indentLine_eq (options : Options) (depth : Nat) (line : List Char) :
    ∃ spaces, indentLine options.unit depth line = spaces ++ line ∧ ∀ c ∈ spaces, c = ' ' := by
  cases line with
  | nil => exact ⟨[], rfl, by simp⟩
  | cons first rest =>
    refine ⟨_, rfl, fun c member => ?_⟩
    obtain ⟨unit, units, inside⟩ := List.mem_flatten.mp member
    rw [List.eq_of_mem_replicate units] at inside
    exact List.eq_of_mem_replicate inside

theorem indentLine_zero (unit line : List Char) : indentLine unit 0 line = line := by
  cases line with
  | nil => rfl
  | cons first rest => simp [indentLine]

theorem trim_indentLine (options : Options) (depth : Nat) (line : List Char) :
    trim (indentLine options.unit depth (trim line)) = trim line := by
  obtain ⟨spaces, written, blank⟩ := indentLine_eq options depth (trim line)
  rw [written, trim_blank_append _ _ fun c member => isBlank_of_eq_space (blank c member),
    trim_trim]

theorem splitLines_head (first : Char) (rest : List Char) (code : first ≠ '\n') :
    ∃ piece others, splitLines (first :: rest) = (first :: piece) :: others := by
  obtain ⟨piece, others, pieces⟩ := List.exists_cons_of_ne_nil (splitLines_ne_nil rest)
  exact ⟨piece, others, splitLines_cons_of_ne _ _ _ _ code pieces⟩

theorem splitLines_getLast (text : List Char) (last : Char) (code : last ≠ '\n')
    (ends : text.getLast? = some last) :
    ∃ piece, (splitLines text).getLast? = some piece ∧ piece.getLast? = some last := by
  induction text with
  | nil => cases ends
  | cons character rest inductionHypothesis =>
    obtain ⟨first, others, pieces⟩ := List.exists_cons_of_ne_nil (splitLines_ne_nil rest)
    cases rest with
    | nil =>
      rw [List.getLast?_singleton, Option.some_inj] at ends
      subst ends
      exact ⟨[character], by rw [splitLines_of_notMem _ (by simpa using Ne.symm code)]; rfl, rfl⟩
    | cons next more =>
      rw [List.getLast?_cons_cons] at ends
      obtain ⟨piece, final, own⟩ := inductionHypothesis ends
      rw [pieces] at final
      by_cases newline : character = '\n'
      · rw [splitLines, if_pos newline, pieces]
        exact ⟨piece, by rw [List.getLast?_cons_cons]; exact final, own⟩
      · rw [splitLines_cons_of_ne _ _ _ _ newline pieces]
        cases others with
        | nil =>
          rw [List.getLast?_singleton, Option.some_inj] at final
          subst final
          refine ⟨character :: first, rfl, ?_⟩
          cases first with
          | nil => cases own
          | cons _ _ => rw [List.getLast?_cons_cons]; exact own
        | cons other others =>
          rw [List.getLast?_cons_cons] at final
          exact ⟨piece, by rw [List.getLast?_cons_cons]; exact final, own⟩

theorem tailAlike_indentLines (options : Options) (depth : Nat) (pieces : List (List Char))
    (piece : List Char) (last : Char) (final : pieces.getLast? = some piece)
    (ends : piece.getLast? = some last) (solid : isBlank last = false) :
    TailAlike (indentLines options.unit depth (pieces.map trim)) pieces := by
  induction pieces generalizing depth with
  | nil => cases final
  | cons first rest inductionHypothesis =>
    cases rest with
    | nil =>
      rw [List.getLast?_singleton, Option.some_inj] at final
      subst final
      have follows : ∀ after, trim (indentLine options.unit depth (trim first) ++ after) =
          trim (first ++ after) := by
        intro after
        obtain ⟨spaces, written, blank⟩ := indentLine_eq options depth (trim first)
        rw [written, List.append_assoc,
          trim_blank_append _ _ fun c member => isBlank_of_eq_space (blank c member),
          trim_append_of_getLast _ _ _ ends solid]
      have kept : (trim first).getLast? = some last := by
        rw [trim_eq_of_getLast first last ends solid]
        exact getLast_dropWhile first last ends solid
      refine TailAlike.last follows ?_ fun empty => by rw [empty] at ends; cases ends
      obtain ⟨spaces, written, _⟩ := indentLine_eq options depth (trim first)
      rw [written]
      exact List.append_ne_nil_of_right_ne_nil _ fun empty => by rw [empty] at kept; cases kept
    | cons next more =>
      rw [List.getLast?_cons_cons] at final
      exact TailAlike.next (trim_indentLine options depth first) (inductionHypothesis _ final)

theorem newline_notMem_indentLines (options : Options) (depth : Nat) (pieces : List (List Char))
    (single : ∀ piece ∈ pieces, '\n' ∉ piece) :
    ∀ line ∈ indentLines options.unit depth (pieces.map trim), '\n' ∉ line := by
  induction pieces generalizing depth with
  | nil => simp [indentLines]
  | cons first rest inductionHypothesis =>
    intro line member
    rcases List.mem_cons.mp member with rfl | later
    · intro inside
      obtain ⟨spaces, written, blank⟩ := indentLine_eq options depth (trim first)
      rw [written] at inside
      rcases List.mem_append.mp inside with indentation | own
      · exact absurd (blank _ indentation) (by decide)
      · exact single first List.mem_cons_self (mem_of_mem_trim own)
    · exact inductionHypothesis _ (fun piece m => single piece (List.mem_cons_of_mem _ m)) line
        later

/-- The lines of a layout are the trimmed lines of the text with white space in front of them. -/
theorem piecesAlike_indentLines (options : Options) (text : List Char) (solid : Solid text) :
    PiecesAlike (indentLines options.unit 0 ((splitLines text).map trim)) (splitLines text) := by
  obtain ⟨⟨first, begins, firstSolid⟩, last, ends, lastSolid⟩ := solid
  obtain ⟨rest, rfl⟩ := List.head?_eq_some_iff.mp begins
  obtain ⟨piece, others, pieces⟩ := splitLines_head first rest (isBlank_newline firstSolid)
  obtain ⟨final, finalPiece, own⟩ := splitLines_getLast _ last (isBlank_newline lastSolid) ends
  rw [pieces] at finalPiece ⊢
  have start : trim (first :: piece) = trimEnd (first :: piece) := by
    rw [trim, List.dropWhile_cons_of_neg (by simp [firstSolid])]
  cases others with
  | nil =>
    rw [List.getLast?_singleton, Option.some_inj] at finalPiece
    subst finalPiece
    have whole : trim (first :: piece) = first :: piece := by
      rw [trim_eq_of_getLast _ last own lastSolid,
        List.dropWhile_cons_of_neg (by simp [firstSolid])]
    rw [List.map_singleton, whole, indentLines, indentLine_zero, indentLines]
    exact PiecesAlike.single
  | cons next more =>
    rw [List.getLast?_cons_cons] at finalPiece
    rw [List.map_cons, indentLines, indentLine_zero, start]
    exact PiecesAlike.more (fun before => trim_append_trimEnd before (first :: piece))
      (tailAlike_indentLines options _ _ final last finalPiece own lastSolid)

/-- A text that ends solid has no line end behind its last line. -/
theorem lines_eq_splitLines (text : List Char) (solid : Solid text) :
    lines text = splitLines text := by
  obtain ⟨_, last, ends, lastSolid⟩ := solid
  obtain ⟨final, finalPiece, own⟩ := splitLines_getLast _ last (isBlank_newline lastSolid) ends
  rw [lines, finalPiece, if_neg]
  intro empty
  rw [Option.some_inj.mp empty] at own
  cases own

/-- The lines of a layout are the lines of the text, each indented. -/
theorem splitLines_formatChars (options : Options) (text : List Char) (solid : Solid text) :
    splitLines (formatChars options text) =
      indentLines options.unit 0 ((splitLines text).map trim) := by
  rw [formatChars_eq, trimmedLines, lines_eq_splitLines text solid]
  refine splitLines_joinLines _ ?_ (newline_notMem_indentLines options 0 _
    (newline_notMem_splitLines text))
  obtain ⟨piece, others, pieces⟩ := List.exists_cons_of_ne_nil (splitLines_ne_nil text)
  rw [pieces]
  exact List.cons_ne_nil _ _

/-- The layout of a solid text is like the text itself, with any indentation. -/
theorem alike_formatChars (options : Options) (text : List Char) (solid : Solid text) :
    Alike (formatChars options text) text := by
  refine alike_of_pieces ?_
  rw [splitLines_formatChars options text solid]
  exact piecesAlike_indentLines options text solid

theorem alikeText_format (options : Options) (text : String) (solid : Solid text.toList) :
    AlikeText (format options text) text := by
  unfold AlikeText
  rw [format, String.toList_ofList]
  exact alike_formatChars options text.toList solid

end Layout

end FrozenGraph
