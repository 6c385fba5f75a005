/-
This file shows what a layout does to text that was laid out before. A layout keeps its own lines
as they are, but a blank last line of it is no line for the next layout: a second layout drops the
line end in front of it, and changes nothing else. Text that does not end with a blank line is laid
out once and for all.
-/

import FrozenGraph.Proofs.Relaid

namespace FrozenGraph.Layout

open Unicode

/-! ### Lines that are indented already -/

theorem indentLine_eq_nil_iff (options : Options) (depth : Nat) (line : List Char) :
    indentLine options.unit depth line = [] ↔ line = [] := by
  obtain ⟨spaces, written, _⟩ := indentLine_eq options depth line
  cases line with
  | nil => exact iff_of_true rfl rfl
  | cons first rest =>
    rw [written]
    exact iff_of_false (List.append_ne_nil_of_right_ne_nil _ (List.cons_ne_nil _ _))
      (List.cons_ne_nil _ _)

theorem length_indentLines (unit : List Char) (depth : Nat) (pieces : List (List Char)) :
    (indentLines unit depth pieces).length = pieces.length := by
  induction pieces generalizing depth with
  | nil => rfl
  | cons piece rest inductionHypothesis => exact congrArg (· + 1) (inductionHypothesis _)

theorem indentLines_eq_nil_iff (unit : List Char) (depth : Nat) (pieces : List (List Char)) :
    indentLines unit depth pieces = [] ↔ pieces = [] := by
  rw [← List.length_eq_zero_iff, length_indentLines, List.length_eq_zero_iff]

theorem getLast?_indentLines (options : Options) (depth : Nat) (pieces : List (List Char)) :
    (indentLines options.unit depth pieces).getLast? = some [] ↔ pieces.getLast? = some [] := by
  induction pieces generalizing depth with
  | nil => exact Iff.rfl
  | cons piece rest inductionHypothesis =>
    cases rest with
    | nil => simp [indentLines, indentLine_eq_nil_iff]
    | cons next more =>
      have later := inductionHypothesis (depthAfter depth piece)
      rw [indentLines] at later
      rw [indentLines, indentLines, List.getLast?_cons_cons, List.getLast?_cons_cons, later]

/-- Trimming takes off what indentation put in front of trimmed lines. -/
theorem map_trim_indentLines (options : Options) (depth : Nat) (pieces : List (List Char))
    (trimmed : ∀ piece ∈ pieces, trim piece = piece) :
    (indentLines options.unit depth pieces).map trim = pieces := by
  induction pieces generalizing depth with
  | nil => rfl
  | cons piece rest inductionHypothesis =>
    obtain ⟨own, later⟩ := List.forall_mem_cons.mp trimmed
    have first := trim_indentLine options depth piece
    rw [own] at first
    rw [indentLines, List.map_cons, first, inductionHypothesis _ later]

/-- A line is blank after indentation if it was before. -/
theorem closed_indentLines (options : Options) (depth : Nat) (pieces : List (List Char)) :
    closed (indentLines options.unit depth pieces) =
      indentLines options.unit depth (closed pieces) := by
  induction pieces generalizing depth with
  | nil => rfl
  | cons piece rest inductionHypothesis =>
    cases rest with
    | nil =>
      by_cases blank : piece = []
      · simp [indentLines, closed, blank, indentLine]
      · simp [indentLines, closed, blank, indentLine_eq_nil_iff]
    | cons next more =>
      have goesOn : indentLines options.unit (depthAfter depth piece) (next :: more) ≠ [] :=
        (indentLines_eq_nil_iff _ _ _).not.mpr (List.cons_ne_nil _ _)
      rw [indentLines, closed_cons _ _ goesOn, inductionHypothesis, closed, indentLines]

theorem mem_of_mem_closed {piece : List Char} {pieces : List (List Char)}
    (member : piece ∈ closed pieces) : piece ∈ pieces := by
  rw [closed_eq] at member
  split at member
  · exact List.dropLast_subset _ member
  · exact member

/-! ### The line end behind a text -/

/-- A text without the line end behind it, if there is one. -/
def dropLineEnd (text : List Char) : List Char :=
  if text.getLast? = some '\n' then text.dropLast else text

theorem dropLineEnd_of_notMem {text : List Char} (single : '\n' ∉ text) :
    dropLineEnd text = text :=
  if_neg fun ends => single (List.mem_of_getLast? ends)

theorem dropLineEnd_append (front : List Char) {text : List Char} (filled : text ≠ []) :
    dropLineEnd (front ++ text) = front ++ dropLineEnd text := by
  unfold dropLineEnd
  rw [List.getLast?_append_of_ne_nil _ filled, List.dropLast_append_of_ne_nil filled]
  split <;> rfl

theorem dropLineEnd_eq_self_iff (text : List Char) :
    dropLineEnd text = text ↔ text.getLast? ≠ some '\n' := by
  unfold dropLineEnd
  split
  · rename_i ends
    refine iff_of_false (fun same => ?_) (not_not_intro ends)
    have shorter := congrArg List.length same
    obtain ⟨front, rfl⟩ := List.getLast?_eq_some_iff.mp ends
    simp at shorter
  · rename_i goes
    exact iff_of_true rfl goes

theorem joinLines_eq_nil_iff (pieces : List (List Char)) :
    joinLines pieces = [] ↔ closed pieces = [] := by
  match pieces with
  | [] => exact iff_of_true rfl rfl
  | [piece] => by_cases blank : piece = [] <;> simp [joinLines, closed, blank]
  | piece :: next :: rest =>
    exact iff_of_false (List.append_ne_nil_of_right_ne_nil _ (List.cons_ne_nil _ _))
      (List.cons_ne_nil _ _)

/-- Without a blank piece at the end, joined pieces lose the line end behind them. -/
theorem joinLines_closed (pieces : List (List Char)) (single : ∀ piece ∈ pieces, '\n' ∉ piece) :
    joinLines (closed pieces) = dropLineEnd (joinLines pieces) := by
  induction pieces with
  | nil => rfl
  | cons piece rest inductionHypothesis =>
    obtain ⟨own, later⟩ := List.forall_mem_cons.mp single
    cases rest with
    | nil =>
      rw [joinLines, dropLineEnd_of_notMem own, closed]
      split
      · rename_i blank
        exact blank.symm
      · rfl
    | cons next more =>
      have joined : joinLines (piece :: next :: more) = piece ++ '\n' :: joinLines (next :: more) :=
        rfl
      rw [joined, closed]
      by_cases blank : closed (next :: more) = []
      · rw [blank, (joinLines_eq_nil_iff _).mpr blank, dropLineEnd_append _ (List.cons_ne_nil _ _)]
        exact (List.append_nil piece).symm
      · obtain ⟨first, others, kept⟩ := List.exists_cons_of_ne_nil blank
        have filled : joinLines (next :: more) ≠ [] := (joinLines_eq_nil_iff _).not.mpr blank
        rw [List.append_cons, dropLineEnd_append _ filled, ← inductionHypothesis later, kept,
          joinLines, ← List.append_cons]
        exact List.cons_ne_nil _ _

/-- Joined pieces end with a line end if there are several and the last one is blank. -/
theorem getLast?_joinLines (pieces : List (List Char)) (single : ∀ piece ∈ pieces, '\n' ∉ piece) :
    (joinLines pieces).getLast? = some '\n' ↔
      1 < pieces.length ∧ pieces.getLast? = some [] := by
  induction pieces with
  | nil => simp [joinLines]
  | cons piece rest inductionHypothesis =>
    obtain ⟨own, later⟩ := List.forall_mem_cons.mp single
    cases rest with
    | nil =>
      exact iff_of_false (fun ends => own (List.mem_of_getLast? ends)) fun several => by
        simp at several
    | cons next more =>
      have joined : joinLines (piece :: next :: more) = piece ++ '\n' :: joinLines (next :: more) :=
        rfl
      have several : 1 < (piece :: next :: more).length := by simp
      rw [joined, List.getLast?_append_of_ne_nil _ (List.cons_ne_nil _ _),
        List.getLast?_cons_cons, and_iff_right several]
      cases more with
      | nil =>
        by_cases blank : next = []
        · simp [joinLines, blank]
        · obtain ⟨first, others, rfl⟩ := List.exists_cons_of_ne_nil blank
          have inside := later _ List.mem_cons_self
          rw [joinLines, List.getLast?_cons_cons]
          exact iff_of_false (fun ends => inside (List.mem_of_getLast? ends)) (by simp)
      | cons third others =>
        have filled : joinLines (next :: third :: others) ≠ [] :=
          List.append_ne_nil_of_right_ne_nil _ (List.cons_ne_nil _ _)
        obtain ⟨first, rest, kept⟩ := List.exists_cons_of_ne_nil filled
        rw [kept, List.getLast?_cons_cons, ← kept, inductionHypothesis later]
        exact and_iff_right (by simp)

/-! ### A second layout -/

theorem newline_notMem_trimmedLines (text : List Char) :
    ∀ line ∈ trimmedLines text, '\n' ∉ line := by
  intro line member inside
  obtain ⟨piece, listed, rfl⟩ := List.mem_map.mp member
  rw [lines_eq_closed] at listed
  exact newline_notMem_splitLines text piece (mem_of_mem_closed listed) (mem_of_mem_trim inside)

theorem trim_of_mem_trimmedLines {text line : List Char} (member : line ∈ trimmedLines text) :
    trim line = line := by
  obtain ⟨piece, _, rfl⟩ := List.mem_map.mp member
  exact trim_trim piece

/-- No line of a layout has a line end in it. -/
theorem newline_notMem_layout (options : Options) (text : List Char) :
    ∀ line ∈ indentLines options.unit 0 (trimmedLines text), '\n' ∉ line := by
  have same : (trimmedLines text).map trim = trimmedLines text :=
    (List.map_congr_left fun _ member => trim_of_mem_trimmedLines member).trans (List.map_id _)
  have single := newline_notMem_indentLines options 0 _ (newline_notMem_trimmedLines text)
  rwa [same] at single

/-- A layout shows the next one the lines that it was made of, whatever their indentation; only a
blank line at the end is lost. -/
theorem trimmedLines_formatChars (options : Options) (text : List Char) :
    trimmedLines (formatChars options text) = closed (trimmedLines text) := by
  have shown : lines (formatChars options text) =
      indentLines options.unit 0 (closed (trimmedLines text)) := by
    rw [lines_eq_closed, formatChars_eq, ← closed_indentLines]
    by_cases blank : trimmedLines text = []
    · rw [blank]
      rfl
    · rw [splitLines_joinLines _ ((indentLines_eq_nil_iff _ _ _).not.mpr blank)
        (newline_notMem_layout options text)]
  rw [trimmedLines, shown]
  exact map_trim_indentLines options 0 _ fun _ member =>
    trim_of_mem_trimmedLines (mem_of_mem_closed member)

/-- A layout that is laid out again is the layout of the text without the line end behind it. -/
theorem formatChars_formatChars (outer inner : Options) (text : List Char) :
    formatChars outer (formatChars inner text) = dropLineEnd (formatChars outer text) := by
  rw [formatChars_eq outer (formatChars inner text), trimmedLines_formatChars,
    ← closed_indentLines, joinLines_closed _ (newline_notMem_layout outer text), formatChars_eq]

/-- A text of several lines, the last of them blank. -/
def EndsBlank (text : List Char) : Prop :=
  1 < (trimmedLines text).length ∧ (trimmedLines text).getLast? = some []

theorem getLast?_formatChars (options : Options) (text : List Char) :
    (formatChars options text).getLast? = some '\n' ↔ EndsBlank text := by
  rw [formatChars_eq, getLast?_joinLines _ (newline_notMem_layout options text), EndsBlank,
    length_indentLines, getLast?_indentLines]

/-- A second layout drops the line end behind the first one, and so keeps exactly the layouts of
texts that do not end with a blank line below another one. -/
theorem format_format (options : Options) (source : String) :
    (format options (format options source)).toList =
        dropLineEnd (format options source).toList ∧
      (format options (format options source) = format options source ↔
        ¬ EndsBlank source.toList) := by
  have second : (format options (format options source)).toList =
      dropLineEnd (format options source).toList := by
    rw [format, format, String.toList_ofList, String.toList_ofList, formatChars_formatChars]
  refine ⟨second, ?_⟩
  rw [← String.toList_inj, second, dropLineEnd_eq_self_iff, format, String.toList_ofList,
    ne_eq, getLast?_formatChars]

/-- Two blank lines have a layout that a second one changes. -/
theorem not_format_format :
    ¬ ∀ (options : Options) (source : String),
      format options (format options source) = format options source := by
  intro idempotent
  exact absurd (idempotent .standard "\n\n") (by decide)

end FrozenGraph.Layout
