/-
This file says when source text needs no more than indentation. A cursor runs over the characters of
a text and keeps the depth of the braces, the place in a literal and what stands in front of it in
its line. It stops where a line would end inside a literal or with white space, where a line would
start with other white space than spaces, and where a brace would be closed that was never opened. A
text that a cursor can run over is laid out as expected: every line stands at the depth of the
braces in front of it, and the saturated depth of the layout is the real one.
-/

import FrozenGraph.Proofs.Relaid
import FrozenGraph.Proofs.Named
import Mathlib.Algebra.Ring.Int.Defs

namespace FrozenGraph.Layout

open Unicode

/-! ### Cursors -/

/-- What stands in front of a place in its line. -/
inductive Edge where
  /-- Nothing but spaces. -/
  | start
  /-- White space, and other characters in front of it. -/
  | blank
  | solid
deriving DecidableEq, Repr

/-- What stands in front of the place behind a character. -/
def Edge.next (edge : Edge) (character : Char) : Edge :=
  if isBlank character then (if edge = .start then .start else .blank) else .solid

/-- The depth of braces after a character at a place. -/
def Place.deepen (place : Place) (character : Char) (depth : Nat) : Nat :=
  if place ≠ .code then depth
  else if character = '\x7b' then depth + 1
  else if character = '\x7d' then depth - 1
  else depth

/-- A place in a text. -/
structure Cursor where
  depth : Nat
  place : Place
  edge : Edge
deriving DecidableEq, Repr

namespace Cursor

/-- Where a line of code starts. -/
def start (depth : Nat) : Cursor :=
  ⟨depth, .code, .start⟩

/-- A place in code after a character that is no white space. -/
def solid (depth : Nat) : Cursor :=
  ⟨depth, .code, .solid⟩

/-- The cursor after one more character. -/
def next (cursor : Cursor) (character : Char) : Option Cursor :=
  if character = '\n' then
    if cursor.place = .code ∧ cursor.edge = .solid then some (start cursor.depth) else none
  else if cursor.place = .code ∧ character = '\x7d' ∧ cursor.depth = 0 then none
  else if character ≠ ' ' ∧ isBlank character ∧ cursor.place = .code ∧ cursor.edge = .start then
    none
  else some
    { depth := cursor.place.deepen character cursor.depth
      place := cursor.place.next character
      edge := cursor.edge.next character }

/-- The cursor after a text. -/
def scan (cursor : Cursor) (text : List Char) : Option Cursor :=
  text.foldlM next cursor

@[simp] theorem scan_nil (cursor : Cursor) : cursor.scan [] = some cursor := rfl

@[simp] theorem scan_cons (cursor : Cursor) (character : Char) (text : List Char) :
    cursor.scan (character :: text) = (cursor.next character).bind (·.scan text) := rfl

theorem scan_append (cursor : Cursor) (first second : List Char) :
    cursor.scan (first ++ second) = (cursor.scan first).bind (·.scan second) :=
  List.foldlM_append

/-! ### Single steps -/

/-- Only code that ends with a character ends its line. -/
theorem next_newline {cursor after : Cursor} (moved : cursor.next '\n' = some after) :
    cursor = solid cursor.depth ∧ after = start cursor.depth := by
  rw [next, if_pos rfl] at moved
  split at moved
  · rename_i ends
    cases moved
    exact ⟨by rw [solid, ← ends.1, ← ends.2], rfl⟩
  · cases moved

/-- Inside a line a cursor follows literals and counts braces as the layout does. -/
theorem next_inside {cursor after : Cursor} {character : Char} (inside : character ≠ '\n')
    (moved : cursor.next character = some after) :
    after.place = cursor.place.next character ∧ after.edge = cursor.edge.next character ∧
      (after.depth : Int) = cursor.depth + cursor.place.weight character := by
  rw [next, if_neg inside] at moved
  split at moved
  · cases moved
  · rename_i opened
    split at moved
    · cases moved
    · cases moved
      refine ⟨rfl, rfl, ?_⟩
      simp only [Place.deepen, Place.weight]
      split
      · exact (Int.add_zero _).symm
      · rename_i code
        split
        · rfl
        · split
          · rename_i closes
            have deep : cursor.depth ≠ 0 := fun none =>
              opened ⟨not_not.mp code, closes, none⟩
            omega
          · exact (Int.add_zero _).symm

/-- Inside a literal every character is taken that does not end the line. -/
theorem next_literal {cursor : Cursor} (literal : cursor.place ≠ .code) {character : Char}
    (inside : character ≠ '\n') :
    cursor.next character =
      some ⟨cursor.depth, cursor.place.next character, cursor.edge.next character⟩ := by
  rw [next, if_neg inside, if_neg fun refused => literal refused.1,
    if_neg fun refused => literal refused.2.2.1, Place.deepen, if_pos literal]

/-- A line starts with no other white space than spaces. -/
theorem next_start {depth : Nat} {after : Cursor} {character : Char} (white : isBlank character)
    (moved : (start depth).next character = some after) :
    character = ' ' ∧ after = start depth := by
  by_cases newline : character = '\n'
  · subst newline
    cases moved
  · by_cases space : character = ' '
    · subst space
      cases moved
      exact ⟨rfl, rfl⟩
    · rw [next, if_neg newline] at moved
      split at moved
      · cases moved
      · rw [if_pos ⟨space, white, rfl, rfl⟩] at moved
        cases moved

/-! ### One line -/

theorem scan_counts {cursor after : Cursor} {line : List Char} (single : '\n' ∉ line)
    (scanned : cursor.scan line = some after) :
    after.place = line.foldl Place.next cursor.place ∧
      (after.depth : Int) = cursor.depth + balanceFrom cursor.place line := by
  induction line generalizing cursor with
  | nil =>
    cases scanned
    exact ⟨rfl, (Int.add_zero _).symm⟩
  | cons character rest inductionHypothesis =>
    rw [List.mem_cons, not_or] at single
    rw [scan_cons, Option.bind_eq_some_iff] at scanned
    obtain ⟨between, moved, later⟩ := scanned
    obtain ⟨place, _, depth⟩ := next_inside (Ne.symm single.1) moved
    obtain ⟨lastPlace, lastDepth⟩ := inductionHypothesis single.2 later
    rw [place] at lastPlace lastDepth
    exact ⟨lastPlace, by rw [lastDepth, depth, balanceFrom, Int.add_assoc]⟩

/-- A line of code ends no literal that it did not begin, and adds its braces to the depth. -/
theorem scan_line {depth after : Nat} {line : List Char} (single : '\n' ∉ line)
    (scanned : (start depth).scan line = some (solid after)) :
    line.foldl Place.next .code = .code ∧ (after : Int) = depth + balance line :=
  (scan_counts single scanned).imp_left Eq.symm

/-- What ends solid ends with a character that is no white space. -/
theorem scan_getLast {cursor : Cursor} {depth : Nat} {text : List Char} (filled : text ≠ [])
    (scanned : cursor.scan text = some (solid depth)) :
    ∃ last, text.getLast? = some last ∧ isBlank last = false := by
  obtain ⟨front, last, rfl⟩ : ∃ front last, text = front ++ [last] :=
    ⟨_, _, (List.dropLast_append_getLast filled).symm⟩
  refine ⟨last, List.getLast?_concat, ?_⟩
  rw [scan_append, Option.bind_eq_some_iff] at scanned
  obtain ⟨between, _, moved⟩ := scanned
  rw [scan_cons, Option.bind_eq_some_iff] at moved
  obtain ⟨after, moved, ended⟩ := moved
  cases ended
  by_cases newline : last = '\n'
  · subst newline
    cases (next_newline moved).2
  · have edge : Edge.solid = between.edge.next last := (next_inside newline moved).2.1
    rw [Edge.next] at edge
    split at edge
    · split at edge <;> cases edge
    · rename_i dark
      exact Bool.eq_false_iff.mpr dark

/-- Spaces at the start of a line are skipped. -/
theorem scan_spaces_append (depth : Nat) (spaces text : List Char) (blank : ∀ c ∈ spaces, c = ' ') :
    (start depth).scan (spaces ++ text) = (start depth).scan text := by
  induction spaces with
  | nil => rfl
  | cons character rest inductionHypothesis =>
    rw [blank character List.mem_cons_self]
    exact inductionHypothesis fun c member => blank c (List.mem_cons_of_mem _ member)

/-- White space in front of a line that a cursor can run over is nothing but spaces. -/
theorem eq_space_of_scan {depth : Nat} {line : List Char} {after : Cursor}
    (scanned : (start depth).scan line = some after) :
    ∀ c ∈ line.takeWhile isBlank, c = ' ' := by
  induction line with
  | nil => exact fun _ member => nomatch member
  | cons character rest inductionHypothesis =>
    by_cases white : isBlank character
    · rw [scan_cons, Option.bind_eq_some_iff] at scanned
      obtain ⟨between, moved, later⟩ := scanned
      obtain ⟨space, rfl⟩ := next_start white moved
      rw [List.takeWhile_cons_of_pos white]
      exact List.forall_mem_cons.mpr ⟨space, inductionHypothesis later⟩
    · rw [List.takeWhile_cons_of_neg white]
      exact fun _ member => nomatch member

/-- A line that a cursor can run over is spaces and a solid text, over which it runs as well. -/
theorem scan_trim {depth after : Nat} {line : List Char}
    (scanned : (start depth).scan line = some (solid after)) :
    Solid (trim line) ∧ (start depth).scan (trim line) = some (solid after) ∧
      ∃ spaces, line = spaces ++ trim line ∧ ∀ c ∈ spaces, c = ' ' := by
  have filled : line ≠ [] := by
    rintro rfl
    cases scanned
  obtain ⟨last, ends, dark⟩ := scan_getLast filled scanned
  have kept := getLast_dropWhile line last ends dark
  have spaces := eq_space_of_scan scanned
  have whole : line.takeWhile isBlank ++ line.dropWhile isBlank = line :=
    List.takeWhile_append_dropWhile
  have skipped := scan_spaces_append depth _ (line.dropWhile isBlank) spaces
  rw [whole, scanned] at skipped
  rw [trim_eq_of_getLast line last ends dark]
  refine ⟨⟨?_, last, kept, dark⟩, skipped.symm, _, whole.symm, spaces⟩
  have remains : line.dropWhile isBlank ≠ [] := by
    intro none
    rw [none] at kept
    cases kept
  exact ⟨_, List.head?_eq_some_head remains, by simpa using List.head_dropWhile_not isBlank remains⟩

/-- A closing brace stands in front of a line only where a brace is open. -/
theorem scan_closing {depth : Nat} {line : List Char} {after : Cursor}
    (scanned : (start depth).scan line = some after) (closes : line.head? = some '\x7d') :
    depth ≠ 0 := by
  obtain ⟨rest, rfl⟩ := List.head?_eq_some_iff.mp closes
  rintro rfl
  cases scanned

/-! ### All lines -/

/-- A cursor runs over lines: each of them starts and ends in code, and at a depth. -/
inductive Runs : Nat → List (List Char) → Nat → Prop
  | last {depth after : Nat} {line : List Char} (single : '\n' ∉ line)
    (scanned : (start depth).scan line = some (solid after)) : Runs depth [line] after
  | next {depth between after : Nat} {line : List Char} {rest : List (List Char)}
    (single : '\n' ∉ line) (scanned : (start depth).scan line = some (solid between))
    (later : Runs between rest after) : Runs depth (line :: rest) after

theorem Runs.ne_nil {depth after : Nat} {lines : List (List Char)}
    (runs : Runs depth lines after) : lines ≠ [] := by
  cases runs <;> exact List.cons_ne_nil _ _

theorem Runs.head {depth after : Nat} {line : List Char} {rest : List (List Char)}
    (runs : Runs depth (line :: rest) after) :
    ∃ between, '\n' ∉ line ∧ (start depth).scan line = some (solid between) := by
  cases runs with
  | last single scanned => exact ⟨_, single, scanned⟩
  | next single scanned _ => exact ⟨_, single, scanned⟩

theorem joinLines_cons {line : List Char} {rest : List (List Char)} (more : rest ≠ []) :
    joinLines (line :: rest) = line ++ '\n' :: joinLines rest := by
  cases rest with
  | nil => exact absurd rfl more
  | cons next others => rfl

theorem runs_of_scan {depth after : Nat} {lines : List (List Char)} (filled : lines ≠ [])
    (single : ∀ line ∈ lines, '\n' ∉ line)
    (scanned : (start depth).scan (joinLines lines) = some (solid after)) :
    Runs depth lines after := by
  induction lines generalizing depth with
  | nil => exact absurd rfl filled
  | cons line rest inductionHypothesis =>
    have own := single line List.mem_cons_self
    cases rest with
    | nil => exact .last own scanned
    | cons following more =>
      rw [joinLines_cons (List.cons_ne_nil _ _), scan_append, Option.bind_eq_some_iff] at scanned
      obtain ⟨between, first, later⟩ := scanned
      rw [scan_cons, Option.bind_eq_some_iff] at later
      obtain ⟨begun, moved, later⟩ := later
      obtain ⟨ends, rfl⟩ := next_newline moved
      rw [ends] at first
      exact .next own first (inductionHypothesis (List.cons_ne_nil _ _)
        (fun other member => single other (List.mem_cons_of_mem _ member)) later)

theorem Runs.scan {depth after : Nat} {lines : List (List Char)} (runs : Runs depth lines after) :
    (start depth).scan (joinLines lines) = some (solid after) := by
  induction runs with
  | last _ scanned => exact scanned
  | @next depth between after line rest _ scanned later inductionHypothesis =>
    rw [joinLines_cons later.ne_nil, scan_append, scanned, Option.bind_some, scan_cons]
    exact inductionHypothesis

/-! ### Indented lines -/

/-- Indentation takes nothing from a line that a cursor can run over. -/
theorem scan_indentLine (options : Options) (level : Nat) {depth after : Nat} {line : List Char}
    (scanned : (start depth).scan line = some (solid after)) :
    (start depth).scan (indentLine options.unit level (trim line)) = some (solid after) := by
  obtain ⟨spaces, written, blank⟩ := indentLine_eq options level (trim line)
  rw [written, scan_spaces_append depth spaces _ blank]
  exact (scan_trim scanned).2.1

/-- The depth of a layout after a line is the real one. -/
theorem depthAfter_trim {depth after : Nat} {line : List Char} (single : '\n' ∉ line)
    (scanned : (start depth).scan line = some (solid after)) :
    depthAfter depth (trim line) = after := by
  have inside : '\n' ∉ trim line := fun member => single (mem_of_mem_trim member)
  rw [depthAfter, ← (scan_line inside (scan_trim scanned).2.1).2, Int.toNat_natCast]

theorem newline_notMem_indentLine (options : Options) (level : Nat) {line : List Char}
    (single : '\n' ∉ line) : '\n' ∉ indentLine options.unit level (trim line) :=
  newline_notMem_indentLines options level [line] (by simpa using single) _ List.mem_cons_self

theorem Runs.indented (options : Options) {depth after : Nat} {lines : List (List Char)}
    (runs : Runs depth lines after) (level : Nat) :
    Runs depth (indentLines options.unit level (lines.map trim)) after := by
  induction runs generalizing level with
  | last single scanned =>
    exact .last (newline_notMem_indentLine options level single)
      (scan_indentLine options level scanned)
  | next single scanned _ inductionHypothesis =>
    exact .next (newline_notMem_indentLine options level single)
      (scan_indentLine options level scanned) (inductionHypothesis _)

theorem joinLines_splitLines (text : List Char) : joinLines (splitLines text) = text := by
  induction text with
  | nil => rfl
  | cons character rest inductionHypothesis =>
    obtain ⟨first, others, pieces⟩ := List.exists_cons_of_ne_nil (splitLines_ne_nil rest)
    by_cases newline : character = '\n'
    · rw [splitLines, if_pos newline, newline]
      rw [pieces] at inductionHypothesis ⊢
      exact congrArg ('\n' :: ·) inductionHypothesis
    · rw [splitLines_cons_of_ne _ _ _ _ newline pieces]
      rw [pieces] at inductionHypothesis
      rw [← inductionHypothesis]
      cases others <;> rfl

theorem Runs.of_text {depth after : Nat} {text : List Char}
    (scanned : (start depth).scan text = some (solid after)) :
    Runs depth (splitLines text) after :=
  runs_of_scan (splitLines_ne_nil text) (newline_notMem_splitLines text)
    (by rwa [joinLines_splitLines])

end Cursor

/-! ### Well indented texts -/

/-- A line that stands at the depth of braces in front of it: one step of spaces for each level,
then code without white space at its end. A closing brace stands one level further out. -/
structure StandsAt (width : Nat) (depth : Int) (line : List Char) : Prop where
  indented : ∃ level content, line = List.replicate (width * level) ' ' ++ content ∧
    Solid content ∧ (level : Int) = depth - if content.head? = some '\x7d' then 1 else 0
  /-- Every literal of the line ends in it. -/
  closed : line.foldl Place.next .code = .code

/-- A text whose lines stand at the depth of the braces on the lines in front of them, and whose
braces are balanced. -/
structure WellIndented (width : Nat) (text : List Char) : Prop where
  lines : ∀ earlier line later, splitLines text = earlier ++ line :: later →
    StandsAt width (earlier.map balance).sum line
  balanced : ((splitLines text).map balance).sum = 0

open Cursor

/-- A text that a cursor can run over ends at the depth of all its braces. -/
theorem Cursor.Runs.sum_balance {depth after : Nat} {lines : List (List Char)}
    (runs : Runs depth lines after) : (after : Int) = depth + (lines.map balance).sum := by
  induction runs with
  | last single scanned => simpa using (scan_line single scanned).2
  | next single scanned _ inductionHypothesis =>
    rw [inductionHypothesis, (scan_line single scanned).2, List.map_cons, List.sum_cons,
      Int.add_assoc]

/-- A line stands where the layout puts it. -/
theorem standsAt_indentLine (options : Options) {depth after : Nat} {line : List Char}
    (single : '\n' ∉ line) (scanned : (start depth).scan line = some (solid after)) :
    StandsAt options.indentWidth depth (indentLine options.unit depth (trim line)) := by
  obtain ⟨solid, trimmed, _⟩ := scan_trim scanned
  refine ⟨?_, (scan_line (newline_notMem_indentLine options depth single)
    (scan_indentLine options depth scanned)).1⟩
  obtain ⟨first, begins, _⟩ := solid.1
  obtain ⟨rest, written⟩ := List.head?_eq_some_iff.mp begins
  refine ⟨if first = '\x7d' then depth - 1 else depth, trim line, ?_, solid, ?_⟩
  · rw [written, indentLine, Options.unit, List.flatten_replicate_replicate, Nat.mul_comm]
  · rw [begins]
    by_cases closes : first = '\x7d'
    · have deep : depth ≠ 0 := scan_closing trimmed (closes ▸ begins)
      simp only [closes, if_true]
      omega
    · simp [closes]

/-- Every line of a layout stands where it should if a cursor can run over the text. -/
theorem Cursor.Runs.standsAt (options : Options) {depth after : Nat} {lines : List (List Char)}
    (runs : Runs depth lines after) (earlier : List (List Char)) (line : List Char)
    (later : List (List Char))
    (placed : indentLines options.unit depth (lines.map trim) = earlier ++ line :: later) :
    StandsAt options.indentWidth (depth + (earlier.map balance).sum) line := by
  induction runs generalizing earlier with
  | @last depth after first single scanned =>
    cases earlier with
    | nil =>
      cases placed
      simpa using standsAt_indentLine options single scanned
    | cons other others => cases others <;> cases placed
  | @next depth between after first rest single scanned _ inductionHypothesis =>
    rw [List.map_cons, indentLines, depthAfter_trim single scanned] at placed
    cases earlier with
    | nil =>
      cases placed
      simpa using standsAt_indentLine options single scanned
    | cons other others =>
      obtain ⟨rfl, remaining⟩ := List.cons.inj placed
      have counted := (scan_line (newline_notMem_indentLine options depth single)
        (scan_indentLine options depth scanned)).2
      rw [List.map_cons, List.sum_cons, ← Int.add_assoc, ← counted]
      exact inductionHypothesis others remaining

/-- A solid text that a cursor can run over, and that closes all its braces, is well indented by
its layout. -/
theorem wellIndented_formatChars (options : Options) (text : List Char) (full : Solid text)
    (scanned : (start 0).scan text = some (solid 0)) :
    WellIndented options.indentWidth (formatChars options text) := by
  have runs : Runs 0 (splitLines text) 0 := .of_text scanned
  have written := splitLines_formatChars options text full
  refine ⟨fun earlier line later placed => ?_, ?_⟩
  · rw [written] at placed
    simpa using runs.standsAt options earlier line later placed
  · rw [written]
    simpa using (runs.indented options 0).sum_balance.symm

/-! ### Characters that mean nothing to a layout -/

/-- Whether a character in code neither ends a line nor begins a literal, and is no brace. -/
def isCalm (character : Char) : Bool :=
  !(['\n', '"', '\x27', '\x7b', '\x7d'].contains character)

/-- Whether a calm character is no white space. -/
def isBright (character : Char) : Bool :=
  isCalm character && !isBlank character

theorem isCalm_of_isPart {character : Char} (part : Identifier.isPart character) :
    isCalm character := by
  by_contra marked
  simp only [isCalm, Bool.not_eq_true', Bool.not_eq_false, List.contains_iff_mem] at marked
  have refused : ∀ mark ∈ ['\n', '"', '\x27', '\x7b', '\x7d'], ¬ Identifier.isPart mark := by
    decide
  exact refused character marked part

namespace Cursor

/-- A calm character leaves a cursor in code where it is. -/
theorem next_calm (depth : Nat) (edge : Edge) {character : Char} (calm : isCalm character)
    (settled : edge = .start → isBlank character = false) :
    (Cursor.mk depth .code edge).next character = some ⟨depth, .code, edge.next character⟩ := by
  simp only [isCalm, Bool.not_eq_true', List.contains_eq_mem, List.mem_cons, List.not_mem_nil,
    or_false, decide_eq_false_iff_not, not_or] at calm
  obtain ⟨newline, double, single, opens, closes⟩ := calm
  have starts : isBlank character = true → edge ≠ .start := by
    intro white same
    rw [settled same] at white
    cases white
  rw [next, if_neg newline, if_neg (fun refused => closes refused.2.1),
    if_neg (fun refused => starts refused.2.1 refused.2.2.2)]
  simp [Place.deepen, Place.next, double, single, opens, closes]

/-- Calm characters within a line leave a cursor within it. -/
theorem scan_calm (depth : Nat) {edge : Edge} (settled : edge ≠ .start) {text : List Char}
    (calm : ∀ c ∈ text, isCalm c) :
    ∃ edge', edge' ≠ .start ∧
      (Cursor.mk depth .code edge).scan text = some ⟨depth, .code, edge'⟩ := by
  induction text generalizing edge with
  | nil => exact ⟨edge, settled, rfl⟩
  | cons character rest inductionHypothesis =>
    obtain ⟨own, others⟩ := List.forall_mem_cons.mp calm
    have stays : edge.next character ≠ .start := by
      rw [Edge.next, if_neg settled]
      split <;> decide
    rw [scan_cons, next_calm depth edge own fun start => absurd start settled]
    exact inductionHypothesis stays others

/-- Bright characters leave a cursor where it is. -/
theorem scan_bright (depth : Nat) (edge : Edge) {text : List Char} (filled : text ≠ [])
    (bright : ∀ c ∈ text, isBright c) :
    (Cursor.mk depth .code edge).scan text = some (solid depth) := by
  induction text generalizing edge with
  | nil => exact absurd rfl filled
  | cons character rest inductionHypothesis =>
    obtain ⟨own, others⟩ := List.forall_mem_cons.mp bright
    simp only [isBright, Bool.and_eq_true, Bool.not_eq_true'] at own
    have moved : edge.next character = .solid := by
      rw [Edge.next, own.2]
      rfl
    rw [scan_cons, next_calm depth edge own.1 fun _ => own.2, moved]
    cases rest with
    | nil => rfl
    | cons second more => exact inductionHypothesis .solid (List.cons_ne_nil _ _) others

end Cursor

/-! ### Closed texts -/

/-- A text that begins with no white space, and that a cursor leaves where it met it. -/
structure Closed (text : List Char) : Prop where
  begins : ∃ first, text.head? = some first ∧ isBlank first = false
  scanned : ∀ depth, (start depth).scan text = some (solid depth)

namespace Closed

variable {text : List Char}

/-- What stands in front of a closed text in its line does not matter. -/
theorem scan (closed : Closed text) (depth : Nat) (edge : Edge) :
    (Cursor.mk depth .code edge).scan text = some (solid depth) := by
  obtain ⟨first, begins, dark⟩ := closed.begins
  obtain ⟨rest, rfl⟩ := List.head?_eq_some_iff.mp begins
  rw [← closed.scanned depth, scan_cons, scan_cons]
  have inside : first ≠ '\n' := isBlank_newline dark
  simp [next, start, inside, Edge.next, dark]

theorem solid (closed : Closed text) : Solid text := by
  obtain ⟨first, begins, dark⟩ := closed.begins
  obtain ⟨rest, rfl⟩ := List.head?_eq_some_iff.mp begins
  exact ⟨⟨first, rfl, dark⟩, scan_getLast (List.cons_ne_nil _ _) (closed.scanned 0)⟩

/-- The layout of a closed text is closed. -/
theorem formatChars (options : Options) (closed : Closed text) :
    Closed (formatChars options text) := by
  have runs : ∀ depth, Runs depth (splitLines text) depth := fun depth =>
    .of_text (closed.scanned depth)
  have written : Layout.formatChars options text =
      joinLines (indentLines options.unit 0 ((splitLines text).map trim)) := by
    rw [← joinLines_splitLines (Layout.formatChars options text),
      splitLines_formatChars options text closed.solid]
  rw [written]
  refine ⟨?_, fun depth => ((runs depth).indented options 0).scan⟩
  -- The first line is not indented, so it begins as it does when it is trimmed.
  obtain ⟨line, others, pieces⟩ := List.exists_cons_of_ne_nil (splitLines_ne_nil text)
  obtain ⟨after, single, scanned⟩ := (pieces ▸ runs 0).head
  obtain ⟨⟨first, begins, dark⟩, _⟩ := (scan_trim scanned).1
  obtain ⟨rest, trimmed⟩ := List.head?_eq_some_iff.mp begins
  rw [pieces, List.map_cons, indentLines, indentLine_zero, trimmed]
  cases indentLines options.unit (depthAfter 0 (first :: rest)) (others.map trim) with
  | nil => exact ⟨first, rfl, dark⟩
  | cons next more => exact ⟨first, rfl, dark⟩

/-- A word is closed. -/
theorem of_bright (filled : text ≠ []) (bright : ∀ c ∈ text, isBright c) : Closed text := by
  obtain ⟨first, rest, rfl⟩ := List.exists_cons_of_ne_nil filled
  have own := bright first List.mem_cons_self
  simp only [isBright, Bool.and_eq_true, Bool.not_eq_true'] at own
  exact ⟨⟨first, rfl, own.2⟩, fun depth => scan_bright depth .start filled bright⟩

end Closed

/-- Whole lines that close what they open. -/
def Rows (text : List Char) : Prop :=
  ∀ depth, (start depth).scan text = some (start depth)

theorem Rows.append {first second : List Char} (left : Rows first) (right : Rows second) :
    Rows (first ++ second) := fun depth => by
  rw [scan_append, left depth]
  exact right depth

end FrozenGraph.Layout
