/-
This file shows that it cannot be seen whether a part of some source text was laid out before it
was put there, with whatever indentation. Text that begins and ends solid may be laid out first;
the text of a node does, since it is a whole class. So an expression is laid out as if the classes
of the snapshots embedded in it stood in it without any layout.
-/

import FrozenGraph.Proofs.Once
import FrozenGraph.Proofs.Relaid

namespace FrozenGraph

open Layout

/-! ### Statements in an expression -/

namespace Expr

variable {δ : Type} {first second : δ → String}

mutual

/-- Statements with alike texts make alike expressions. -/
theorem text_alike : (expression : Expr δ) →
    (∀ statement ∈ expression.statements, AlikeText (first statement) (second statement)) →
    AlikeText (expression.text first) (expression.text second)
  | .literal _, _ => .refl _
  | .reference _, _ => .refl _
  | .raw _, _ => .refl _
  | .anonymous _ overrides, alike => by
    rw [text_anonymous, text_anonymous]
    exact ((AlikeText.refl _).append (overridesText_alike overrides alike)).append (.refl _)
  | .list items, alike => by
    rw [text_list, text_list]
    exact ((AlikeText.refl _).append (additionsText_alike items alike)).append (.refl _)
  | .ret inner, alike => text_alike inner alike
  | .deferred statement, alike => alike statement List.mem_cons_self

theorem overridesText_alike : (overrides : List (Override δ)) →
    (∀ statement ∈ overridesStatements overrides,
      AlikeText (first statement) (second statement)) →
    AlikeText (overridesText first overrides) (overridesText second overrides)
  | [], _ => .refl _
  | .empty _ _ :: rest, alike => by
    rw [overridesText_empty, overridesText_empty]
    exact (AlikeText.refl _).append (overridesText_alike rest alike)
  | .returning _ _ value :: rest, alike => by
    have own := text_alike value fun statement member =>
      alike statement (List.mem_append_left _ member)
    have later := overridesText_alike rest fun statement member =>
      alike statement (List.mem_append_right _ member)
    rw [overridesText_returning, overridesText_returning]
    exact ((((AlikeText.refl _).append own).append (.refl _)).append (.refl _)).append later

theorem additionsText_alike : (items : List (Expr δ)) →
    (∀ statement ∈ itemsStatements items, AlikeText (first statement) (second statement)) →
    AlikeText (additionsText first items) (additionsText second items)
  | [], _ => .refl _
  | item :: rest, alike => by
    have own := text_alike item fun statement member =>
      alike statement (List.mem_append_left _ member)
    have later := additionsText_alike rest fun statement member =>
      alike statement (List.mem_append_right _ member)
    rw [additionsText_cons, additionsText_cons]
    exact (((AlikeText.refl _).append own).append (.refl _)).append later

end

theorem wholeText_alike (expression : Expr δ)
    (alike : ∀ statement ∈ expression.statements,
      AlikeText (first statement) (second statement)) :
    AlikeText (expression.wholeText first) (expression.wholeText second) := by
  have inner := text_alike expression alike
  unfold wholeText
  split
  · exact ((AlikeText.refl _).append inner).append (.refl _)
  · exact inner

end Expr

/-! ### Statements whose text is there -/

/-- The text of a statement that needs no walk in a world: it is given, or was found before. -/
def Deferred.kept? (world : World) : Deferred → Option String
  | .text content => some content
  | .failing _ => none
  | .node planned => planned.cached
  | .snapshot number => (world.root? number).bind (·.cached)

section Printing

variable {attempt : Attempt} {registry : Registry} {run : Run} {kept : Deferred → String}

/-- A text that is there is used, and nothing else happens. -/
theorem Deferred.generate_kept {statement : Deferred} {content : String}
    (there : statement.kept? run.world = some content) :
    statement.generate attempt registry run = .ok content run := by
  cases statement with
  | text given => exact congrArg (EStateM.Result.ok · run) (Option.some.inj there)
  | failing details => cases there
  | node planned =>
    have cached : planned.cached = some content := there
    rw [generate, cached]
    rfl
  | snapshot number =>
    obtain ⟨root, standing, cached⟩ := Option.bind_eq_some_iff.mp there
    obtain ⟨snapshot, placed, rfl⟩ := Option.map_eq_some_iff.mp standing
    rw [generate, snapshotText, Walk.bind_get, placed]
    simp only [cached]
    rfl

end Printing

/-! ### The text of a node -/

namespace Node

variable {heap : Heap} {ledger : Ledger} {node : Node} {registry : Registry} {run after : Run}

/-- What is printed for a node is a class, whatever is embedded in it. -/
theorem solid_classSource {attempt : Attempt} {source : String}
    (ended : node.classSource heap attempt ledger registry run = .ok source after) :
    Solid source.toList := by
  rw [classSource] at ended
  obtain ⟨methods, between, _, printed⟩ := Walk.exists_of_bind ended
  rw [Expr.source, if_neg (by simp [Expr.isReturn]), Expr.valueSource] at printed
  obtain ⟨text, _, _, closed⟩ := Walk.exists_of_bind printed
  cases closed
  exact solid_class _ _

/-- The text that a node gets is the layout of the class that was printed for it. -/
theorem exists_classSource {fuel : Nat} {text : String}
    (ended : attempt heap (fuel + 1) ledger node registry run = .ok text after) :
    ∃ source between,
      node.classSource heap (attempt heap fuel) ledger registry run = .ok source between ∧
        text = Layout.format registry.options source := by
  cases printed : node.classSource heap (attempt heap fuel) ledger registry run with
  | error stop between =>
    have failed : attempt heap (fuel + 1) ledger node registry run =
        .error (stop.annotate node.noteOn) (between.leave node.object.identity) := by
      rw [attempt, Walk.annotated_error (Walk.bind_error (Walk.ensuring_error printed))]
      rfl
    rw [failed] at ended
    cases ended
  | ok source between =>
    have written : attempt heap (fuel + 1) ledger node registry run =
        .ok (Layout.format registry.options source) (between.leave node.object.identity) := by
      rw [attempt]
      exact Walk.annotated_ok (Walk.bind_ok (Walk.ensuring_ok printed))
    rw [written] at ended
    cases ended
    exact ⟨source, between, rfl, rfl⟩

end Node

/-! ### Layouts in a layout -/

/-- Whether a text is some source text as it is, or the layout of it if it is solid. -/
def Layout.Embeds (text source : String) : Prop :=
  text = source ∨ Solid source.toList ∧ ∃ options, text = format options source

theorem Layout.Embeds.alike {text source : String} (embeds : Embeds text source) :
    AlikeText text source := by
  obtain rfl | ⟨solid, options, rfl⟩ := embeds
  · exact .refl _
  · exact alikeText_format options source solid

/-- Whether a solid part of a text was laid out before it was put there makes no difference for the
layout of the text. The text of every node is the layout of a solid one, the class that was printed
for it. So wherever the texts of statements are there already, an expression with these statements
is laid out as if their source text stood in it without any layout. -/
theorem Layout.format_embedded :
    (∀ (outer inner : Options) (before fragment after : String), Solid fragment.toList →
      format outer (before ++ format inner fragment ++ after) =
        format outer (before ++ fragment ++ after)) ∧
    (∀ (heap : Heap) (fuel : Nat) (ledger : Ledger) (node : Node) (registry : Registry)
      (run after : Run) (text : String),
      Node.attempt heap (fuel + 1) ledger node registry run = .ok text after →
        ∃ source between,
          node.classSource heap (Node.attempt heap fuel) ledger registry run =
            .ok source between ∧
          Solid source.toList ∧ text = format registry.options source) ∧
    ∀ (attempt : Attempt) (registry : Registry) (run : Run) (options : Options) (code : Code)
      (kept sources : Deferred → String),
      (∀ statement ∈ code.statements, statement.kept? run.world = some (kept statement) ∧
        Embeds (kept statement) (sources statement)) →
        code.source (Deferred.generate attempt registry) run = .ok (code.wholeText kept) run ∧
          format options (code.wholeText kept) = format options (code.wholeText sources) := by
  refine ⟨?_, ?_, ?_⟩
  · intro outer inner before fragment after solid
    have alike := alikeText_format inner fragment solid
    exact format_eq_of_alike outer (((AlikeText.refl before).append alike).append (.refl after))
  · intro heap fuel ledger node registry run after text ended
    obtain ⟨source, between, printed, laidOut⟩ := Node.exists_classSource ended
    exact ⟨source, between, printed, Node.solid_classSource printed, laidOut⟩
  · intro attempt registry run options code kept sources there
    refine ⟨Expr.source_ok code fun statement member =>
      Deferred.generate_kept (there statement member).1, ?_⟩
    exact format_eq_of_alike options
      (code.wholeText_alike fun statement member => (there statement member).2.alike)

/-! ### A leaf that was laid out more widely -/

namespace Twins

/-- Four spaces for each level. -/
def spacious : Registry :=
  .withOptions ⟨4⟩

/-- The plan of the leaf. -/
def leafNode : Node :=
  ⟨leafObject, leaf, leaf.methods, .none, .pending, none⟩

/-- The class of the leaf without layout. -/
def leafSource : String :=
  "new Leaf() \x7b\npublic String getName() \x7b\nreturn \"leaf\";\n\x7d\n\x7d"

/-- The leaf is a snapshot that was rendered with the wider layout. -/
def keptWorld : World :=
  { World.initial with
    snapshots := [⟨leafNode.complete (format spacious.options leafSource), .empty, .empty⟩] }

/-- A list with the leaf. -/
def listed : Code :=
  .list [.deferred (.snapshot 0)]

theorem format_embedded_leaf :
    format ⟨2⟩ ("return " ++ format ⟨4⟩ leafSource ++ ";") =
      format ⟨2⟩ ("return " ++ leafSource ++ ";") ∧
    (∃ text after, Node.attempt heap 1 .empty leafNode spacious ⟨world, .empty⟩ = .ok text after ∧
      ∃ source between, leafNode.classSource heap (Node.attempt heap 0) .empty spacious
          ⟨world, .empty⟩ = .ok source between ∧
        Solid source.toList ∧ text = format spacious.options source) ∧
    listed.source (Deferred.generate (heap.attempt keptWorld) .root) ⟨keptWorld, .empty⟩ =
      .ok (listed.wholeText fun _ => format spacious.options leafSource) ⟨keptWorld, .empty⟩ ∧
    format ⟨2⟩ (listed.wholeText fun _ => format spacious.options leafSource) =
      format ⟨2⟩ (listed.wholeText fun _ => leafSource) := by
  have solid : Solid leafSource.toList :=
    ⟨⟨'n', by decide +kernel, by decide⟩, '\x7d', by decide +kernel, by decide⟩
  obtain ⟨invisible, printed, embedded⟩ := format_embedded
  refine ⟨invisible ⟨2⟩ ⟨4⟩ "return " leafSource ";" solid, ?_, ?_⟩
  · have ends : (match Node.attempt heap 1 .empty leafNode spacious ⟨world, .empty⟩ with
        | .ok .. => true
        | .error .. => false) = true := by
      decide +kernel
    cases ended : Node.attempt heap 1 .empty leafNode spacious ⟨world, .empty⟩ with
    | ok text after => exact ⟨text, after, rfl, printed _ _ _ _ _ _ _ _ ended⟩
    | error stop after =>
      rw [ended] at ends
      cases ends
  · refine embedded (heap.attempt keptWorld) .root ⟨keptWorld, .empty⟩ ⟨2⟩ listed _ _
      fun statement member => ?_
    obtain rfl := List.mem_singleton.mp member
    exact ⟨rfl, .inr ⟨solid, spacious.options, rfl⟩⟩

end Twins

end FrozenGraph
