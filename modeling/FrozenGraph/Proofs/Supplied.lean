/-
This file shows that identities are coherent wherever a heap keeps its part. A heap may hand out
lists that are there from the start, in which an identity is one list, and lists that come into
being, each of which is supplied with an identity of its own. Then an identity is one list among all
answers of a run, whatever the accessors answer and in whatever order they are invoked.
-/

import FrozenGraph.Graph.Script
import FrozenGraph.Proofs.Coherent
import FrozenGraph.Proofs.Rooted

namespace FrozenGraph

/-! ### What a heap has to keep -/

namespace Template

mutual

/-- The values in a template that are there already. -/
def given : Template → List Value
  | .existing value => [value]
  | .fresh items => givenAll items

/-- The values in some templates that are there already. -/
def givenAll : List Template → List Value
  | [] => []
  | first :: rest => first.given ++ givenAll rest

end

end Template

/-- A heap hands out the values of a store, in which identities are coherent, and new lists, whose
identities are all different and none of the store's. -/
structure Heap.Keeps (heap : Heap) (store : List Value) : Prop where
  coherent : Value.Coherent store
  answers : ∀ {history object accessor template},
    heap.answer history object accessor = .ok template → ∀ value ∈ template.given, value ∈ store
  injective : ∀ {serial other}, heap.supply serial = heap.supply other → serial = other
  apart : ∀ part ∈ Value.partsOfAll store, ∀ serial, part.identity? ≠ some (heap.supply serial)

/-! ### Lists that come into being -/

/-- Values in which every part is one of the store or a list that came into being between two serial
numbers, and every such number belongs to one list. -/
structure Minted (heap : Heap) (store : List Value) (start stop : Nat) (values : List Value) :
    Prop where
  le : start ≤ stop
  origin : ∀ part ∈ Value.partsOfAll values, part ∈ Value.partsOfAll store ∨
    ∃ serial items, part = .list (heap.supply serial) items ∧ start ≤ serial ∧ serial < stop
  unique : ∀ {serial items others}, .list (heap.supply serial) items ∈ Value.partsOfAll values →
    .list (heap.supply serial) others ∈ Value.partsOfAll values → items = others

theorem Value.partsOfAll_append (first second : List Value) :
    partsOfAll (first ++ second) = partsOfAll first ++ partsOfAll second := by
  induction first with
  | nil => rfl
  | cons value rest inductionHypothesis =>
    rw [List.cons_append, partsOfAll, partsOfAll, inductionHypothesis, List.append_assoc]

namespace Minted

variable {heap : Heap} {store first second values : List Value} {start between stop : Nat}

/-- The serial number of a list that came into being lies between the two numbers. -/
theorem bounds (keeps : heap.Keeps store) (minted : Minted heap store start stop values)
    {serial : Nat} {items : List Value}
    (member : .list (heap.supply serial) items ∈ Value.partsOfAll values) :
    start ≤ serial ∧ serial < stop := by
  rcases minted.origin _ member with stored | ⟨other, _, same, lower, upper⟩
  · exact absurd rfl (keeps.apart _ stored serial)
  · rw [keeps.injective (Value.list.inj same).1]
    exact ⟨lower, upper⟩

theorem nil (heap : Heap) (store : List Value) (start : Nat) :
    Minted heap store start start [] where
  le := Nat.le_refl start
  origin _ member := nomatch member
  unique member := nomatch member

/-- Values of the store bring nothing into being. -/
theorem stored (keeps : heap.Keeps store) {value : Value} (member : value ∈ store) (start : Nat) :
    Minted heap store start start [value] := by
  have inner : ∀ part ∈ Value.partsOfAll [value], part ∈ Value.partsOfAll store := by
    intro part own
    obtain ⟨item, listed, held⟩ := Value.mem_partsOfAll.mp own
    exact Value.mem_partsOfAll.mpr ⟨value, member, List.mem_singleton.mp listed ▸ held⟩
  refine ⟨Nat.le_refl start, fun part own => .inl (inner part own), fun own _ => ?_⟩
  exact absurd rfl (keeps.apart _ (inner _ own) _)

/-- What comes into being later has other serial numbers. -/
theorem append (keeps : heap.Keeps store) (early : Minted heap store start between first)
    (late : Minted heap store between stop second) :
    Minted heap store start stop (first ++ second) := by
  refine ⟨Nat.le_trans early.le late.le, fun part member => ?_, fun {serial} _ _ own other => ?_⟩
  · rw [Value.partsOfAll_append, List.mem_append] at member
    rcases member with own | own
    · rcases early.origin part own with stored | ⟨serial, items, same, lower, upper⟩
      · exact .inl stored
      · exact .inr ⟨serial, items, same, lower, Nat.lt_of_lt_of_le upper late.le⟩
    · rcases late.origin part own with stored | ⟨serial, items, same, lower, upper⟩
      · exact .inl stored
      · exact .inr ⟨serial, items, same, Nat.le_trans early.le lower, upper⟩
  · have apart : ∀ {items others}, .list (heap.supply serial) items ∈ Value.partsOfAll first →
        .list (heap.supply serial) others ∉ Value.partsOfAll second := by
      intro items others own other
      have upper := (early.bounds keeps own).2
      have lower := (late.bounds keeps other).1
      omega
    rw [Value.partsOfAll_append, List.mem_append] at own other
    rcases own with own | own <;> rcases other with other | other
    · exact early.unique own other
    · exact absurd other (apart own)
    · exact absurd own (apart other)
    · exact late.unique own other

/-- A list that comes into being last has the last serial number. -/
theorem list (keeps : heap.Keeps store) (minted : Minted heap store start stop values) :
    Minted heap store start (stop + 1) [.list (heap.supply stop) values] := by
  have parts : Value.partsOfAll [.list (heap.supply stop) values] =
      .list (heap.supply stop) values :: Value.partsOfAll values := by
    rw [Value.partsOfAll, Value.parts, Value.partsOfAll, List.append_nil]
  have last : ∀ {items}, .list (heap.supply stop) items ∉ Value.partsOfAll values :=
    fun member => Nat.lt_irrefl _ (minted.bounds keeps member).2
  refine ⟨Nat.le_succ_of_le minted.le, fun part member => ?_, fun {serial} _ _ own other => ?_⟩
  · rw [parts] at member
    rcases List.mem_cons.mp member with rfl | own
    · exact .inr ⟨stop, values, rfl, minted.le, Nat.lt_succ_self stop⟩
    · rcases minted.origin part own with stored | ⟨serial, items, same, lower, upper⟩
      · exact .inl stored
      · exact .inr ⟨serial, items, same, lower, Nat.lt_succ_of_lt upper⟩
  · rw [parts] at own other
    rcases List.mem_cons.mp own with same | own <;> rcases List.mem_cons.mp other with same' | other
    · exact (Value.list.inj same).2.trans (Value.list.inj same').2.symm
    · rw [(Value.list.inj same).1] at other
      exact absurd other last
    · rw [(Value.list.inj same').1] at own
      exact absurd own last
    · exact minted.unique own other

/-- Together with the store, such values are coherent. -/
theorem coherent (keeps : heap.Keeps store) (minted : Minted heap store start stop values) :
    Value.Coherent (store ++ values) := by
  have origin : ∀ part ∈ Value.partsOfAll (store ++ values), part ∈ Value.partsOfAll store ∨
      ∃ serial items, part = .list (heap.supply serial) items ∧
        part ∈ Value.partsOfAll values := by
    intro part member
    rw [Value.partsOfAll_append, List.mem_append] at member
    rcases member with stored | own
    · exact .inl stored
    · rcases minted.origin part own with stored | ⟨serial, items, same, _⟩
      · exact .inl stored
      · exact .inr ⟨serial, items, same, own⟩
  intro listed member isList other otherMember same
  rcases origin listed member with stored | ⟨serial, items, rfl, own⟩
  · rcases origin other otherMember with stored' | ⟨serial, items, rfl, _⟩
    · exact keeps.coherent listed stored isList other stored' same
    · exact absurd same.symm (keeps.apart listed stored serial)
  · rcases origin other otherMember with stored | ⟨serial', items', rfl, own'⟩
    · exact absurd same (keeps.apart other stored serial)
    · obtain rfl := keeps.injective (Option.some.inj same)
      rw [minted.unique own own']

end Minted

namespace Template

variable {heap : Heap} {store : List Value}

mutual

/-- The value of a template brings into being what the template asks for. -/
theorem minted_materialize (keeps : heap.Keeps store) (start : Nat) : (template : Template) →
    (∀ value ∈ template.given, value ∈ store) →
    Minted heap store start (template.materialize heap.supply start).2
      [(template.materialize heap.supply start).1]
  | .existing _, given => .stored keeps (given _ List.mem_cons_self) start
  | .fresh items, given => (minted_materializeAll keeps start items given).list keeps

theorem minted_materializeAll (keeps : heap.Keeps store) (start : Nat) :
    (items : List Template) → (∀ value ∈ givenAll items, value ∈ store) →
    Minted heap store start (materializeAll heap.supply items start).2
      (materializeAll heap.supply items start).1
  | [], _ => .nil heap store start
  | first :: rest, given =>
    (minted_materialize keeps start first fun value member =>
      given value (List.mem_append_left _ member)).append keeps
        (minted_materializeAll keeps _ rest fun value member =>
          given value (List.mem_append_right _ member))

end

end Template

/-! ### Every walk -/

/-- An answer brings into being what its template asks for. -/
theorem Heap.Keeps.minted_reply {heap : Heap} {store : List Value} (keeps : heap.Keeps store)
    {world : World} {object : Identity} {accessor : String} {value : Value} {allocated : Nat}
    (replied : heap.reply world object accessor = (.ok value, allocated)) :
    Minted heap store world.allocated allocated [value] := by
  obtain ⟨template, answered, materialized⟩ := exists_template_of_reply replied
  have minted := template.minted_materialize keeps world.allocated (keeps.answers answered)
  rwa [materialized] at minted

/-- An accessor that fails brings nothing into being. -/
theorem Heap.allocated_of_reply {heap : Heap} {world : World} {object : Identity}
    {accessor : String} {fault : AccessorFault} {allocated : Nat}
    (replied : heap.reply world object accessor = (.error fault, allocated)) :
    allocated = world.allocated := by
  unfold reply at replied
  split at replied <;> cases replied
  rfl

/-- What a walk leaves of the world, once an answer is noted. -/
theorem Ledger.allocated_of_record {ledger ledger' : Ledger} {method : Method} {value : Value}
    {run noted : Run} {invocation : Invocation} {allocated : Nat}
    (recorded : ledger.record method value ((run.note invocation allocated).retain value) =
      .ok ledger' noted) : noted.world.allocated = allocated := by
  obtain ⟨_, _, _, same, _⟩ := record_frame recorded
  rw [same]
  rfl

section Walks

variable {heap : Heap} {store : List Value}

/-- The answers in a part of a walk bring into being what the world counts. -/
theorem Walked.minted (keeps : heap.Keeps store) {part : Part} {before after : Run}
    {events : List Event} (walked : Walked heap part before events after) :
    Minted heap store before.world.allocated after.world.allocated
      (Invocation.answers (Event.invocations events)) := by
  induction walked with
  | scalar | known | noItem | reused | null | noMethod => exact .nil _ _ _
  | recalled =>
    rw [Run.recordFor_world]
    exact .nil _ _ _
  | list _ _ inductionHypothesis => exact inductionHypothesis
  | literalObject _ _ _ inductionHypothesis => exact inductionHypothesis
  | item _ _ head tail =>
    rw [Event.invocations_append, Invocation.answers_append]
    exact head.append keeps tail
  | rendered _ _ _ _ inductionHypothesis => exact inductionHypothesis
  | literal _ _ inductionHypothesis =>
    rw [Run.recordFor_world]
    exact inductionHypothesis
  | expanded _ _ inductionHypothesis => exact inductionHypothesis
  | skipped _ _ inductionHypothesis => exact inductionHypothesis
  | method _ replied recorded _ _ expressed later =>
    rw [Ledger.allocated_of_record recorded] at expressed
    rw [Event.invocations_cons_call, Event.invocations_append, Invocation.answers_cons_ok,
      Invocation.answers_append]
    exact (keeps.minted_reply replied).append keeps (expressed.append keeps later)

/-- So do the answers in a part that fails. -/
theorem Stopped.minted (keeps : heap.Keeps store) {task : Task} {before after : Run}
    {events : List Event} {stop : Stop} (stopped : Stopped heap task before events stop after) :
    Minted heap store before.world.allocated after.world.allocated
      (Invocation.answers (Event.invocations events)) := by
  induction stopped with
  | untargeted | unbuilt | reentered | exhausted | unrouted | shapeless => exact .nil _ _ _
  | list _ _ inductionHypothesis => exact inductionHypothesis
  | literalObject _ _ _ inductionHypothesis => exact inductionHypothesis
  | item _ inductionHypothesis => exact inductionHypothesis
  | laterItem head _ tail =>
    rw [Event.invocations_append, Invocation.answers_append]
    exact (head.minted keeps).append keeps tail
  | unrendered _ _ _ _ inductionHypothesis => exact inductionHypothesis
  | literal _ _ inductionHypothesis => exact inductionHypothesis
  | expanded _ _ inductionHypothesis => exact inductionHypothesis
  | skipped _ _ inductionHypothesis => exact inductionHypothesis
  | unanswered _ replied =>
    rw [Heap.allocated_of_reply replied]
    exact .nil _ _ _
  | unexpressed _ replied recorded _ inductionHypothesis =>
    rw [Ledger.allocated_of_record recorded] at inductionHypothesis
    exact (keeps.minted_reply replied).append keeps inductionHypothesis
  | laterMethod _ replied recorded expressed _ inductionHypothesis =>
    have written := expressed.minted keeps
    rw [Ledger.allocated_of_record recorded] at written
    rw [Event.invocations_cons_call, Event.invocations_append, Invocation.answers_cons_ok,
      Invocation.answers_append]
    exact (keeps.minted_reply replied).append keeps (written.append keeps inductionHypothesis)

theorem RootWalk.coherent (keeps : heap.Keeps store) {world : World} {number : Nat}
    {snapshot : Snapshot} {registry : Registry} {result : Except Stop String} {events : List Event}
    (root : RootWalk heap world number snapshot registry result events) :
    Value.Coherent (store ++ Invocation.answers (Event.invocations events)) := by
  cases root with
  | ok _ walked => exact (walked.minted keeps).coherent keeps
  | error _ stopped => exact (stopped.minted keeps).coherent keeps
  | outOfFuel => exact (Minted.nil heap store world.allocated).coherent keeps

namespace Heap.Keeps

variable {value : Value} {target : Target} {canned : Canned} {expanded : List Target}
  {snapshot : Snapshot} {world : World} {number : Nat}

/-- Where a heap keeps its part, identities are coherent in everything that a rendering is
answered, and in the store. -/
theorem coherent_cons (keeps : heap.Keeps store) (registry : Registry)
    (planned : Snapshot.plan value target canned expanded = .ok snapshot)
    (plain : canned.IsPlain) (placed : world.snapshots[number]? = some snapshot)
    {stored : Value} (member : stored ∈ store) :
    Value.Coherent (stored ::
      Invocation.answers ((heap.render world number registry).world.since world)) := by
  obtain ⟨events, root, invocations, _⟩ := render_rootWalk heap registry planned plain placed
  rw [invocations]
  refine (root.coherent keeps).of_subset fun other listed => ?_
  rcases List.mem_cons.mp listed with rfl | answered
  · exact List.mem_append_left _ member
  · exact List.mem_append_right _ answered

/-- So they are in the answers alone. -/
theorem coherent_of_render (keeps : heap.Keeps store) (registry : Registry)
    (planned : Snapshot.plan value target canned expanded = .ok snapshot)
    (plain : canned.IsPlain) (placed : world.snapshots[number]? = some snapshot) :
    Value.Coherent
      (Invocation.answers ((heap.render world number registry).world.since world)) := by
  obtain ⟨events, root, invocations, _⟩ := render_rootWalk heap registry planned plain placed
  rw [invocations]
  exact (root.coherent keeps).of_subset fun _ answered => List.mem_append_right _ answered

end Heap.Keeps

end Walks

/-! ### Heaps that are written down -/

mutual

/-- The templates that a body answers with. -/
def Body.templates : Body → List Template
  | .value template => [template]
  | .fail _ => []
  | .inTurn bodies => templatesAll bodies

/-- The templates that some bodies answer with. -/
def Body.templatesAll : List Body → List Template
  | [] => []
  | first :: rest => first.templates ++ templatesAll rest

end

namespace Body

mutual

/-- A body answers with its templates only. -/
theorem mem_templates {accessor : String} {turn : Nat} {template : Template} :
    (body : Body) → body.answer accessor turn = .ok template → template ∈ body.templates
  | .value _, answered => Except.ok.inj answered ▸ List.mem_singleton_self _
  | .inTurn bodies, answered => mem_templatesAll turn bodies answered

theorem mem_templatesAll {accessor : String} {turn : Nat} {template : Template} :
    (position : Nat) → (bodies : List Body) →
    answerAt accessor turn position bodies = .ok template → template ∈ templatesAll bodies
  | _, [last], answered => List.mem_append_left _ (mem_templates last answered)
  | 0, first :: _ :: _, answered => List.mem_append_left _ (mem_templates first answered)
  | position + 1, _ :: second :: rest, answered =>
    List.mem_append_right _ (mem_templatesAll position (second :: rest) answered)

end

end Body

/-- Whether an identity is that of a list that came into being while a program ran. -/
def Identity.isFresh : Identity → Bool
  | .fresh _ => true
  | .entry _ | .address _ => false

namespace Script

/-- The objects of a script, and the values that their accessors are written down with. -/
def values (script : Script) : List Value :=
  script.flatMap fun entry => .object entry.face ::
    entry.accessors.flatMap fun accessor => accessor.2.templates.flatMap (·.given)

/-- Whether identities are coherent in what is written down, and none is one of a new list. -/
def IsCoherent (script : Script) : Prop :=
  Value.Coherent script.values ∧
    ∀ part ∈ Value.partsOfAll script.values, part.identity?.any (·.isFresh) = false

instance (script : Script) : Decidable script.IsCoherent :=
  inferInstanceAs (Decidable (_ ∧ _))

/-- A script answers with what is written down. -/
theorem mem_values {script : Script} {history : List Invocation} {object : Identity}
    {accessor : String} {template : Template}
    (answered : script.answer history object accessor = .ok template) :
    ∀ value ∈ template.given, value ∈ script.values := by
  intro value given
  unfold answer at answered
  split at answered
  · cases answered
  · rename_i entry found
    split at answered
    · cases answered
    · rename_i body listed
      obtain ⟨earlier, later, same, _⟩ := List.lookup_eq_some_iff.mp listed
      have member : (accessor, body) ∈ entry.accessors := by
        rw [same]
        exact List.mem_append_right _ List.mem_cons_self
      refine List.mem_flatMap.mpr ⟨entry, List.mem_of_find?_eq_some found, ?_⟩
      refine List.mem_cons_of_mem _ (List.mem_flatMap.mpr ⟨_, member, ?_⟩)
      exact List.mem_flatMap.mpr ⟨template, body.mem_templates answered, given⟩

/-- A script that is coherent describes a heap that keeps its part. -/
theorem IsCoherent.keeps {script : Script} (coherent : script.IsCoherent) :
    script.heap.Keeps script.values where
  coherent := coherent.1
  answers := mem_values
  injective same := Identity.fresh.inj same
  apart part member serial same := by
    have other := coherent.2 part member
    rw [same] at other
    cases other

end Script

end FrozenGraph
