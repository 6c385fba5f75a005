/-
This file shows that the objects in progress are an ordered set, whatever the calls that made them.
Objects may leave in any order, more than once or without having entered, and may try to enter
again. In progress are those of which the latest call that had an effect was an entry, in the order
of these entries and with the descriptions that were given then. No identity is in progress twice;
that is why the search for its last position, with which an object leaves, finds the only one.
-/

import FrozenGraph.Proofs.Cyclic

namespace FrozenGraph.Chain

/-! ### Calls -/

/-- A call on a chain. -/
inductive Call where
  | enter (identity : Identity) (description : String)
  | leave (identity : Identity)
deriving DecidableEq, Repr

namespace Call

/-- The object that a call is about. -/
def identity : Call → Identity
  | .enter identity _ | .leave identity => identity

/-- The member that a call puts on the chain, if it does so. -/
def member? : Call → Option Member
  | .enter identity description => some ⟨identity, description⟩
  | .leave _ => none

/-- Whether a call changes the chain: an object enters that is not in progress, or one leaves that
is. -/
def takesEffect (chain : Chain) : Call → Bool
  | .enter identity _ => !chain.contains identity
  | .leave identity => chain.contains identity

end Call

/-- What a call answers, and the chain after it. -/
def call (chain : Chain) : Call → Except Report Unit × Chain
  | .enter identity description =>
    match chain.enter identity description with
    | .ok entered => (.ok (), entered)
    | .error report => (.error report, chain)
  | .leave identity => (.ok (), chain.leave identity)

/-- The chain after one call after the other. -/
def after (chain : Chain) (calls : List Call) : Chain :=
  calls.foldl (fun chain call => (chain.call call).2) chain

/-- The calls that change the chain, each at its turn. -/
def effects (chain : Chain) : List Call → List Call
  | [] => []
  | call :: rest =>
    if call.takesEffect chain then call :: (chain.call call).2.effects rest
    else (chain.call call).2.effects rest

/-- The members that were put on the chain by the latest call about them. -/
def standing : List Call → List Member
  | [] => []
  | call :: later =>
    if later.any (·.identity == call.identity) then standing later
    else call.member?.toList ++ standing later

/-- The latest call about an object. -/
def latest? (calls : List Call) (identity : Identity) : Option Call :=
  (calls.filter (·.identity == identity)).getLast?

/-! ### One call -/

section Single

variable {chain : Chain} {identity : Identity}

theorem call_enter_of_contains (busy : identity ∈ chain.identities) (description : String) :
    chain.call (.enter identity description) = (.error chain.cycleReport, chain) := by
  rw [call, enter, if_pos (contains_iff.mpr busy)]

theorem call_enter_of_free (free : identity ∉ chain.identities) (description : String) :
    chain.call (.enter identity description) =
      (.ok (), ⟨chain.members ++ [⟨identity, description⟩]⟩) := by
  rw [call, enter, if_neg (free ∘ contains_iff.mp)]

/-- In a walk, an object that is refused leaves everything as it was. -/
theorem enter_of_contains {run : Run} (busy : identity ∈ run.session.chain.identities)
    (description : String) :
    Walk.enter identity description run = .error (.failed run.session.chain.cycleReport) run := by
  rw [Walk.enter, Walk.bind_get, Session.enter, enter, if_pos (contains_iff.mpr busy)]
  rfl

theorem filter_of_notMem {members : List Member}
    (free : identity ∉ members.map Member.identity) :
    members.filter (·.identity ≠ identity) = members :=
  List.filter_eq_self.mpr fun member inside => decide_eq_true fun same =>
    free (List.mem_map.mpr ⟨member, inside, same⟩)

/-- The last position of an identity is the only one. -/
theorem removeLast_eq_filter {members : List Member}
    (distinct : (members.map Member.identity).Nodup) :
    removeLast identity members = members.filter (·.identity ≠ identity) := by
  induction members with
  | nil => rfl
  | cons first rest inductionHypothesis =>
    rw [List.map_cons, List.nodup_cons] at distinct
    obtain ⟨once, others⟩ := distinct
    rw [removeLast, inductionHypothesis others]
    by_cases own : first.identity = identity
    · subst own
      have only : ¬ rest.any (·.identity == first.identity) := by
        rw [List.any_eq_true]
        rintro ⟨other, inside, same⟩
        exact once (List.mem_map.mpr ⟨other, inside, beq_iff_eq.mp same⟩)
      rw [if_pos ⟨rfl, only⟩, List.filter_cons_of_neg (by simp), filter_of_notMem once]
    · rw [if_neg (own ∘ And.left), List.filter_cons_of_pos (by simpa using own)]

theorem leave_members (distinct : chain.identities.Nodup) (identity : Identity) :
    (chain.leave identity).members = chain.members.filter (·.identity ≠ identity) :=
  removeLast_eq_filter distinct

theorem leave_of_notMem (distinct : chain.identities.Nodup) (free : identity ∉ chain.identities) :
    chain.leave identity = chain := by
  rw [leave, removeLast_eq_filter distinct, filter_of_notMem free]

/-- A member leaves, and the others keep their order. -/
theorem leave_of_mem (distinct : chain.identities.Nodup) (busy : identity ∈ chain.identities) :
    ∃ earlier description later,
      chain.members = earlier ++ ⟨identity, description⟩ :: later ∧
      (chain.leave identity).members = earlier ++ later := by
  obtain ⟨⟨own, description⟩, inside, rfl⟩ := List.mem_map.mp busy
  obtain ⟨earlier, later, split⟩ := List.append_of_mem inside
  refine ⟨earlier, description, later, split, ?_⟩
  rw [leave_members distinct, split]
  rw [identities, split, List.map_append, List.map_cons, List.nodup_middle, List.nodup_cons,
    List.mem_append, not_or] at distinct
  obtain ⟨⟨before, behind⟩, -⟩ := distinct
  rw [List.filter_append, List.filter_cons_of_neg (by simp), filter_of_notMem before,
    filter_of_notMem behind]

end Single

/-! ### Histories -/

theorem after_concat (chain : Chain) (calls : List Call) (call : Call) :
    chain.after (calls ++ [call]) = ((chain.after calls).call call).2 := by
  simp [after]

theorem effects_concat (chain : Chain) (calls : List Call) (call : Call) :
    chain.effects (calls ++ [call]) =
      chain.effects calls ++ if call.takesEffect (chain.after calls) then [call] else [] := by
  induction calls generalizing chain with
  | nil => rfl
  | cons first rest inductionHypothesis =>
    have onward : chain.after (first :: rest) = (chain.call first).2.after rest := rfl
    rw [List.cons_append, effects, effects, inductionHypothesis, onward]
    split
    · rw [List.cons_append]
    · rfl

theorem mem_member?_iff {call : Call} {member : Member} :
    member ∈ call.member?.toList ↔ call = .enter member.identity member.description := by
  obtain ⟨identity, description⟩ := member
  cases call <;> simp [Call.member?, eq_comm]

theorem filter_member? (call : Call) (identity : Identity) :
    call.member?.toList.filter (·.identity ≠ identity) =
      if call.identity = identity then [] else call.member?.toList := by
  cases call with
  | enter own description =>
    by_cases same : own = identity <;> simp [Call.member?, Call.identity, same]
  | leave own => simp [Call.member?]

/-- Another call removes the member that it is about, and may put it back at the end. -/
theorem standing_concat (calls : List Call) (call : Call) :
    standing (calls ++ [call]) =
      (standing calls).filter (·.identity ≠ call.identity) ++ call.member?.toList := by
  induction calls with
  | nil => simp [standing]
  | cons first rest inductionHypothesis =>
    rw [List.cons_append, standing, standing, inductionHypothesis, List.any_append]
    cases again : rest.any (·.identity == first.identity) with
    | true => rfl
    | false =>
      have rejoined : (first.member?.toList ++ standing rest).filter
            (·.identity ≠ call.identity) ++ call.member?.toList =
          (if first.identity = call.identity then [] else first.member?.toList) ++
            ((standing rest).filter (·.identity ≠ call.identity) ++ call.member?.toList) := by
        rw [List.filter_append, filter_member?, List.append_assoc]
      refine Eq.trans ?_ rejoined.symm
      by_cases same : first.identity = call.identity
      · rw [if_pos (by simp [same]), if_pos same, List.nil_append]
      · rw [if_neg (by simpa using Ne.symm same), if_neg same]

theorem latest?_concat (calls : List Call) (call : Call) (identity : Identity) :
    latest? (calls ++ [call]) identity =
      if call.identity = identity then some call else latest? calls identity := by
  by_cases same : call.identity = identity <;> simp [latest?, same]

/-- A member stands if the latest call about it was its entry. -/
theorem mem_standing_iff {calls : List Call} {member : Member} :
    member ∈ standing calls ↔
      latest? calls member.identity = some (.enter member.identity member.description) := by
  induction calls using List.reverseRecOn with
  | nil => simp [standing, latest?]
  | append_singleton calls call inductionHypothesis =>
    rw [standing_concat, latest?_concat, List.mem_append, List.mem_filter, inductionHypothesis,
      mem_member?_iff]
    by_cases own : call.identity = member.identity
    · simp [own]
    · have other : call ≠ .enter member.identity member.description := by
        rintro rfl
        exact own rfl
      simp [own, other, Ne.symm own]

/-- A chain holds the members that stand after some calls. -/
structure Holds (chain : Chain) (calls : List Call) : Prop where
  members : chain.members = standing calls
  distinct : chain.identities.Nodup

/-- Each call is followed if it has an effect. -/
theorem Holds.call {chain : Chain} {calls : List Call} (holds : chain.Holds calls) (call : Call) :
    (chain.call call).2.Holds (calls ++ if call.takesEffect chain then [call] else []) := by
  obtain ⟨members, distinct⟩ := holds
  cases call with
  | enter identity description =>
    by_cases busy : identity ∈ chain.identities
    · have idle : Call.takesEffect chain (.enter identity description) = false := by
        rw [Call.takesEffect, contains_iff.mpr busy, Bool.not_true]
      rw [call_enter_of_contains busy, idle]
      exact ⟨by simpa using members, distinct⟩
    · have effective : Call.takesEffect chain (.enter identity description) = true := by
        rw [Call.takesEffect, Bool.not_eq_true', Bool.eq_false_iff]
        exact busy ∘ contains_iff.mp
      rw [call_enter_of_free busy, effective, if_pos rfl]
      refine ⟨?_, ?_⟩
      · rw [standing_concat, ← members, Call.identity, filter_of_notMem busy]
        rfl
      · rw [identities, List.map_append, List.map_singleton, ← List.concat_eq_append]
        exact distinct.concat busy
  | leave identity =>
    by_cases busy : identity ∈ chain.identities
    · have effective : Call.takesEffect chain (.leave identity) = true := contains_iff.mpr busy
      rw [effective, if_pos rfl]
      refine ⟨?_, ?_⟩
      · rw [standing_concat, ← members]
        show (chain.leave identity).members = _
        rw [leave_members distinct, Call.identity, Call.member?, Option.toList_none,
          List.append_nil]
      · show ((chain.leave identity).members.map Member.identity).Nodup
        rw [leave_members distinct]
        exact distinct.sublist (List.filter_sublist.map _)
    · have idle : Call.takesEffect chain (.leave identity) = false :=
        Bool.eq_false_iff.mpr (busy ∘ contains_iff.mp)
      have same : (chain.call (.leave identity)).2 = chain := leave_of_notMem distinct busy
      rw [idle, same]
      exact ⟨by simpa using members, distinct⟩

theorem holds_after (calls : List Call) : (empty.after calls).Holds (empty.effects calls) := by
  induction calls using List.reverseRecOn with
  | nil => exact ⟨rfl, List.nodup_nil⟩
  | append_singleton calls call inductionHypothesis =>
    rw [after_concat, effects_concat]
    exact inductionHypothesis.call call

/-- A chain is the ordered set that calls leave behind, of which those that had an effect are
given. -/
structure IsOrderedSet (chain : Chain) (effects : List Call) : Prop where
  distinct : chain.identities.Nodup
  members : chain.members = standing effects
  /-- In progress is whatever entered when its latest call had an effect. -/
  entered : ∀ member, member ∈ chain.members ↔
    latest? effects member.identity = some (.enter member.identity member.description)
  /-- What is in progress is refused, with a report of all that is, and nothing changes. -/
  refuses : ∀ identity ∈ chain.identities, ∀ description, ∃ report,
    report.fault = .cycle chain.members ∧
    chain.call (.enter identity description) = (.error report, chain) ∧
    ∀ run : Run, run.session.chain = chain →
      Walk.enter identity description run = .error (.failed report) run
  /-- Whatever else enters comes last. -/
  admits : ∀ identity ∉ chain.identities, ∀ description,
    chain.call (.enter identity description) =
      (.ok (), ⟨chain.members ++ [⟨identity, description⟩]⟩)
  ignores : ∀ identity ∉ chain.identities, chain.leave identity = chain
  releases : ∀ identity ∈ chain.identities, ∃ earlier description later,
    chain.members = earlier ++ ⟨identity, description⟩ :: later ∧
    (chain.leave identity).members = earlier ++ later

/-- The objects in progress are an ordered set after any calls on an empty chain: balanced or not,
repeated, or in any other order. -/
theorem after_isOrderedSet (calls : List Call) :
    (empty.after calls).IsOrderedSet (empty.effects calls) where
  distinct := (holds_after calls).distinct
  members := (holds_after calls).members
  entered member := by
    rw [(holds_after calls).members]
    exact mem_standing_iff
  refuses identity busy description := by
    refine ⟨_, rfl, call_enter_of_contains busy description, fun run same => ?_⟩
    rw [← same] at busy ⊢
    exact enter_of_contains busy description
  admits _ free description := call_enter_of_free free description
  ignores _ free := leave_of_notMem (holds_after calls).distinct free
  releases _ busy := leave_of_mem (holds_after calls).distinct busy

/-- An object that left out of turn and entered again comes last, under its new description. -/
example : (empty.after [.enter (.address 1) "a", .enter (.address 2) "b", .leave (.address 1),
      .leave (.address 1), .enter (.address 2) "c", .enter (.address 1) "d"]).members =
    [⟨.address 2, "b"⟩, ⟨.address 1, "d"⟩] := by
  decide

end FrozenGraph.Chain
