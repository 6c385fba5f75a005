/-
This file tells the way of a walk into the object graph. A walk comes from one task to another one
that is a part of it, with everything in between done; on its way it visits objects, of each of
which one accessor has answered and the answer is being written. The objects visited are those in
progress, in their order. As long as no further object is visited, what is written is held by what
the walk set out to write, and no accessor of an object in progress is invoked.
-/

import FrozenGraph.Proofs.Cyclic

namespace FrozenGraph

/-! ### Visits -/

/-- A node in progress, and the one of its accessors that is being worked on. -/
structure Visit where
  node : Node
  method : Method

/-- The object of a node as the chain holds it. -/
def Node.member (node : Node) : Member :=
  ⟨node.object.identity, node.object.describe⟩

/-- The visited object as the chain holds it. -/
def Visit.member (visit : Visit) : Member :=
  visit.node.member

namespace Task

/-- The object whose accessors a task goes through. -/
def members : Task → List Member
  | .methods node _ _ _ => [node.member]
  | .value .. | .items .. | .object .. | .answer .. => []

/-- The visit that a task is about to make: the next accessor in turn is worked on. -/
def visits : Task → List Visit
  | .methods node _ _ (method :: _) => [⟨node, method⟩]
  | .methods _ _ _ [] | .value .. | .items .. | .object .. | .answer .. => []

end Task

/-- The walk of a task in a state comes to another task in another state, through some visits. -/
inductive Comes (heap : Heap) : Task → Run → List Visit → Task → Run → Prop
  | here {task run} : Comes heap task run [] task run
  | list {registry expansions declared identity items before visits place run}
    (unknown : before.session.memo.find? identity = none)
    (inner : Comes heap (.items registry expansions items) before visits place run) :
    Comes heap (.value registry expansions declared (.list identity items)) before visits place run
  | literalObject {registry expansions declared live target before visits place run}
    (unknown : before.session.memo.find? live.identity = none)
    (fits : Encode.targetFor? registry expansions declared live.runtime = some target)
    (inner : Comes heap (.object registry expansions live target) before visits place run) :
    Comes heap (.value registry expansions declared (.object live)) before visits place run
  | item {registry expansions value rest before visits place run}
    (inner : Comes heap (.value registry expansions none value) (before.retain value) visits place
      run) :
    Comes heap (.items registry expansions (value :: rest)) before visits place run
  | laterItem {registry expansions value rest code before between events visits place run}
    (head : Walked heap (.value registry expansions none value code) (before.retain value) events
      between)
    (inner : Comes heap (.items registry expansions rest) between visits place run) :
    Comes heap (.items registry expansions (value :: rest)) before visits place run
  | rendered {registry expansions object target node before visits place run}
    (unknown : before.session.memo.find? object.identity = none)
    (built : Node.build object target expansions = .ok node)
    (free : before.session.chain.contains object.identity = false)
    (inner : Comes heap (.methods node registry .empty node.accessors)
      (before.enter object target) visits place run) :
    Comes heap (.object registry expansions object target) before visits place run
  | literal {node registry declared value before visits place run}
    (routed : Route.choose registry node.expansions before.session declared value = .ok .literal)
    (inner : Comes heap (.value (node.inner registry) node.expansions (some declared) value)
      before visits place run) :
    Comes heap (.answer node registry declared value) before visits place run
  | expanded {node registry declared live target before visits place run}
    (routed : Route.choose registry node.expansions before.session declared (.object live) =
      .ok (.expand target))
    (inner : Comes heap (.object (node.inner registry) node.expansions live target) before visits
      place run) :
    Comes heap (.answer node registry declared (.object live)) before visits place run
  | skipped {node registry ledger method rest before visits place run}
    (void : method.returns = .void)
    (inner : Comes heap (.methods node registry ledger rest) before visits place run) :
    Comes heap (.methods node registry ledger (method :: rest)) before visits place run
  | answered {node registry ledger ledger' method rest value allocated before noted visits place
      run}
    (answers : method.returns ≠ .void)
    (replied : heap.reply before.world node.object.identity method.name = (.ok value, allocated))
    (recorded : ledger.record method value
      ((before.note ⟨node.object.identity, method.name, .ok value⟩ allocated).retain value) =
      .ok ledger' noted)
    (inner : Comes heap (.answer node registry method.returns value) noted visits place run) :
    Comes heap (.methods node registry ledger (method :: rest)) before (⟨node, method⟩ :: visits)
      place run
  | laterMethod {node registry ledger ledger' method rest value allocated code before noted between
      events visits place run}
    (answers : method.returns ≠ .void)
    (replied : heap.reply before.world node.object.identity method.name = (.ok value, allocated))
    (recorded : ledger.record method value
      ((before.note ⟨node.object.identity, method.name, .ok value⟩ allocated).retain value) =
      .ok ledger' noted)
    (expressed : Walked heap (.answer node registry method.returns value code) noted events between)
    (inner : Comes heap (.methods node registry ledger' rest) between visits place run) :
    Comes heap (.methods node registry ledger (method :: rest)) before visits place run

/-- A part of a walk that is no list of methods invokes no accessor of an object in progress. -/
theorem Walked.on_eq {heap : Heap} {part : Part} {before after : Run} {events : List Event}
    (walked : Walked heap part before events after) (aside : part.host? = none) {object : Identity}
    (busy : before.session.chain.contains object) :
    Invocation.on object after.world.history = Invocation.on object before.world.history := by
  have once := walked.once fun host hosted => by
    rw [aside] at hosted
    cases hosted
  have fresh : object ∉ Event.objects events := fun begun => by
    have free := once.free object begun
    rw [busy] at free
    cases free
  have silent : Invocation.on object (Event.invocations events) = [] :=
    once.on_eq_nil fresh (by rw [aside]; exact nofun)
  rw [walked.growsBy.history, Invocation.on_append, Invocation.on, List.filter_reverse]
  exact congrArg (·.reverse ++ _) silent

namespace Comes

variable {heap : Heap} {task place : Task} {before run : Run} {visits : List Visit}

/-- The objects in progress are those that were in progress at the start, and then those that were
visited, in their order. -/
theorem chain_eq (comes : Comes heap task before visits place run) {outer : List Member}
    (progress : before.session.chain.members = outer ++ task.members) :
    run.session.chain.members = outer ++ visits.map Visit.member ++ place.members := by
  induction comes generalizing outer with
  | here => rw [List.map_nil, List.append_nil, progress]
  | list _ _ inductionHypothesis => exact inductionHypothesis progress
  | literalObject _ _ _ inductionHypothesis => exact inductionHypothesis progress
  | item _ inductionHypothesis =>
    exact inductionHypothesis (by rw [Run.retain_chain]; exact progress)
  | laterItem head _ inductionHypothesis =>
    exact inductionHypothesis (by rw [head.chain_eq, Run.retain_chain]; exact progress)
  | @rendered _ _ object _ _ before _ _ _ _ built _ _ inductionHypothesis =>
    obtain ⟨rfl, _, _, _, _, _, _⟩ := Node.built_of_build built
    refine inductionHypothesis ?_
    show before.session.chain.members ++ _ = _
    rw [progress]
    exact congrArg (· ++ _) (List.append_nil outer)
  | literal _ _ inductionHypothesis => exact inductionHypothesis progress
  | expanded _ _ inductionHypothesis => exact inductionHypothesis progress
  | skipped _ _ inductionHypothesis => exact inductionHypothesis progress
  | @answered node _ _ _ _ _ _ _ _ noted _ _ _ _ _ recorded _ inductionHypothesis =>
    have entered : noted.session.chain.members = (outer ++ [node.member]) ++ [] := by
      rw [Ledger.chain_of_record recorded, progress]
      exact (List.append_nil _).symm
    simp [inductionHypothesis entered, Visit.member]
  | laterMethod _ _ recorded expressed _ inductionHypothesis =>
    exact inductionHypothesis
      (by rw [expressed.chain_eq, Ledger.chain_of_record recorded]; exact progress)

/-- Without a visit, a walk through accessors is still among them. -/
theorem values_of_methods (comes : Comes heap task before visits place run) (alone : visits = [])
    {member : Member} (among : member ∈ task.members) : place.values = [] := by
  induction comes with
  | here =>
    rename_i task _
    cases task with
    | methods => rfl
    | value | items | object | answer => cases among
  | skipped _ _ inductionHypothesis => exact inductionHypothesis alone among
  | laterMethod _ _ _ _ _ inductionHypothesis => exact inductionHypothesis alone among
  | answered => cases alone
  | list | literalObject | item | laterItem | rendered | literal | expanded => cases among

/-- Without a visit, what is written is held by what the walk set out to write. -/
theorem mem_parts (comes : Comes heap task before visits place run) (alone : visits = [])
    {part : Value} (written : part ∈ place.values) : ∃ whole ∈ task.values, part ∈ whole.parts := by
  induction comes with
  | here => exact ⟨part, written, Value.mem_parts_self part⟩
  | list _ _ inductionHypothesis =>
    obtain ⟨item, listed, held⟩ := inductionHypothesis alone written
    exact ⟨_, List.mem_cons_self,
      List.mem_cons_of_mem _ (Value.mem_partsOfAll.mpr ⟨item, listed, held⟩)⟩
  | literalObject _ _ _ inductionHypothesis => exact inductionHypothesis alone written
  | item _ inductionHypothesis =>
    obtain ⟨whole, member, held⟩ := inductionHypothesis alone written
    exact ⟨whole, List.mem_cons.mpr (.inl (List.mem_singleton.mp member)), held⟩
  | laterItem _ _ inductionHypothesis =>
    obtain ⟨whole, member, held⟩ := inductionHypothesis alone written
    exact ⟨whole, List.mem_cons_of_mem _ member, held⟩
  | rendered _ _ _ inner _ =>
    rw [inner.values_of_methods alone List.mem_cons_self] at written
    cases written
  | literal _ _ inductionHypothesis => exact inductionHypothesis alone written
  | expanded _ _ inductionHypothesis => exact inductionHypothesis alone written
  | skipped _ inner _ =>
    rw [inner.values_of_methods alone List.mem_cons_self] at written
    cases written
  | answered => cases alone
  | laterMethod _ _ _ _ inner _ =>
    rw [inner.values_of_methods alone List.mem_cons_self] at written
    cases written

/-- Without a visit, no accessor of an object in progress is invoked before something is written. -/
theorem on_eq (comes : Comes heap task before visits place run) (alone : visits = [])
    {part : Value} (written : part ∈ place.values) {object : Identity}
    (busy : before.session.chain.contains object) :
    Invocation.on object run.world.history = Invocation.on object before.world.history := by
  induction comes with
  | here => rfl
  | list _ _ inductionHypothesis => exact inductionHypothesis alone written busy
  | literalObject _ _ _ inductionHypothesis => exact inductionHypothesis alone written busy
  | item _ inductionHypothesis =>
    exact inductionHypothesis alone written (by rwa [Run.retain_chain])
  | @laterItem _ _ value _ _ before _ _ _ _ _ head _ inductionHypothesis =>
    have progress : (before.retain value).session.chain.contains object := by
      rwa [Run.retain_chain]
    exact (inductionHypothesis alone written (by rwa [head.chain_eq])).trans
      (head.on_eq rfl progress)
  | rendered _ _ _ inner _ =>
    rw [inner.values_of_methods alone List.mem_cons_self] at written
    cases written
  | literal _ _ inductionHypothesis => exact inductionHypothesis alone written busy
  | expanded _ _ inductionHypothesis => exact inductionHypothesis alone written busy
  | skipped _ inner _ =>
    rw [inner.values_of_methods alone List.mem_cons_self] at written
    cases written
  | answered => cases alone
  | laterMethod _ _ _ _ inner _ =>
    rw [inner.values_of_methods alone List.mem_cons_self] at written
    cases written

end Comes

end FrozenGraph
