/-
This file says what it is for everything that a rendering reads or keeps to be the same but for the
order in which targets declare their methods. Targets stand in registries, in the expansions of
nodes, and, with the nodes, in expressions and snapshots; wherever one is looked up, the same one is
found on both sides, since a search asks for names only.
-/

import FrozenGraph.Proofs.Paired
import FrozenGraph.Proofs.Sorted

namespace FrozenGraph

/-! ### Targets -/

namespace Target.Reordered

variable {target target' : Target} (same : target.Reordered target')

include same

theorem accepts_eq (runtime : RuntimeType) : target'.accepts runtime = target.accepts runtime := by
  rw [accepts, accepts, same.name]

theorem declaredType_eq : target'.declaredType = target.declaredType := by
  rw [declaredType, declaredType, same.name]

theorem obstacle?_eq : target'.obstacle? = target.obstacle? := by
  rw [obstacle?, obstacle?, same.kind]

/-- Both have the same accessors, or neither has any because of a method with parameters. -/
theorem accessors : Except.Lifted (fun _ _ => True) Eq target.accessors target'.accessors := by
  have equal := same.toOption_accessors
  cases listed : target.accessors with
  | ok accessors =>
    cases listed' : target'.accessors with
    | ok accessors' =>
      rw [listed, listed'] at equal
      exact .ok (Option.some.inj equal).symm
    | error report =>
      rw [listed, listed'] at equal
      cases equal
  | error report =>
    cases listed' : target'.accessors with
    | ok accessors' =>
      rw [listed, listed'] at equal
      cases equal
    | error report' => exact .error trivial

end Target.Reordered

/-! ### Expansions and registries -/

/-- The same targets are expanded, in the same order. -/
def Expansions.Reordered (expansions expansions' : Expansions) : Prop :=
  List.Forall₂ Target.Reordered expansions.targets expansions'.targets

/-- Two scopes add the same. -/
structure Scope.Reordered (scope scope' : Scope) : Prop where
  valueTypes : scope'.valueTypes = scope.valueTypes
  targets : List.Forall₂ Target.Reordered scope.targets scope'.targets

/-- Two registries hold the same, scope by scope. -/
structure Registry.Reordered (registry registry' : Registry) : Prop where
  options : registry'.options = registry.options
  scopes : List.Forall₂ Scope.Reordered registry.scopes registry'.scopes

namespace Expansions.Reordered

variable {expansions expansions' : Expansions} (same : expansions.Reordered expansions')

include same

theorem byName? (name : TypeName) :
    Option.Rel Target.Reordered (expansions.byName? name) (expansions'.byName? name) :=
  find?_of_forall₂ same fun target => by rw [target.name]

theorem byDeclared? (declared : DeclaredType) :
    Option.Rel Target.Reordered (expansions.byDeclared? declared)
      (expansions'.byDeclared? declared) := by
  rw [Expansions.byDeclared?, Expansions.byDeclared?]
  cases declared.erasedName with
  | none => exact .none
  | some name => exact same.byName? name

theorem accepting? (runtime : RuntimeType) :
    Option.Rel Target.Reordered (expansions.accepting? runtime)
      (expansions'.accepting? runtime) :=
  find?_of_forall₂ same fun target => target.accepts_eq runtime

theorem add {target target' : Target} (added : target.Reordered target') :
    (expansions.add target).Reordered (expansions'.add target') := by
  rw [Expansions.add, Expansions.add, added.name, isSome_of_rel (same.byName? target.name)]
  split
  · exact same
  · exact List.rel_append same (.cons added .nil)

end Expansions.Reordered

/-- The same targets are kept of two lists with the same ones. -/
theorem Expansions.reordered_ofList {targets targets' : List Target}
    (same : List.Forall₂ Target.Reordered targets targets') :
    (Expansions.ofList targets).Reordered (.ofList targets') := by
  have started : Expansions.none.Reordered .none := .nil
  exact List.rel_foldl (fun _ _ kept _ _ added => kept.add added) started same

namespace Registry.Reordered

variable {registry registry' : Registry} (same : registry.Reordered registry')

include same

theorem byName? (name : TypeName) :
    Option.Rel Target.Reordered (registry.byName? name) (registry'.byName? name) :=
  findSome?_of_forall₂ same.scopes fun scope =>
    find?_of_forall₂ scope.targets fun target => by rw [target.name]

theorem accepting? (runtime : RuntimeType) :
    Option.Rel Target.Reordered (registry.accepting? runtime) (registry'.accepting? runtime) :=
  findSome?_of_forall₂ same.scopes fun scope =>
    find?_of_forall₂ scope.targets fun target => target.accepts_eq runtime

theorem isValueType_eq (name : TypeName) :
    registry'.isValueType name = registry.isValueType name := by
  rw [isValueType, isValueType, any_of_forall₂ same.scopes fun scope => by rw [scope.valueTypes]]

theorem hasLiteral_eq (declared : DeclaredType) :
    registry'.hasLiteral declared = registry.hasLiteral declared := by
  cases declared with
  | void | primitive _ => rfl
  | named name _ =>
    rw [hasLiteral, hasLiteral, same.isValueType_eq, isSome_of_rel (same.byName? name.erased)]

theorem withTargets {targets targets' : List Target}
    (more : List.Forall₂ Target.Reordered targets targets') :
    (registry.withTargets targets).Reordered (registry'.withTargets targets') :=
  ⟨same.options, .cons ⟨rfl, more⟩ same.scopes⟩

end Registry.Reordered

/-- The same target is found for an object. -/
theorem Encode.targetFor?_reordered {registry registry' : Registry}
    (registries : registry.Reordered registry') {expansions expansions' : Expansions}
    (all : expansions.Reordered expansions') (declared : Option DeclaredType)
    (runtime : RuntimeType) :
    Option.Rel Target.Reordered (targetFor? registry expansions declared runtime)
      (targetFor? registry' expansions' declared runtime) := by
  have byDeclared : Option.Rel Target.Reordered
      (declared.bind (declaredTarget? registry expansions))
      (declared.bind (declaredTarget? registry' expansions')) := by
    cases declared with
    | none => exact .none
    | some declared =>
      show Option.Rel _ (declared.erasedName.bind _) (declared.erasedName.bind _)
      cases declared.erasedName with
      | none => exact .none
      | some name => exact or_of_rel (registries.byName? name) (all.byName? name)
  exact or_of_rel
    (or_of_rel (filter_of_rel byDeclared fun target => target.accepts_eq runtime)
      (all.accepting? runtime))
    (registries.accepting? runtime)

/-! ### Nodes and expressions -/

/-- Two nodes plan one object, with the same accessors. -/
structure Node.Reordered (node node' : Node) : Prop where
  object : node'.object = node.object
  target : node.target.Reordered node'.target
  accessors : node'.accessors = node.accessors
  expansions : node.expansions.Reordered node'.expansions
  state : node'.state = node.state
  cached : node'.cached = node.cached

/-- Two statements are the same but for the targets in their nodes. -/
inductive Deferred.Reordered : Deferred → Deferred → Prop
  | text (content : String) : Reordered (.text content) (.text content)
  | failing (details : String) : Reordered (.failing details) (.failing details)
  | node {node node'} (same : node.Reordered node') : Reordered (.node node) (.node node')
  | snapshot (number : Nat) : Reordered (.snapshot number) (.snapshot number)

/-- Two expressions are the same but for the targets in their nodes. -/
abbrev Code.Reordered : Code → Code → Prop :=
  Expr.Lifted Deferred.Reordered

/-! ### Sessions -/

/-- The same expressions are known. -/
structure Memo.Reordered (memo memo' : Memo) : Prop where
  find? : ∀ identity, Option.Rel Code.Reordered (memo.find? identity) (memo'.find? identity)

/-- The same expressions stand in for objects and lists. -/
structure Canned.Reordered (canned canned' : Canned) : Prop where
  find? : ∀ identity, Option.Rel Code.Reordered (canned.find? identity) (canned'.find? identity)

/-- Two sessions know the same; what they keep alive is never read. -/
structure Session.Reordered (session session' : Session) : Prop where
  chain : session'.chain = session.chain
  memo : session.memo.Reordered session'.memo

theorem Memo.Reordered.record {memo memo' : Memo} (same : memo.Reordered memo')
    (identity : Identity) {code code' : Code} (written : code.Reordered code') :
    (memo.record identity code).Reordered (memo'.record identity code') := by
  refine ⟨fun other => ?_⟩
  rw [Memo.find?_record, Memo.find?_record]
  refine or_of_rel (same.find? other) ?_
  split
  · exact .some written
  · exact .none

namespace Session.Reordered

variable {session session' : Session}

theorem empty : Session.empty.Reordered .empty :=
  ⟨rfl, ⟨fun _ => .none⟩⟩

/-- Sessions that open with the same canned representations know the same. -/
theorem opening {canned canned' : Canned} (same : canned.Reordered canned') :
    (Session.opening canned).Reordered (.opening canned') := by
  refine ⟨by rw [opening_chain, opening_chain], ⟨fun identity => ?_⟩⟩
  rw [opening_find?, opening_find?]
  exact same.find? identity

theorem retain (same : session.Reordered session') (value : Value) :
    (session.retain value).Reordered (session'.retain value) := by
  rw [Session.retain, Session.retain]
  split
  · exact ⟨same.chain, same.memo⟩
  · exact same

theorem record (same : session.Reordered session') (identity : Identity) {code code' : Code}
    (written : code.Reordered code') :
    (session.record identity code).Reordered (session'.record identity code') :=
  ⟨same.chain, same.memo.record identity written⟩

theorem enter (same : session.Reordered session') (identity : Identity) (description : String) :
    Except.Lifted (fun _ _ => True) Session.Reordered (session.enter identity description)
      (session'.enter identity description) := by
  rw [Session.enter, Session.enter, same.chain]
  cases session.chain.enter identity description with
  | error report => exact .error trivial
  | ok chain => exact .ok ⟨rfl, same.memo⟩

theorem leave (same : session.Reordered session') (identity : Identity) :
    (session.leave identity).Reordered (session'.leave identity) :=
  ⟨congrArg (·.leave identity) same.chain, same.memo⟩

end Session.Reordered

/-! ### Worlds -/

/-- One object is rendered, as the same target. -/
structure Rendering.Reordered (rendering rendering' : Rendering) : Prop where
  object : rendering'.object = rendering.object
  target : rendering.target.Reordered rendering'.target

/-- Two snapshots are the same but for the targets in them. -/
structure Snapshot.Reordered (snapshot snapshot' : Snapshot) : Prop where
  root : snapshot.root.Reordered snapshot'.root
  canned : snapshot.canned.Reordered snapshot'.canned
  origins : snapshot'.origins = snapshot.origins

/-- The same has happened in two worlds. -/
structure World.Reordered (world world' : World) : Prop where
  history : world'.history = world.history
  renderings : List.Forall₂ Rendering.Reordered world.renderings world'.renderings
  allocated : world'.allocated = world.allocated
  snapshots : List.Forall₂ Snapshot.Reordered world.snapshots world'.snapshots

/-- Two states are the same but for the targets in them. -/
structure Run.Reordered (run run' : Run) : Prop where
  world : run.world.Reordered run'.world
  session : run.session.Reordered run'.session

/-- A snapshot that is added to both worlds gets the same number. -/
theorem World.Reordered.add {world world' : World} (worlds : world.Reordered world')
    {snapshot snapshot' : Snapshot} (same : snapshot.Reordered snapshot') :
    (world.add snapshot).1.Reordered (world'.add snapshot').1 ∧
      (world'.add snapshot').2 = (world.add snapshot).2 :=
  ⟨⟨worlds.history, worlds.renderings, worlds.allocated,
    List.rel_append worlds.snapshots (.cons same .nil)⟩, worlds.snapshots.length_eq.symm⟩

/-- The same was invoked meanwhile. -/
theorem World.Reordered.since_eq {world world' later later' : World}
    (worlds : world.Reordered world') (after : later.Reordered later') :
    later'.since world' = later.since world := by
  rw [World.since, World.since, after.history, worlds.history]

/-! ### Unchanged declarations -/

namespace Expr

variable {δ : Type} {statements : δ → δ → Prop}

mutual

/-- An expression is the same as itself, if the statements in it are. -/
theorem lifted_refl (unchanged : ∀ statement, statements statement statement) :
    (expression : Expr δ) → Lifted statements expression expression
  | .literal value => .literal value
  | .reference name => .reference name
  | .raw text => .raw text
  | .anonymous extended overrides => .anonymous extended (overridesLifted_refl unchanged overrides)
  | .list items => .list (itemsLifted_refl unchanged items)
  | .ret inner => .ret (lifted_refl unchanged inner)
  | .deferred statement => .deferred (unchanged statement)

theorem overridesLifted_refl (unchanged : ∀ statement, statements statement statement) :
    (overrides : List (Override δ)) → OverridesLifted statements overrides overrides
  | [] => .nil
  | .empty name returns :: rest => .empty name returns (overridesLifted_refl unchanged rest)
  | .returning name returns value :: rest =>
    .returning name returns (lifted_refl unchanged value) (overridesLifted_refl unchanged rest)

theorem itemsLifted_refl (unchanged : ∀ statement, statements statement statement) :
    (items : List (Expr δ)) → ItemsLifted statements items items
  | [] => .nil
  | item :: rest => .cons (lifted_refl unchanged item) (itemsLifted_refl unchanged rest)

end

end Expr

theorem Target.forall₂_reordered_refl (targets : List Target) :
    List.Forall₂ Target.Reordered targets targets :=
  List.forall₂_same.mpr fun target _ => .refl target

theorem Registry.Reordered.refl (registry : Registry) : registry.Reordered registry :=
  ⟨rfl, List.forall₂_same.mpr fun scope _ => ⟨rfl, Target.forall₂_reordered_refl scope.targets⟩⟩

theorem Node.Reordered.refl (node : Node) : node.Reordered node :=
  ⟨rfl, .refl node.target, rfl, Target.forall₂_reordered_refl _, rfl, rfl⟩

theorem Code.reordered_refl (code : Code) : code.Reordered code :=
  Expr.lifted_refl (fun
    | .text content => .text content
    | .failing details => .failing details
    | .node node => .node (.refl node)
    | .snapshot number => .snapshot number) code

theorem Canned.Reordered.refl (canned : Canned) : canned.Reordered canned := by
  refine ⟨fun identity => ?_⟩
  cases canned.find? identity with
  | none => exact .none
  | some code => exact .some code.reordered_refl

theorem Snapshot.Reordered.refl (snapshot : Snapshot) : snapshot.Reordered snapshot :=
  ⟨.refl snapshot.root, .refl snapshot.canned, rfl⟩

theorem World.Reordered.refl (world : World) : world.Reordered world :=
  ⟨rfl, List.forall₂_same.mpr fun rendering _ => ⟨rfl, .refl rendering.target⟩, rfl,
    List.forall₂_same.mpr fun snapshot _ => .refl snapshot⟩

/-! ### Ways to write an answer -/

namespace Route

/-- Two ways to write an answer are the same but for the targets in them. -/
inductive Reordered : Route → Route → Prop
  | null : Reordered .null .null
  | known {code code'} (same : Code.Reordered code code') :
    Reordered (.known code) (.known code')
  | literal : Reordered .literal .literal
  | expand {target target'} (same : target.Reordered target') :
    Reordered (.expand target) (.expand target')

/-- The way to write an answer is the same, or there is none on either side. -/
theorem choose_reordered {registry registry' : Registry}
    (registries : registry.Reordered registry') {expansions expansions' : Expansions}
    (all : expansions.Reordered expansions') {session session' : Session}
    (sessions : session.Reordered session') (declared : DeclaredType) (value : Value) :
    Except.Lifted (fun _ _ => True) Reordered (choose registry expansions session declared value)
      (choose registry' expansions' session' declared value) := by
  have found : Option.Rel Code.Reordered (known? session value) (known? session' value) := by
    rw [known?, known?]
    cases value.identity? with
    | none => exact .none
    | some identity => exact sessions.memo.find? identity
  have target := all.byDeclared? declared
  rw [choose, choose, registries.hasLiteral_eq, sessions.chain]
  split
  · exact .ok .null
  · generalize known? session value = known at found ⊢
    generalize known? session' value = known' at found ⊢
    cases found with
    | some code => exact .ok (.known code)
    | none =>
      show Except.Lifted _ _ (ite _ _ _) (ite _ _ _)
      split
      · exact .ok .literal
      · generalize expansions.byDeclared? declared = own at target ⊢
        generalize expansions'.byDeclared? declared = own' at target ⊢
        cases target with
        | none => exact .error trivial
        | some same =>
          show Except.Lifted _ _ (ite _ _ _) (ite _ _ _)
          split
          · exact .error trivial
          · exact .ok (.expand same)

end Route

end FrozenGraph
