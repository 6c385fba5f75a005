/-
This file shows that everything a walk records can be printed at once. A session that starts with
expressions without open statements gets no other ones: the objects that are rendered on the way are
recorded when their text is there.
-/

import FrozenGraph.Proofs.Framed
import FrozenGraph.Proofs.Routed

namespace FrozenGraph

/-- Whether every expression that a session knows has only finished statements. -/
def Session.IsReady (session : Session) : Prop :=
  ∀ identity code, session.memo.find? identity = some code → code.IsFinished

/-- Whether the expressions that came of a part have only finished statements. -/
def Part.IsFinished : Part → Prop
  | .value _ _ _ _ code | .object _ _ _ _ code | .answer _ _ _ _ code => code.IsFinished
  | .items _ _ _ codes => Code.IsFinished (.list codes)
  | .methods node _ _ _ overrides => Code.IsFinished (.anonymous node.target.declaredType overrides)

namespace Code

theorem isFinished_literal (scalar : Scalar) : Code.IsFinished (.literal scalar) :=
  fun _ member => nomatch member

/-- A node with its text is finished. -/
theorem isFinished_complete (node : Node) (text : String) :
    Code.IsFinished (.deferred (.node (node.complete text))) := by
  intro statement member
  rw [List.mem_singleton.mp member]
  exact Option.isSome_some

theorem isFinished_items_cons {code : Code} {codes : List Code} (head : code.IsFinished)
    (tail : Code.IsFinished (.list codes)) : Code.IsFinished (.list (code :: codes)) := by
  intro statement member
  rcases List.mem_append.mp member with own | later
  · exact head statement own
  · exact tail statement later

theorem isFinished_overrides_cons {extended : DeclaredType} {name : String}
    {returns : DeclaredType} {code : Code} {overrides : List (Override Deferred)}
    (head : code.IsFinished) (tail : Code.IsFinished (.anonymous extended overrides)) :
    Code.IsFinished (.anonymous extended (.returning name returns code :: overrides)) := by
  intro statement member
  rcases List.mem_append.mp member with own | later
  · exact head statement own
  · exact tail statement later

end Code

namespace Session.IsReady

theorem record {session : Session} {identity : Identity} {code : Code} (ready : session.IsReady)
    (finished : code.IsFinished) : (session.record identity code).IsReady := by
  intro other found known
  rcases Memo.find?_record_iff.mp known with earlier | ⟨_, _, rfl⟩
  · exact ready other found earlier
  · exact finished

theorem recordFor {run : Run} {value : Value} {code : Code} (ready : run.session.IsReady)
    (finished : code.IsFinished) : (run.recordFor value code).session.IsReady := by
  unfold Run.recordFor
  split
  · exact ready.record finished
  · exact ready

theorem of_memo_eq {first second : Session} (ready : first.IsReady)
    (same : second.memo = first.memo) : second.IsReady := by
  intro identity code known
  rw [same] at known
  exact ready identity code known

end Session.IsReady

/-- What comes of a walk is finished, and so is everything that the session knows after it. -/
theorem Walked.ready {heap : Heap} {part : Part} {before after : Run} {events : List Event}
    (walked : Walked heap part before events after) (ready : before.session.IsReady) :
    part.IsFinished ∧ after.session.IsReady := by
  induction walked with
  | scalar => exact ⟨Code.isFinished_literal _, ready⟩
  | known _ found => exact ⟨ready _ _ found, ready⟩
  | list _ _ inductionHypothesis =>
    obtain ⟨finished, kept⟩ := inductionHypothesis ready
    exact ⟨finished, kept.record finished⟩
  | literalObject _ _ _ inductionHypothesis => exact inductionHypothesis ready
  | noItem => exact ⟨(fun _ member => nomatch member), ready⟩
  | item _ _ head tail =>
    obtain ⟨first, between⟩ := head (ready.of_memo_eq (Run.retain_memo _ _))
    obtain ⟨rest, kept⟩ := tail between
    exact ⟨Code.isFinished_items_cons first rest, kept⟩
  | reused found => exact ⟨ready _ _ found, ready⟩
  | rendered _ _ _ _ inductionHypothesis =>
    obtain ⟨_, kept⟩ := inductionHypothesis ready
    exact ⟨Code.isFinished_complete _ _, kept.record (Code.isFinished_complete _ _)⟩
  | null => exact ⟨Code.isFinished_literal _, ready⟩
  | recalled routed =>
    obtain ⟨identity, _, found⟩ := Route.known_of_choose routed
    exact ⟨ready _ _ found, ready.recordFor (ready _ _ found)⟩
  | literal _ _ inductionHypothesis =>
    obtain ⟨finished, kept⟩ := inductionHypothesis ready
    exact ⟨finished, kept.recordFor finished⟩
  | expanded _ _ inductionHypothesis =>
    obtain ⟨finished, kept⟩ := inductionHypothesis ready
    exact ⟨finished, kept.record finished⟩
  | noMethod => exact ⟨(fun _ member => nomatch member), ready⟩
  | skipped _ _ inductionHypothesis => exact inductionHypothesis ready
  | method _ _ recorded _ _ expressed later =>
    obtain ⟨first, between⟩ := expressed (ready.of_memo_eq (Ledger.memo_of_record recorded))
    obtain ⟨rest, after⟩ := later between
    exact ⟨Code.isFinished_overrides_cons first rest, after⟩

end FrozenGraph
