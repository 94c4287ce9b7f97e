import Arbiter.Judging.Apply
import Arbiter.Proofs.Program.Course
import Arbiter.Proofs.Store.Effect

/-!
The course of applying an outcome: the submission is read, then its problem, then the verdict is
written; where nothing was written the submission is read once more (`keeps_apply`). Each answer
of the store settles what the next call is or what the whole comes to, so what is known between
two calls is the place on the course and nothing else. All its calls look something up or write a
final verdict (`asks_apply`).
-/

namespace Arbiter

/-- How far the applying of an outcome has come. -/
inductive ApplyPlace where
  | arriving
  /-- The submission is pending, and the outcome is a final one. -/
  | found (x : Submission)
  | informed (x : Submission) (p : Option Problem)
  /-- The store wrote nothing. -/
  | outrun
  | ended (r : Except ApplyFailure Applied)

section Apply

variable (scoring : Scoring) (o : Outcome)

/-- What the first look at the submission comes to. -/
def ApplyPlace.seen (o : Outcome) : Option Submission → ApplyPlace
  | none => .ended (.error (.notFound o.submissionId))
  | some x =>
    if x.status.isFinal then .ended (.ok (.before x.status))
    else if !x.status.mayBecome o.status then
      .ended (.error (.illegalTransition o.submissionId x.status o.status))
    else .found x

/-- What the last look at the submission comes to. -/
def ApplyPlace.seenAgain (o : Outcome) : Option Submission → ApplyPlace
  | none => .ended (.error (.notFound o.submissionId))
  | some y => .ended (.ok (.before y.status))

/-- What is written into the submission comes to this. -/
def ApplyPlace.written : Option Submission → ApplyPlace
  | none => .outrun
  | some y => .ended (.ok (.now y))

/-- **The course of applying an outcome.** -/
def applyCourse : Course StoreInterface ApplyPlace where
  may
    | .arriving, c => c = .find o.submissionId
    | .found x, c => c = .findProblem x.problemId
    | .informed _ p, c =>
      c = .complete o.submissionId (Verdict.ofOutcome scoring o p) ∧ o.status.isFinal = true
    | .outrun, c => c = .find o.submissionId
    | .ended _, _ => False
  next
    | .arriving, .find _, .ok x => .seen o x
    | .found x, .findProblem _, .ok p => .informed x p
    | .informed _ _, .complete _ _, .ok y => .written y
    | .outrun, .find _, .ok y => .seenAgain o y
    | _, .find _, .error f => .ended (.error (.store f))
    | _, .findProblem _, .error f => .ended (.error (.store f))
    | _, .complete _ _, .error f => .ended (.error (.store f))
    | p, _, _ => p

theorem run_apply : (apply scoring o).run =
    .ask (.find o.submissionId) fun
      | .error f => .done (.error (.store f))
      | .ok none => .done (.error (.notFound o.submissionId))
      | .ok (some x) =>
        if x.status.isFinal then .done (.ok (.before x.status))
        else if !x.status.mayBecome o.status then
          .done (.error (.illegalTransition o.submissionId x.status o.status))
        else .ask (.findProblem x.problemId) fun
          | .error f => .done (.error (.store f))
          | .ok p => .ask (.complete o.submissionId (Verdict.ofOutcome scoring o p)) fun
            | .error f => .done (.error (.store f))
            | .ok (some y) => .done (.ok (.now y))
            | .ok none => .ask (.find o.submissionId) fun
              | .error f => .done (.error (.store f))
              | .ok none => .done (.error (.notFound o.submissionId))
              | .ok (some y) => .done (.ok (.before y.status)) := by
  refine congrArg (Program.ask _) (funext fun r => ?_)
  rcases r with f | _ | x
  · rfl
  · rfl
  show ExceptT.run (ite _ _ _) = ite _ _ _
  split
  · rfl
  show ExceptT.run (ite _ _ _) = ite _ _ _
  split
  · rfl
  refine congrArg (Program.ask _) (funext fun r => ?_)
  rcases r with f | p
  · rfl
  refine congrArg (Program.ask _) (funext fun r => ?_)
  rcases r with f | _ | y
  · rfl
  · refine congrArg (Program.ask _) (funext fun r => ?_)
    rcases r with f | _ | y <;> rfl
  · rfl

theorem keeps_apply :
    (apply scoring o).run.Keeps (applyCourse scoring o) (fun p r => p = .ended r) .arriving := by
  rw [run_apply]
  refine ⟨rfl, fun r => ?_⟩
  rcases r with f | _ | x
  · rfl
  · rfl
  by_cases hx : x.status.isFinal = true
  · simp [applyCourse, ApplyPlace.seen, hx]
  by_cases hm : x.status.mayBecome o.status = true
  · have ho : o.status.isFinal = true := by
      unfold Status.mayBecome at hm
      exact (Bool.and_eq_true_iff.1 hm).2
    simp only [applyCourse, ApplyPlace.seen, hx, hm]
    refine ⟨rfl, fun r => ?_⟩
    rcases r with f | p
    · rfl
    refine ⟨⟨rfl, ho⟩, fun r => ?_⟩
    rcases r with f | _ | y
    · rfl
    · refine ⟨rfl, fun r => ?_⟩
      rcases r with f | _ | y <;> rfl
    · rfl
  · simp [applyCourse, ApplyPlace.seen, hx, hm]

theorem asks_apply : (apply scoring o).run.Asks StoreCall.IsJudging := by
  refine (keeps_apply scoring o).asks fun p c hc => ?_
  cases p with
  | arriving | found | outrun => rw [show c = _ from hc]; trivial
  | informed => rw [hc.1]; exact hc.2
  | ended => exact hc.elim

end Apply

end Arbiter
