import Arbiter.Desk.Service
import Arbiter.Proofs.Session.Work
import Arbiter.Proofs.Program.Course

/-!
The course of a submit to one problem: the account and the problem are looked up, the submission is
stored, its job is handed over, and then the submit is counted, or the submission is taken back if
the job was refused (`keeps_submit`). A submit that has stored its submission makes exactly two
more calls, and it answers with the submission's id only where it was counted.
-/

namespace Arbiter

/-- How far a submit has come. -/
inductive SubmitPlace where
  | arriving
  /-- The problem was found. -/
  | admitted
  /-- The submission of this id is stored, and its job is still here. -/
  | stored (id : SubmissionId)
  /-- The job was handed over. -/
  | handedOver (id : SubmissionId)
  /-- The job was refused. -/
  | refused (id : SubmissionId)
  /-- The submit was counted. -/
  | counted (id : SubmissionId)
  /-- The submission was to be removed. -/
  | takenBack (id : SubmissionId)

section Submit

variable (problem : ProblemId)

/-- **The course of a submit.** -/
def submitCourse : Course WorkInterface SubmitPlace where
  may
    | .arriving, op => (∃ u, op = .store (.findUser u)) ∨ op = .store (.findProblem problem)
    | .admitted, op => ∃ d : Draft, d.problemId = problem ∧ op = .store (.create d)
    | .stored id, op => op = .outer (.enqueue id)
    | .handedOver _, op => op = .store (.countSubmit problem)
    | .refused id, op => op = .store (.discard id)
    | .counted _, _ => False
    | .takenBack _, _ => False
  next
    | .arriving, .store (.findProblem _), .ok (some _) => .admitted
    | .admitted, .store (.create _), .ok x => .stored x.id
    | .stored id, .outer (.enqueue _), .ok _ => .handedOver id
    | .stored id, .outer (.enqueue _), .error _ => .refused id
    | .handedOver id, _, _ => .counted id
    | .refused id, _, _ => .takenBack id
    | p, _, _ => p

/-- Where a submit may end, and with what answer. -/
def submitEnds : SubmitPlace → Ended → Prop
  | .arriving, .submitted (.error _) => True
  | .admitted, .submitted (.error _) => True
  | .counted id, .submitted (.ok i) => i = id
  | .takenBack _, .submitted (.error (.dispatch _)) => True
  | _, _ => False

variable (c : Caller) (language code : String)

theorem run_submit : (Desk.submit c problem language code).run =
    match checkLanguage language, checkCode code with
    | .error reason, _ => .done (.error (.validation reason))
    | .ok (), .error reason => .done (.error (.validation reason))
    | .ok (), .ok () => .ask (.store (.findUser c.userId)) fun
      | .error f => .done (.error f)
      | .ok none => .done (.error .unauthorized)
      | .ok (some u) =>
        if u.isActive then .ask (.store (.findProblem problem)) fun
          | .error f => .done (.error f)
          | .ok none => .done (.error (.notFound "Problem not found"))
          | .ok (some p) =>
            if !p.isPublic && !Caller.mayAccess ⟨u.id, u.role⟩ p.ownerId then
              .done (.error (.forbidden "You do not have access to this problem"))
            else .ask (.store (.create ⟨problem, u.id, language, code⟩)) fun
              | .error f => .done (.error f)
              | .ok x => .ask (.enqueue x.id) fun
                | .error f => .ask (.store (.discard x.id)) fun _ => .done (.error (.dispatch f))
                | .ok () => .ask (.store (.countSubmit problem)) fun _ => .done (.ok x.id)
        else .done (.error .unauthorized) := by
  unfold Desk.submit
  rcases checkLanguage language with reason | _
  · rfl
  rcases checkCode code with reason | _
  · rfl
  refine congrArg (Program.ask _) (funext fun r => ?_)
  rcases r with f | _ | u
  · rfl
  · rfl
  cases hu : u.isActive
  · simp only [bind, ExceptT.bind, ExceptT.mk, ExceptT.bindCont, Program.done_bind, hu,
      Bool.false_eq_true, if_false]
    rfl
  simp only [bind, ExceptT.bind, ExceptT.mk, ExceptT.bindCont, Program.done_bind, hu, if_true]
  refine congrArg (Program.ask _) (funext fun r => ?_)
  rcases r with f | _ | p
  · rfl
  · rfl
  cases hp : !p.isPublic && !Caller.mayAccess ⟨u.id, u.role⟩ p.ownerId
  · simp only [ExceptT.bindCont, Program.done_bind, hp, Bool.false_eq_true, if_false]
    refine congrArg (Program.ask _) (funext fun r => ?_)
    rcases r with f | x
    · rfl
    refine congrArg (Program.ask _) (funext fun r => ?_)
    rcases r with f | _ <;> rfl
  · simp only [ExceptT.bindCont, Program.done_bind, hp, if_true]
    rfl

theorem keeps_submit : (Duty.submit c problem language code).work.Keeps (submitCourse problem)
    submitEnds .arriving := by
  show (((Desk.submit c problem language code).run.expand _).bind _).Keeps _ _ _
  rw [run_submit]
  rcases checkLanguage language with reason | _
  · trivial
  rcases checkCode code with reason | _
  · trivial
  refine ⟨.inl ⟨_, rfl⟩, fun r => ?_⟩
  rcases r with f | _ | u
  · trivial
  · trivial
  show (Program.bind (Program.expand _ (ite _ _ _)) _).Keeps _ _ _
  split
  · refine ⟨.inr rfl, fun r => ?_⟩
    rcases r with f | _ | p
    · trivial
    · trivial
    show (Program.bind (Program.expand _ (ite _ _ _)) _).Keeps _ _ _
    split
    · trivial
    · refine ⟨⟨_, rfl, rfl⟩, fun r => ?_⟩
      rcases r with f | x
      · trivial
      refine ⟨rfl, fun r => ?_⟩
      rcases r with f | _
      · exact ⟨rfl, fun _ => trivial⟩
      · exact ⟨rfl, fun _ => rfl⟩
  · trivial

end Submit

end Arbiter
