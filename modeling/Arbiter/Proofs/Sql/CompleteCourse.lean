import Arbiter.Proofs.Program.Course
import Arbiter.Sql.Repository
import Mathlib.Tactic.Lemma

/-!
The course of a completion in a database. A transaction is opened and the verdict is written to the
pending submission of the id; when there is one, an accepted verdict is counted for its problem, and
the transaction is committed. Whatever fails, and when there is none, the transaction is taken back.
-/

namespace Arbiter

/-- What is read from the first row of a reply, if there is one. -/
def SqlReply.record? (a : SqlReply) : Option (Except SqlFault SubmissionRow) :=
  a.rowsOf.head?.map SubmissionRow.ofRow

namespace Repository

inductive CompletePlace where
  | arriving
  /-- The transaction is open. -/
  | opened
  /-- The verdict is written to the submission of the row, and is to be counted. -/
  | judged (r : SubmissionRow)
  /-- All that is to be committed is written. -/
  | written (r : SubmissionRow)
  | committed (r : SubmissionRow)
  /-- No submission was pending under the id. -/
  | missed
  | left
  /-- Something failed; the transaction is to be taken back. There is a row when it was the
  commit. -/
  | undoing (tried : Option SubmissionRow)
  | failed (tried : Option SubmissionRow)

/-- What the update of the pending submission leads to. -/
def CompletePlace.shown (v : Verdict) : Option (Except SqlFault SubmissionRow) → CompletePlace
  | none => .missed
  | some (.error _) => .undoing none
  | some (.ok r) => if v.status = .accepted then .judged r else .written r

/-- **The course of a completion.** -/
def completeCourse (id : SubmissionId) (v : Verdict) : Course SqlInterface CompletePlace where
  may
    | .arriving, op => op = .start
    | .opened, op => op = .run (judgement id v)
    | .judged r, op => op = .run (acceptance r.record.problemId)
    | .written _, op => op = .commit
    | .missed, op => op = .rollback
    | .undoing _, op => op = .rollback
    | .committed _, _ => False
    | .left, _ => False
    | .failed _, _ => False
  next
    | .arriving, _, .ok _ => .opened
    | .arriving, _, .error _ => .failed none
    | .opened, _, .ok a => .shown v a.record?
    | .judged r, _, .ok _ => .written r
    | .written r, _, .ok _ => .committed r
    | .written r, _, .error _ => .undoing (some r)
    | .missed, _, .ok _ => .left
    | .undoing tried, _, _ => .failed tried
    | _, _, _ => .undoing none

/-- Where a completion may end, and with what answer. -/
def completeEnds : CompletePlace → Except Failure (Option Submission) → Prop
  | .committed r, a => a = r.submission.map some
  | .left, a => a = .ok none
  | .failed _, a => ∃ f, a = .error f
  | _, _ => False

/-- The transaction is taken back, and the fault is told. -/
def undone (e : SqlFault) : Program SqlInterface (Except Failure (Option Submission)) :=
  .ask .rollback fun _ => .done (.error e.failure)

/-- The transaction is committed. -/
def closing (r : SubmissionRow) : Program SqlInterface (Except Failure (Option Submission)) :=
  .ask .commit fun
    | .error e => undone e
    | .ok _ => .done (r.submission.map some)

variable (id : SubmissionId) (v : Verdict)

lemma run_completeOpen : (completeOpen id v).run = .ask (.run (judgement id v)) fun
    | .error e => .done (.error e)
    | .ok a =>
      match a.record? with
      | none => .ask .rollback fun
        | .error e => .done (.error e)
        | .ok _ => .done (.ok none)
      | some (.error e) => .done (.error e)
      | some (.ok r) =>
        if v.status = .accepted then .ask (.run (acceptance r.record.problemId)) fun
          | .error e => .done (.error e)
          | .ok _ => .ask .commit fun
            | .error e => .done (.error e)
            | .ok _ => .done (.ok (some r))
        else .ask .commit fun
          | .error e => .done (.error e)
          | .ok _ => .done (.ok (some r)) := by
  refine congrArg (Program.ask _) (funext fun x => ?_)
  rcases x with e | a
  · rfl
  rcases a with (_ | ⟨row, rs⟩) | n
  · refine congrArg (Program.ask _) (funext fun x => ?_)
    rcases x with e | _ <;> rfl
  · have hrecord : (SqlReply.rows (row :: rs)).record? = some (SubmissionRow.ofRow row) := rfl
    simp only [pure, bind, ExceptT.pure, ExceptT.bind, ExceptT.mk, ExceptT.bindCont,
      Program.done_bind, SqlReply.rowsOf, List.head?_cons, readRow, hrecord]
    rcases SubmissionRow.ofRow row with e | r
    · rfl
    by_cases hv : v.status = .accepted
    · simp only [hv, if_true]
      refine congrArg (Program.ask _) (funext fun x => ?_)
      rcases x with e | _
      · rfl
      refine congrArg (Program.ask _) (funext fun x => ?_)
      rcases x with e | _ <;> rfl
    · simp only [hv, if_false]
      refine congrArg (Program.ask _) (funext fun x => ?_)
      rcases x with e | _ <;> rfl
  · refine congrArg (Program.ask _) (funext fun x => ?_)
    rcases x with e | _ <;> rfl

/-- What a completion makes of what came of the open transaction. -/
def concluded : Except SqlFault (Option SubmissionRow) →
    Program SqlInterface (Except Failure (Option Submission))
  | .error e => undone e
  | .ok none => .done (.ok none)
  | .ok (some r) => .done (r.submission.map some)

lemma run_complete_eq_bind : (complete id v).run = .ask .start fun
    | .error e => .done (.error e.failure)
    | .ok _ => (completeOpen id v).run.bind concluded := by
  refine congrArg (Program.ask _) (funext fun x => ?_)
  rcases x with e | _
  · rfl
  show Program.bind (Program.bind (Program.bind (completeOpen id v).run _) _) _ =
    (completeOpen id v).run.bind concluded
  rw [Program.bind_assoc, Program.bind_assoc]
  refine congrArg _ (funext fun x => ?_)
  rcases x with e | _ | r
  · rfl
  · rfl
  · show ExceptT.run (some <$> known r.submission) = Program.done (r.submission.map some)
    rcases r.submission with f | y <;> rfl

theorem run_complete : (complete id v).run = .ask .start fun
    | .error e => .done (.error e.failure)
    | .ok _ => .ask (.run (judgement id v)) fun
      | .error e => undone e
      | .ok a =>
        match a.record? with
        | none => .ask .rollback fun
          | .error e => undone e
          | .ok _ => .done (.ok none)
        | some (.error e) => undone e
        | some (.ok r) =>
          if v.status = .accepted then .ask (.run (acceptance r.record.problemId)) fun
            | .error e => undone e
            | .ok _ => closing r
          else closing r := by
  rw [run_complete_eq_bind, run_completeOpen]
  refine congrArg (Program.ask _) (funext fun x => ?_)
  rcases x with e | _
  · rfl
  refine congrArg (Program.ask _) (funext fun x => ?_)
  rcases x with e | a
  · rfl
  dsimp only
  rcases a.record? with _ | e | r
  · refine congrArg (Program.ask _) (funext fun x => ?_)
    rcases x with e | _ <;> rfl
  · rfl
  · by_cases hv : v.status = .accepted
    · simp only [hv, if_true]
      refine congrArg (Program.ask _) (funext fun x => ?_)
      rcases x with e | _
      · rfl
      refine congrArg (Program.ask _) (funext fun x => ?_)
      rcases x with e | _ <;> rfl
    · simp only [hv, if_false]
      refine congrArg (Program.ask _) (funext fun x => ?_)
      rcases x with e | _ <;> rfl

theorem keeps_complete :
    (complete id v).run.Keeps (completeCourse id v) completeEnds .arriving := by
  have hundone : ∀ e tried,
      (undone e).Keeps (completeCourse id v) completeEnds (.undoing tried) := by
    intro e tried
    exact ⟨rfl, fun _ => ⟨e.failure, rfl⟩⟩
  have hclosing : ∀ r, (closing r).Keeps (completeCourse id v) completeEnds (.written r) := by
    intro r
    refine ⟨rfl, fun x => ?_⟩
    rcases x with e | _
    · exact hundone e (some r)
    · rfl
  rw [run_complete]
  refine ⟨rfl, fun x => ?_⟩
  rcases x with e | _
  · exact ⟨e.failure, rfl⟩
  refine ⟨rfl, fun x => ?_⟩
  rcases x with e | a
  · exact hundone e none
  show Program.Keeps _ _ _ (CompletePlace.shown v a.record?)
  dsimp only
  rcases a.record? with _ | e | r
  · refine ⟨rfl, fun x => ?_⟩
    rcases x with e | _
    · exact hundone e none
    · rfl
  · exact hundone e none
  · by_cases hv : v.status = .accepted
    · simp only [CompletePlace.shown, hv, if_true]
      refine ⟨rfl, fun x => ?_⟩
      rcases x with e | _
      · exact hundone e none
      · exact hclosing r
    · simp only [CompletePlace.shown, hv, if_false]
      exact hclosing r

end Repository

end Arbiter
