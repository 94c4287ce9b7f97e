import Arbiter.Judging.Sweep
import Arbiter.Proofs.Judging.ApplyCourse
import Arbiter.Proofs.Program.Log

/-!
The logs of a sweep that is through, whatever it was answered (`sweepLog_of_leads`): it looked at
the clock and at what is overdue, and made one attempt for each submission that was found
(`Attempts`). An attempt writes a verdict just in case it comes to one (`countP_hasWritten`), and so
the sweep answers how many verdicts it has written itself.
-/

namespace Arbiter.Sweep

/-- A verdict of the sweep was written. -/
def HasWritten : Exchange SweepInterface → Bool
  | ⟨.store (.complete _ _), .ok (some _)⟩ => true
  | _ => false

/-- An attempt for each of some submissions, one after the other. -/
inductive Attempts (scoring : Scoring) (timeoutSeconds : Nat) :
    List SubmissionId → List (Exchange SweepInterface) → Prop
  | none : Attempts scoring timeoutSeconds [] []
  | next {id : SubmissionId} {ids : List SubmissionId} {log rest : List (Exchange SweepInterface)}
      {r : Except ApplyFailure Applied}
      (h : (applying (apply scoring (outcome timeoutSeconds id)).run).Leads log (.done r))
      (hrest : Attempts scoring timeoutSeconds ids rest) :
      Attempts scoring timeoutSeconds (id :: ids) (log ++ rest)

/-- What a sweep asked and was answered, against what it came to. -/
inductive SweepLog (scoring : Scoring) (timeoutSeconds : Nat) :
    List (Exchange SweepInterface) → Except Failure Nat → Prop
  /-- What is overdue could not be told. -/
  | blind (now : Instant) (f : Failure) :
      SweepLog scoring timeoutSeconds [⟨.now, now⟩,
        ⟨.store (.findStale (now.minusSeconds timeoutSeconds) batch), .error f⟩] (.error f)
  | through (now : Instant) {ids : List SubmissionId} {log : List (Exchange SweepInterface)}
      (h : Attempts scoring timeoutSeconds ids log) :
      SweepLog scoring timeoutSeconds (⟨.now, now⟩ ::
        ⟨.store (.findStale (now.minusSeconds timeoutSeconds) batch), .ok ids⟩ :: log)
        (.ok (log.countP HasWritten))

variable {scoring : Scoring} {timeoutSeconds : Nat} {log : List (Exchange SweepInterface)}

lemma once_eq (scoring : Scoring) (timeoutSeconds : Nat) : once scoring timeoutSeconds =
    .ask .now fun now =>
      .ask (.store (.findStale (Instant.minusSeconds now timeoutSeconds) batch)) fun
      | .error f => .done (.error f)
      | .ok ids => (timeOut scoring timeoutSeconds ids).bind fun n => .done (.ok n) := by
  refine congrArg (Program.ask _) (funext fun now => ?_)
  refine congrArg (Program.ask _) (funext fun stale => ?_)
  rcases stale with f | ids <;> rfl

lemma applying_ask {α : Type} (c : StoreCall)
    (next : Except Failure c.Result → Program StoreInterface α) :
    applying (.ask c next) = .ask (.store c) fun r => applying (next r) := rfl

/-- What an attempt adds to the number of verdicts. -/
def written : Except ApplyFailure Applied → Nat
  | .ok (.now _) => 1
  | _ => 0

/-- An attempt writes a verdict just in case it comes to one. -/
lemma countP_hasWritten {o : Outcome} {r : Except ApplyFailure Applied}
    (h : (applying (apply scoring o).run).Leads log (.done r)) :
    log.countP HasWritten = written r := by
  -- a log whose first exchange is no verdict, and that ends there
  have hend : ∀ {e : Exchange SweepInterface} {rest : List (Exchange SweepInterface)}
      {q : Except ApplyFailure Applied}, HasWritten e = false → written q = 0 →
      (Program.done q).Leads rest (.done r) → (e :: rest).countP HasWritten = written r := by
    intro e rest q he hq hrest
    obtain ⟨rfl, hr⟩ := Program.leads_done.1 hrest
    cases hr
    rw [List.countP_cons_of_neg (by rw [he]; exact Bool.false_ne_true), List.countP_nil, hq]
  rw [run_apply, applying_ask, Program.leads_ask_done] at h
  obtain ⟨found, log, rfl, h⟩ := h
  rcases found with f | _ | x
  · exact hend rfl rfl h
  · exact hend rfl rfl h
  dsimp only at h
  split at h
  · exact hend rfl rfl h
  split at h
  · exact hend rfl rfl h
  rw [applying_ask, Program.leads_ask_done] at h
  obtain ⟨problem, log, rfl, h⟩ := h
  rw [List.countP_cons_of_neg Bool.false_ne_true]
  rcases problem with f | p
  · exact hend rfl rfl h
  dsimp only at h
  rw [applying_ask, Program.leads_ask_done] at h
  obtain ⟨completed, log, rfl, h⟩ := h
  rw [List.countP_cons_of_neg Bool.false_ne_true]
  rcases completed with f | _ | y
  · exact hend rfl rfl h
  · dsimp only at h
    rw [applying_ask, Program.leads_ask_done] at h
    obtain ⟨again, log, rfl, h⟩ := h
    rw [List.countP_cons_of_neg Bool.false_ne_true]
    rcases again with f | _ | y <;> exact hend rfl rfl h
  · obtain ⟨rfl, hr⟩ := Program.leads_done.1 h
    cases hr
    rfl

/-- The attempts of a sweep, and how many of them have written a verdict. -/
lemma attempts_of_leads {ids : List SubmissionId} {n : Nat}
    (h : (timeOut scoring timeoutSeconds ids).Leads log (.done n)) :
    Attempts scoring timeoutSeconds ids log ∧ n = log.countP HasWritten := by
  induction ids generalizing log n with
  | nil =>
    obtain ⟨rfl, hn⟩ := Program.leads_done.1 h
    cases hn
    exact ⟨.none, rfl⟩
  | cons id ids ih =>
    obtain ⟨r, own, rest, rfl, hown, h⟩ := h.of_bind
    obtain ⟨moved, left, last, rfl, hleft, h⟩ := h.of_bind
    obtain ⟨hattempts, rfl⟩ := ih hleft
    have hn : last = [] ∧ n = left.countP HasWritten + written r := by
      rcases r with f | _ | _ <;>
      · obtain ⟨rfl, hn⟩ := Program.leads_done.1 h
        cases hn
        exact ⟨rfl, rfl⟩
    obtain ⟨rfl, rfl⟩ := hn
    rw [List.append_nil, List.countP_append, countP_hasWritten hown, Nat.add_comm]
    exact ⟨.next hown hattempts, rfl⟩

theorem sweepLog_of_leads {r : Except Failure Nat}
    (h : (once scoring timeoutSeconds).Leads log (.done r)) :
    SweepLog scoring timeoutSeconds log r := by
  rw [once_eq, Program.leads_ask_done] at h
  obtain ⟨now, log, rfl, h⟩ := h
  rw [Program.leads_ask_done] at h
  obtain ⟨stale, log, rfl, h⟩ := h
  rcases stale with f | ids
  · obtain ⟨rfl, hr⟩ := Program.leads_done.1 h
    cases hr
    exact .blind now f
  · obtain ⟨n, own, rest, rfl, hown, hrest⟩ := h.of_bind
    obtain ⟨rfl, hr⟩ := Program.leads_done.1 hrest
    cases hr
    obtain ⟨hattempts, rfl⟩ := attempts_of_leads hown
    rw [List.append_nil]
    exact .through now hattempts

end Arbiter.Sweep
