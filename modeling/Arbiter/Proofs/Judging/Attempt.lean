import Arbiter.Proofs.Judging.AppliedStore

/-!
One attempt at applying a final outcome to a live pending submission, while calls to the store may
fail without being carried out (`Store.callFailing`). It takes three calls: it ends at the first of
them that fails, with the store as it was, or the verdict is written (`interpret_apply_failing`).
-/

namespace Arbiter.Store

variable (now : Nat → Instant) (fault : Nat → Option Failure)

/-- A call fails and is not carried out, or the store answers it; the calls are numbered. -/
def callFailing (c : StoreCall) : StateM (Store × Nat) (Except Failure c.Result) := fun d =>
  match fault d.2 with
  | some f => (.error f, d.1, d.2 + 1)
  | none =>
    let (r, s) := d.1.run (now d.2) c
    (r, s, d.2 + 1)

variable {now fault} {s : Store} {n : Nat}

lemma interpret_failing_ask {α : Type} (c : StoreCall)
    (next : Except Failure c.Result → Program StoreInterface α) :
    (Program.ask (I := StoreInterface) c next).interpret (callFailing now fault) (s, n) =
      match fault n with
      | some f => (next (.error f)).interpret (callFailing now fault) (s, n + 1)
      | none => (next (s.run (now n) c).1).interpret (callFailing now fault)
          ((s.run (now n) c).2, n + 1) := by
  show (next (callFailing now fault c (s, n)).1).interpret (callFailing now fault)
    (callFailing now fault c (s, n)).2 = _
  simp only [callFailing]
  rcases fault n with _ | f <;> rfl

variable {scoring : Scoring} {o : Outcome} {x : Submission}

/-- An attempt comes to the first of its calls that fails, or else writes the verdict. -/
lemma interpret_apply_failing (hx : s.find? o.submissionId = some x) (hp : x.isPending = true)
    (ho : o.status.isFinal = true) :
    (apply scoring o).run.interpret (callFailing now fault) (s, n) =
      match fault n, fault (n + 1), fault (n + 2) with
      | some f, _, _ => (.error (.store f), s, n + 1)
      | none, some f, _ => (.error (.store f), s, n + 2)
      | none, none, some f => (.error (.store f), s, n + 3)
      | none, none, none =>
        let y := x.judged (.ofOutcome scoring o (s.problems.find? x.problemId)) (now (n + 2))
        (.ok (.now y), s.settle y, n + 3) := by
  have hstatus : x.status = .pending := Submission.isPending_iff.1 hp
  have hfinal : x.status.isFinal = false := by rw [hstatus]; rfl
  have hbecome : x.status.mayBecome o.status = true := by
    rw [hstatus]
    simp [Status.mayBecome, ho]
  rw [run_apply, interpret_failing_ask]
  rcases fault n with _ | f
  · dsimp only [Store.run]
    rw [hx]
    dsimp only
    rw [hfinal, hbecome, Bool.not_true, if_neg Bool.false_ne_true, if_neg Bool.false_ne_true,
      interpret_failing_ask]
    rcases fault (n + 1) with _ | f
    · dsimp only [Store.run]
      rw [interpret_failing_ask]
      rcases fault (n + 2) with _ | f
      · dsimp only [Store.run]
        rw [complete_of_isPending hx hp]
        rfl
      · rfl
    · rfl
  · rfl

/-- **Either all three calls are answered and the verdict is written, or one of them fails and
nothing is done.** -/
theorem apply_failing_cases (hx : s.find? o.submissionId = some x) (hp : x.isPending = true)
    (ho : o.status.isFinal = true) (scoring : Scoring) (now : Nat → Instant)
    (fault : Nat → Option Failure) (n : Nat) :
    ((∀ i < 3, fault (n + i) = none) ∧ ∃ y,
        (apply scoring o).run.interpret (callFailing now fault) (s, n) =
          (.ok (.now y), s.settle y, n + 3) ∧
        y = x.judged (.ofOutcome scoring o (s.problems.find? x.problemId)) (now (n + 2))) ∨
      ∃ i < 3, (∀ j < i, fault (n + j) = none) ∧ ∃ f, fault (n + i) = some f ∧
        (apply scoring o).run.interpret (callFailing now fault) (s, n) =
          (.error (.store f), s, n + i + 1) := by
  rw [interpret_apply_failing hx hp ho]
  rcases hf₀ : fault n with _ | f
  · rcases hf₁ : fault (n + 1) with _ | f
    · have hbefore : ∀ j < 2, fault (n + j) = none := by
        intro j hj
        obtain rfl | rfl : j = 0 ∨ j = 1 := by omega
        · exact hf₀
        · exact hf₁
      rcases hf₂ : fault (n + 2) with _ | f
      · refine .inl ⟨fun i hi => ?_, _, rfl, rfl⟩
        by_cases hlast : i = 2
        · rw [hlast, hf₂]
        · exact hbefore i (by omega)
      · exact .inr ⟨2, by decide, hbefore, f, hf₂, rfl⟩
    · refine .inr ⟨1, by decide, fun j hj => ?_, f, hf₁, rfl⟩
      obtain rfl : j = 0 := by omega
      exact hf₀
  · exact .inr ⟨0, by decide, fun j hj => absurd hj (Nat.not_lt_zero j), f, hf₀, rfl⟩

end Arbiter.Store
