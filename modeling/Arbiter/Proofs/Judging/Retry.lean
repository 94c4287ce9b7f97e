import Arbiter.Proofs.Judging.Redelivery

/-!
An outcome that is applied again until it goes through, to a store some of whose calls fail
(`FrailStore`). A call that fails may have been carried out all the same, so a verdict may be
written without the applier being told. One attempt leaves the store as it is or applies the
outcome, and uses up a failure unless it goes through (`attempted`); and an outcome that was applied
is not applied again (`applied_applied`, `told_applied`). So, with nobody else at work, all the
attempts together come to what a single one without failures comes to (`apply_retry_safe`).
-/

namespace Arbiter

/-- The result without the time of its verdict. -/
def Applied.undated : Applied → Applied
  | .now x => .now (Veil.undating.hide x)
  | .before status => .before status

namespace Store

/-! ### Without failures -/

variable {scoring : Scoring} {o : Outcome} {s : Store} {x : Submission}

theorem told_cases (scoring : Scoring) (o : Outcome) (s : Store) :
    (∃ r, (∀ f, r ≠ .error (.store f)) ∧
        ∀ now, s.told scoring now o = r ∧ s.applied scoring now o = s) ∨
      ∃ x v, s.find? o.submissionId = some x ∧ v.status.isFinal = true ∧
        ∀ now, s.told scoring now o = .ok (.now (x.judged v now)) ∧
          s.applied scoring now o = s.settle (x.judged v now) := by
  rcases hx : s.find? o.submissionId with _ | x
  · refine .inl ⟨.error (.notFound o.submissionId), by simp, fun now => ⟨told_of_none hx, ?_⟩⟩
    refine applied_of_not_isPending fun x hx' => ?_
    rw [hx] at hx'
    cases hx'
  cases hp : x.isPending with
  | false =>
    have hfinal : x.status.isFinal = true := Submission.isPending_eq_false.1 hp
    refine .inl ⟨.ok (.before x.status), by simp, fun now => ⟨told_of_isFinal hx hfinal, ?_⟩⟩
    refine applied_of_not_isPending fun y hy => ?_
    obtain rfl : x = y := Option.some.inj (hx.symm.trans hy)
    exact hp
  | true =>
    have hstatus : x.status = .pending := Submission.isPending_iff.1 hp
    have hbecome : x.status.mayBecome o.status = o.status.isFinal := by
      rw [hstatus]
      rfl
    cases ho : o.status.isFinal with
    | false =>
      have hopen : x.status.isFinal = false := by
        rw [hstatus]
        rfl
      refine .inl ⟨.error (.illegalTransition o.submissionId x.status o.status), by simp,
        fun now => ⟨?_, applied_of_not_isFinal ho⟩⟩
      exact told_of_not_mayBecome hx hopen (hbecome.trans ho)
    | true =>
      exact .inr ⟨x, _, rfl, ho, fun now => ⟨told_of_isPending hx hp ho,
        applied_of_isPending hx hp ho⟩⟩

lemma applied_eq_self {now : Instant} (h : ∀ x, s.told scoring now o ≠ .ok (.now x)) :
    s.applied scoring now o = s := by
  rcases told_cases scoring o s with ⟨r, -, hr⟩ | ⟨x, v, -, -, hx⟩
  · exact (hr now).2
  · exact absurd (hx now).1 (h _)

/-- What comes of an outcome is the same at all times, but for the time of the verdict. -/
lemma told_undated (now now' : Instant) : (s.told scoring now o).map Applied.undated =
    (s.told scoring now' o).map Applied.undated := by
  rcases told_cases scoring o s with ⟨r, -, h⟩ | ⟨x, v, -, -, h⟩
  · rw [(h now).1, (h now').1]
  · rw [(h now).1, (h now').1]
    rfl

lemma applied_undated (now now' : Instant) :
    (s.applied scoring now o).undated = (s.applied scoring now' o).undated := by
  rcases told_cases scoring o s with ⟨r, -, h⟩ | ⟨x, v, -, -, h⟩
  · rw [(h now).2, (h now').2]
  · rw [(h now).2, (h now').2]
    unfold undated
    rw [settle_veiled, settle_veiled]
    rfl

lemma find?_settle_judged {id : SubmissionId} (hx : s.find? id = some x) (v : Verdict)
    (now : Instant) : (s.settle (x.judged v now)).find? id = some (x.judged v now) := by
  obtain ⟨hrow, hlive⟩ := find?_eq_some.1 hx
  have hid : id = (x.judged v now).id := (id_of_row? hrow).symm
  exact find?_eq_some.2 ⟨by rw [row?_settle, if_pos hid], hlive⟩

lemma applied_applied (now now' : Instant) :
    (s.applied scoring now o).applied scoring now' o = s.applied scoring now o := by
  rcases told_cases scoring o s with ⟨r, -, h⟩ | ⟨x, v, hx, hv, h⟩
  · rw [(h now).2, (h now').2]
  · rw [(h now).2]
    refine applied_of_not_isPending fun y hy => ?_
    obtain rfl : x.judged v now = y :=
      Option.some.inj ((find?_settle_judged hx v now).symm.trans hy)
    exact Fate.isPending_judged hv now

/-- Applied again, it comes to the same, or to the status that was written before. -/
lemma told_applied (s : Store) (scoring : Scoring) (o : Outcome) (now now' now₀ : Instant) :
    (s.applied scoring now o).told scoring now' o = s.told scoring now₀ o ∨
      ∃ x, s.told scoring now₀ o = .ok (.now x) ∧
        (s.applied scoring now o).told scoring now' o = .ok (.before x.status) := by
  rcases told_cases scoring o s with ⟨r, -, h⟩ | ⟨x, v, hx, hv, h⟩
  · left
    rw [(h now).2, (h now').1, (h now₀).1]
  · right
    refine ⟨x.judged v now₀, (h now₀).1, ?_⟩
    rw [(h now).2]
    exact told_of_isFinal (x := x.judged v now) (find?_settle_judged hx v now) hv

end Store

/-! ### A store that fails -/

/-- How a call fails. -/
structure Mishap where
  failure : Failure
  /-- The call was carried out before it failed. -/
  done : Bool

/-- A store some of whose calls fail. -/
structure FrailStore where
  store : Store
  /-- Whether the calls to come fail, first to last; those after them do not. -/
  script : List (Option Mishap)
  /-- How many calls were made. -/
  calls : Nat
  /-- The calls of the last attempt that were carried out, first to last. -/
  carried : List StoreCall

namespace FrailStore

/-- The store after a call that was not carried out. -/
def passed (k : FrailStore) : FrailStore := { k with script := k.script.tail, calls := k.calls + 1 }

/-- The store after a call that was carried out. -/
def after (now : Nat → Instant) (k : FrailStore) (c : StoreCall) : FrailStore :=
  ⟨(k.store.run (now k.calls) c).2, k.script.tail, k.calls + 1, k.carried ++ [c]⟩

/-- How many calls are to fail yet. -/
def toFail (k : FrailStore) : Nat := k.script.countP Option.isSome

def answer (now : Nat → Instant) (c : StoreCall) :
    StateM FrailStore (Except Failure c.Result) := fun k =>
  match k.script.head?.join with
  | some m => (.error m.failure, if m.done then k.after now c else k.passed)
  | none => ((k.store.run (now k.calls) c).1, k.after now c)

/-- One attempt at applying an outcome. -/
def attempt (scoring : Scoring) (now : Nat → Instant) (o : Outcome) (k : FrailStore) :
    Except ApplyFailure Applied × FrailStore :=
  (apply scoring o).run.interpret (answer now) { k with carried := [] }

variable {scoring : Scoring} {now : Nat → Instant} {o : Outcome} {k : FrailStore}

lemma answer_cases (now : Nat → Instant) (k : FrailStore) (c : StoreCall) :
    (∃ f, answer now c k = (.error f, k.passed) ∧ k.passed.toFail < k.toFail) ∨
      (∃ f, answer now c k = (.error f, k.after now c) ∧ (k.after now c).toFail < k.toFail) ∨
      answer now c k = ((k.store.run (now k.calls) c).1, k.after now c) ∧
        (k.after now c).toFail ≤ k.toFail := by
  unfold answer toFail passed after
  rcases k.script with _ | ⟨_ | m, script⟩
  · simp
  · simp
  · rcases m with ⟨f, done⟩
    cases done with
    | false => exact .inl ⟨f, rfl, by simp⟩
    | true => exact .inr (.inl ⟨f, rfl, by simp⟩)

lemma interpret_ask {α : Type} (now : Nat → Instant) (c : StoreCall)
    (next : Except Failure c.Result → Program StoreInterface α) (k : FrailStore) :
    (Program.ask (I := StoreInterface) c next).interpret (answer now) k =
      (next (answer now c k).1).interpret (answer now) (answer now c k).2 := rfl

/-- **What one attempt comes to.** It fails and leaves the store as it is; or it fails though the
outcome was applied; or it goes through. One that fails uses up a failure. -/
inductive Attempted (scoring : Scoring) (o : Outcome) (s : Store) (n : Nat) :
    Except ApplyFailure Applied × FrailStore → Prop
  | untouched {f : Failure} {k : FrailStore} (hstore : k.store = s) (hless : k.toFail < n) :
      Attempted scoring o s n (.error (.store f), k)
  | unanswered {f : Failure} {now : Instant} {v : Verdict} {k : FrailStore}
      (hstore : k.store = s.applied scoring now o) (hless : k.toFail < n)
      (hcarried : .complete o.submissionId v ∈ k.carried) :
      Attempted scoring o s n (.error (.store f), k)
  | through {now : Instant} {k : FrailStore} (hstore : k.store = s.applied scoring now o) :
      Attempted scoring o s n (s.told scoring now o, k)

/-- A look at the store fails, or the attempt goes on with the store as it is. -/
lemma attempted_lookUp {c : StoreCall} (hc : c.IsReading)
    {next : Except Failure c.Result → Program StoreInterface (Except ApplyFailure Applied)}
    (hnext : ∀ f, next (.error f) = .done (.error (.store f))) {n : Nat} (hn : k.toFail ≤ n)
    (h : ∀ (j : FrailStore) (t : Instant), j.store = k.store → j.toFail ≤ n →
      Attempted scoring o k.store n
        ((next (k.store.run t c).1).interpret (answer now) j)) :
    Attempted scoring o k.store n
      ((Program.ask (I := StoreInterface) c next).interpret (answer now) k) := by
  have hafter : (k.after now c).store = k.store := Store.run_of_isReading _ _ hc
  rw [interpret_ask]
  rcases answer_cases now k c with ⟨f, hk, hless⟩ | ⟨f, hk, hless⟩ | ⟨hk, hle⟩
  · rw [hk, hnext]
    exact .untouched rfl (Nat.lt_of_lt_of_le hless hn)
  · rw [hk, hnext]
    exact .untouched hafter (Nat.lt_of_lt_of_le hless hn)
  · rw [hk]
    exact h _ _ hafter (Nat.le_trans hle hn)

/-- The verdict is not written, or it is and the attempt is not told, or it is and it is told. -/
lemma attempted_complete {x : Submission} (hx : k.store.find? o.submissionId = some x)
    (hp : x.isPending = true) (ho : o.status.isFinal = true) {v : Verdict}
    (hv : v = Verdict.ofOutcome scoring o (k.store.problems.find? x.problemId))
    {next : Except Failure (Option Submission) →
      Program StoreInterface (Except ApplyFailure Applied)}
    (hfail : ∀ f, next (.error f) = .done (.error (.store f)))
    (hnext : ∀ y, next (.ok (some y)) = .done (.ok (.now y))) {n : Nat} (hn : k.toFail ≤ n) :
    Attempted scoring o k.store n ((Program.ask (I := StoreInterface)
      (.complete o.submissionId v) next).interpret (answer now) k) := by
  have hrun := Store.complete_of_isPending hx hp (now k.calls) v
  have hafter : (k.after now (.complete o.submissionId v)).store =
      k.store.applied scoring (now k.calls) o := by
    rw [Store.applied_of_isPending hx hp ho, ← hv]
    exact congrArg Prod.snd hrun
  have hanswer : (k.store.run (now k.calls) (.complete o.submissionId v)).1 =
      .ok (some (x.judged v (now k.calls))) :=
    congrArg (fun r : Option Submission × Store => Except.ok r.1) hrun
  rw [interpret_ask]
  rcases answer_cases now k (.complete o.submissionId v) with
    ⟨f, hk, hless⟩ | ⟨f, hk, hless⟩ | ⟨hk, -⟩
  · rw [hk, hfail]
    exact .untouched rfl (Nat.lt_of_lt_of_le hless hn)
  · rw [hk, hfail]
    have hcarried : .complete o.submissionId v ∈
        (k.after now (.complete o.submissionId v)).carried :=
      List.mem_append_right _ (List.mem_singleton_self _)
    exact .unanswered hafter (Nat.lt_of_lt_of_le hless hn) hcarried
  · have htold : k.store.told scoring (now k.calls) o =
        .ok (.now (x.judged v (now k.calls))) := by
      rw [hv]
      exact Store.told_of_isPending hx hp ho
    rw [hk, hanswer, hnext, ← htold]
    exact .through hafter

theorem attempted (scoring : Scoring) (now : Nat → Instant) (o : Outcome) (k : FrailStore) :
    Attempted scoring o k.store k.toFail (k.attempt scoring now o) := by
  -- an attempt that goes through without a verdict has looked things up only
  have hend : ∀ {r : Except ApplyFailure Applied} {t : Instant} {j : FrailStore},
      k.store.told scoring t o = r → (∀ x, r ≠ .ok (.now x)) → j.store = k.store →
      Attempted scoring o k.store k.toFail (r, j) := by
    rintro r t j rfl hr hj
    exact .through (hj.trans (Store.applied_eq_self hr).symm)
  unfold attempt
  rw [run_apply]
  refine attempted_lookUp (k := { k with carried := [] }) (c := .find o.submissionId) trivial
    (fun f => rfl) (Nat.le_refl _) fun j t hj hle => ?_
  dsimp only [Store.run] at hj hle ⊢
  rcases hx : k.store.find? o.submissionId with _ | x
  · exact hend (t := t) (Store.told_of_none hx) (by simp) hj
  dsimp only
  cases hfinal : x.status.isFinal with
  | true =>
    rw [if_pos rfl]
    exact hend (t := t) (Store.told_of_isFinal hx hfinal) (by simp) hj
  | false =>
    rw [if_neg Bool.false_ne_true]
    cases ho : x.status.mayBecome o.status with
    | false =>
      rw [Bool.not_false, if_pos rfl]
      exact hend (t := t) (Store.told_of_not_mayBecome hx hfinal ho) (by simp) hj
    | true =>
      have hp : x.isPending = true := by
        simpa [Submission.isPending, Status.isFinal] using hfinal
      have hnext : o.status.isFinal = true := (Bool.and_eq_true_iff.1 ho).2
      rw [Bool.not_true, if_neg Bool.false_ne_true, ← hj]
      refine attempted_lookUp (c := .findProblem x.problemId) trivial (fun f => rfl) hle
        fun i t' hi hle' => ?_
      rw [← hj, ← hi] at hx
      dsimp only [Store.run]
      rw [← hi]
      exact attempted_complete hx hp hnext rfl (fun f => rfl) (fun y => rfl) hle'

/-- The same outcome may be applied again. -/
def MayRetry (r : Except ApplyFailure Applied) : Prop := ∃ f, r = .error f ∧ f.isRetryable = true

lemma not_mayRetry_told (s : Store) (t : Instant) : ¬ MayRetry (s.told scoring t o) := by
  rintro ⟨f, hf, hretry⟩
  rcases Store.told_cases scoring o s with ⟨r, hr, h⟩ | ⟨x, v, -, -, h⟩
  · cases f with
    | store g => exact hr g ((h t).1.symm.trans hf)
    | notFound | illegalTransition => cases hretry
  · cases (h t).1.symm.trans hf

namespace Attempted

variable {s : Store} {n : Nat} {out : Except ApplyFailure Applied × FrailStore}
  (h : Attempted scoring o s n out)
include h

lemma store_cases : out.2.store = s ∨ ∃ t, out.2.store = s.applied scoring t o := by
  cases h with
  | untouched hstore => exact .inl hstore
  | unanswered hstore => exact .inr ⟨_, hstore⟩
  | through hstore => exact .inr ⟨_, hstore⟩

lemma toFail_lt (hr : MayRetry out.1) : out.2.toFail < n := by
  cases h with
  | untouched _ hless => exact hless
  | unanswered _ hless => exact hless
  | through => exact absurd hr (not_mayRetry_told s _)

lemma store_eq (hr : MayRetry out.1)
    (hcarried : ∀ v, .complete o.submissionId v ∉ out.2.carried) : out.2.store = s := by
  cases h with
  | untouched hstore => exact hstore
  | unanswered _ _ hin => exact absurd hin (hcarried _)
  | through => exact absurd hr (not_mayRetry_told s _)

lemma goes_through (hr : ¬ MayRetry out.1) :
    ∃ t, out.1 = s.told scoring t o ∧ out.2.store = s.applied scoring t o := by
  cases h with
  | untouched => exact absurd ⟨_, rfl, rfl⟩ hr
  | unanswered => exact absurd ⟨_, rfl, rfl⟩ hr
  | through hstore => exact ⟨_, rfl, hstore⟩

end Attempted

/-! ### Attempt after attempt -/

/-- The store after some attempts at applying an outcome. -/
def attempts (scoring : Scoring) (now : Nat → Instant) (o : Outcome) (k : FrailStore) :
    Nat → FrailStore
  | 0 => k
  | n + 1 => ((k.attempts scoring now o n).attempt scoring now o).2

/-- What an attempt comes to after some before it. -/
def told (scoring : Scoring) (now : Nat → Instant) (o : Outcome) (k : FrailStore) (n : Nat) :
    Except ApplyFailure Applied :=
  ((k.attempts scoring now o n).attempt scoring now o).1

/-- After some attempts the store is as it was, or the outcome was applied once. -/
lemma store_attempts (scoring : Scoring) (now : Nat → Instant) (o : Outcome) (k : FrailStore)
    (n : Nat) : (k.attempts scoring now o n).store = k.store ∨
      ∃ t, (k.attempts scoring now o n).store = k.store.applied scoring t o := by
  induction n with
  | zero => exact .inl rfl
  | succ n ih =>
    rcases (attempted scoring now o (k.attempts scoring now o n)).store_cases with hn | ⟨t, hn⟩
    · rcases ih with ih | ⟨t, ih⟩
      · exact .inl (hn.trans ih)
      · exact .inr ⟨t, hn.trans ih⟩
    · right
      rcases ih with ih | ⟨t', ih⟩
      · exact ⟨t, by rw [← ih]; exact hn⟩
      · refine ⟨t', ?_⟩
        rw [ih, Store.applied_applied] at hn
        exact hn

/-- Each attempt that is to be retried uses up a failure. -/
lemma toFail_attempts_le {n : Nat} (h : ∀ i < n, MayRetry (k.told scoring now o i)) :
    (k.attempts scoring now o n).toFail + n ≤ k.toFail := by
  induction n with
  | zero => exact Nat.le_refl _
  | succ n ih =>
    have hless := (attempted scoring now o (k.attempts scoring now o n)).toFail_lt
      (h n (Nat.lt_succ_self n))
    have hle := ih fun i hi => h i (Nat.lt_succ_of_lt hi)
    have hlast : (k.attempts scoring now o (n + 1)).toFail <
        (k.attempts scoring now o n).toFail := hless
    omega

lemma exists_through (scoring : Scoring) (now : Nat → Instant) (o : Outcome) (k : FrailStore) :
    ∃ n ≤ k.toFail, (∀ i < n, MayRetry (k.told scoring now o i)) ∧
      ¬ MayRetry (k.told scoring now o n) := by
  classical
  have hends : ∃ n, ¬ MayRetry (k.told scoring now o n) := by
    by_contra hnever
    push Not at hnever
    have hle := toFail_attempts_le (n := k.toFail + 1) fun i _ => hnever i
    omega
  have hbefore : ∀ i < Nat.find hends, MayRetry (k.told scoring now o i) := by
    intro i hi
    exact not_not.1 (Nat.find_min hends hi)
  have hle := toFail_attempts_le hbefore
  exact ⟨Nat.find hends, by omega, hbefore, Nat.find_spec hends⟩

end FrailStore

open FrailStore in
/-- **Applying is safe to retry.** Whatever the store, the outcome and the failures to come, an
outcome that is applied again as long as it may be goes through, after no more attempts than there
are failures. With nobody else at work, the store is then what a single attempt without failures
makes of it, but for the time of the verdict; and the last attempt comes to what that one comes to,
or to the status that it writes, as one that was written before. An attempt before the last in which
no verdict was written has left the store as it was. -/
theorem apply_retry_safe (scoring : Scoring) (o : Outcome) (s : Store)
    (script : List (Option Mishap)) (now : Nat → Instant) (now₀ : Instant) :
    let k : FrailStore := ⟨s, script, 0, []⟩
    ∃ n ≤ script.countP Option.isSome,
      (∀ i < n, MayRetry (k.told scoring now o i)) ∧ ¬ MayRetry (k.told scoring now o n) ∧
      (k.attempts scoring now o (n + 1)).store.undated = (s.applied scoring now₀ o).undated ∧
      ((k.told scoring now o n).map Applied.undated =
          (s.told scoring now₀ o).map Applied.undated ∨
        ∃ x, s.told scoring now₀ o = .ok (.now x) ∧
          k.told scoring now o n = .ok (.before x.status)) ∧
      ∀ i < n, (∀ v, .complete o.submissionId v ∉ (k.attempts scoring now o (i + 1)).carried) →
        (k.attempts scoring now o (i + 1)).store = (k.attempts scoring now o i).store := by
  intro k
  obtain ⟨n, hn, hretry, hlast⟩ := exists_through scoring now o k
  have hattempted := fun i => attempted scoring now o (k.attempts scoring now o i)
  obtain ⟨t, htold, hstore⟩ : ∃ t,
      k.told scoring now o n = (k.attempts scoring now o n).store.told scoring t o ∧
        (k.attempts scoring now o (n + 1)).store =
          (k.attempts scoring now o n).store.applied scoring t o :=
    (hattempted n).goes_through hlast
  -- before the last attempt the outcome was applied once, without the applier being told, or never
  refine ⟨n, hn, hretry, hlast, ?_, ?_, fun i hi => (hattempted i).store_eq (hretry i hi)⟩
  · rw [hstore]
    rcases store_attempts scoring now o k n with hk | ⟨t', hk⟩
    · rw [hk]
      exact Store.applied_undated t now₀
    · rw [hk, Store.applied_applied]
      exact Store.applied_undated t' now₀
  · rw [htold]
    rcases store_attempts scoring now o k n with hk | ⟨t', hk⟩
    · rw [hk]
      exact .inl (Store.told_undated t now₀)
    · rw [hk]
      rcases s.told_applied scoring o t' t now₀ with hsame | hbefore
      · exact .inl (congrArg _ hsame)
      · exact .inr hbefore

/-- The verdict is written in the first attempt, and the applier is not told; the second attempt
finds it there. -/
example :
    let k : FrailStore := ⟨.twoPending, [none, none, some ⟨.database "lost", true⟩], 0, []⟩
    k.told reportedScore (fun _ => ⟨1, 0⟩) (.ofStatus 1 .accepted) 1 = .ok (.before .accepted) :=
  rfl

end Arbiter
