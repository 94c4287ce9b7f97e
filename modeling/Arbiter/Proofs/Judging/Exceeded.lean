import Arbiter.Proofs.Judging.Retry
import Arbiter.Proofs.Judging.WellFormed

/-!
The figures of exceeded limits. A figure that is stored for one is the limit and one more, or the
reported figure if that is greater, with both the limit in kilobytes and the one more kept at the
greatest figure there is (`toInt_nearestInt32`). So the stored figure is above the limit as long as
there are figures above it, and the greatest one otherwise (`exceeds_exceed`); this holds of what is
stored after an outcome says that a limit was exceeded (`exceeded_limit_is_stored`).
-/

namespace Arbiter

/-- Numbers that have no more than 32 bits are kept, and all others are as near as can be. -/
lemma toInt_nearestInt32 (n : Int) :
    (nearestInt32 n).toInt = max (-2147483648) (min 2147483647 n) := by
  have hleast : -2 ^ 31 ≤ max (-2147483648) (min 2147483647 n) := by omega
  have hgreatest : max (-2147483648) (min 2147483647 n) < 2 ^ 31 := by omega
  exact Int32.toInt_ofInt_of_le hleast hgreatest

lemma nearestInt32_toInt (n : Int32) : n = nearestInt32 n.toInt := by
  have hleast : -2147483648 ≤ n.toInt := Int32.le_toInt n
  have hgreatest : n.toInt ≤ 2147483647 := Int32.toInt_le n
  apply Int32.toInt_inj.1
  rw [toInt_nearestInt32]
  omega

namespace Verdict

/-- What is stored for a limit that was exceeded: a figure that is not less than the reported one
and above the limit, or the greatest figure if there is none above the limit. -/
def Exceeds (stored reported : Option Int32) (limit : Int) : Prop :=
  ∃ n, stored = some n ∧ (∀ r ∈ reported, r ≤ n) ∧
    (limit < Int32.maxValue.toInt → limit < n.toInt) ∧
    (Int32.maxValue.toInt ≤ limit → n = Int32.maxValue)

/-- One more than the limit is above it, unless the limit is at the greatest figure or past it. -/
lemma exceeds_sentinel {l : Int32} {limit : Int} (hl : l = nearestInt32 limit) {n : Int32}
    (hn : nearestInt32 (l.toInt + 1) ≤ n) :
    (limit < Int32.maxValue.toInt → limit < n.toInt) ∧
      (Int32.maxValue.toInt ≤ limit → n = Int32.maxValue) := by
  have hmax : Int32.maxValue.toInt = 2147483647 := rfl
  have hn := Int32.le_iff_toInt_le.1 hn
  have hle : n.toInt ≤ 2147483647 := Int32.toInt_le n
  rw [toInt_nearestInt32, hl, toInt_nearestInt32] at hn
  refine ⟨fun hlimit => ?_, fun hlimit => Int32.toInt_inj.1 ?_⟩
  · omega
  · omega

lemma exceeds_exceed (reported : Option Int32) {l : Int32} {limit : Int}
    (hl : l = nearestInt32 limit) : Exceeds (exceed reported (some l)) reported limit := by
  cases reported with
  | none =>
    exact ⟨_, rfl, fun r hr => (Option.not_mem_none r hr).elim,
      exceeds_sentinel hl (Int32.le_refl _)⟩
  | some r =>
    have hbounds : r ≤ max r (nearestInt32 (l.toInt + 1)) ∧
        nearestInt32 (l.toInt + 1) ≤ max r (nearestInt32 (l.toInt + 1)) := by
      rw [int32Max_eq]
      grind
    refine ⟨_, rfl, fun q hq => ?_, exceeds_sentinel hl hbounds.2⟩
    obtain rfl : r = q := Option.some.inj hq
    exact hbounds.1

lemma exceed_cases {reported : Option Int32} {problem : Option Problem} {l : Problem → Int32}
    {limit : Problem → Int} (hl : ∀ p, l p = nearestInt32 (limit p)) :
    (∀ p, problem = some p → Exceeds (exceed reported (problem.map l)) reported (limit p)) ∧
      (problem = none → exceed reported (problem.map l) = reported) := by
  constructor
  · rintro p rfl
    exact exceeds_exceed reported (hl p)
  · rintro rfl
    cases reported <;> rfl

end Verdict

open Verdict in
/-- **Exceeded limits are stored as exceeded.** After an outcome with the status of a limit was
applied to a live pending submission, there is a figure stored for it that is not less than the
reported one and above the exact limit of the problem, or the greatest figure if there is none above
the limit. Without the problem the reported figure is stored. -/
theorem exceeded_limit_is_stored {s : Store} {o : Outcome} {x : Submission}
    (hx : s.find? o.submissionId = some x) (hp : x.isPending = true) (scoring : Scoring)
    (now : Instant) :
    (o.status = .timeLimitExceeded → ∃ y,
      (s.applied scoring now o).find? o.submissionId = some y ∧ y.status = .timeLimitExceeded ∧
      (∀ p, s.problems.find? x.problemId = some p →
        Exceeds y.runTime o.runTime p.timeLimit.toInt) ∧
      (s.problems.find? x.problemId = none → y.runTime = o.runTime)) ∧
    (o.status = .memoryLimitExceeded → ∃ y,
      (s.applied scoring now o).find? o.submissionId = some y ∧ y.status = .memoryLimitExceeded ∧
      (∀ p, s.problems.find? x.problemId = some p →
        Exceeds y.memory o.memory (p.memoryLimit.toInt * 1024)) ∧
      (s.problems.find? x.problemId = none → y.memory = o.memory)) := by
  have hfound : o.status.isFinal = true → (s.applied scoring now o).find? o.submissionId =
      some (x.judged (ofOutcome scoring o (s.problems.find? x.problemId)) now) := by
    intro ho
    rw [Store.applied_of_isPending hx hp ho]
    exact Store.find?_settle_judged hx _ now
  constructor
  · intro ho
    have husage : (usage o (s.problems.find? x.problemId)).1 =
        exceed o.runTime ((s.problems.find? x.problemId).map (·.timeLimit)) := by
      unfold usage
      rw [ho]
    refine ⟨_, hfound (by rw [ho]; rfl), ho, ?_⟩
    show (∀ p, _ → Exceeds (usage _ _).1 _ _) ∧ (_ → (usage _ _).1 = _)
    rw [husage]
    exact exceed_cases fun p => nearestInt32_toInt p.timeLimit
  · intro ho
    have husage : (usage o (s.problems.find? x.problemId)).2 =
        exceed o.memory ((s.problems.find? x.problemId).map (·.memoryLimitKilobytes)) := by
      unfold usage
      rw [ho]
    refine ⟨_, hfound (by rw [ho]; rfl), ho, ?_⟩
    show (∀ p, _ → Exceeds (usage _ _).2 _ _) ∧ (_ → (usage _ _).2 = _)
    rw [husage]
    exact exceed_cases fun p => rfl

/-- Two pending submissions to a problem with a time limit at the greatest figure and a memory limit
past it. -/
def boundless : Store :=
  let d : Draft := ⟨10, 1, "cpp", "x"⟩
  ((Store.empty.insertProblem ⟨10, .everyone, 1, 2147483647, 2097152, .passFail, 100, 0, 0⟩)
    |>.insertSubmission (.ofDraft 1 ⟨1, 0⟩ d)).insertSubmission (.ofDraft 2 ⟨1, 0⟩ d)

theorem exceeded_limit_is_stored_boundless : boundless.find? 1 = some
      (.ofDraft 1 ⟨1, 0⟩ ⟨10, 1, "cpp", "x"⟩) ∧ ∃ y,
    (boundless.applied reportedScore ⟨2, 0⟩ (.ofStatus 1 .timeLimitExceeded)).find? 1 = some y ∧
      y.runTime = some Int32.maxValue := by
  have hx : boundless.find? 1 = some (.ofDraft 1 ⟨1, 0⟩ ⟨10, 1, "cpp", "x"⟩) := rfl
  obtain ⟨y, hy, -, hknown, -⟩ := (exceeded_limit_is_stored
    (o := .ofStatus 1 .timeLimitExceeded) hx rfl reportedScore ⟨2, 0⟩).1 rfl
  obtain ⟨n, hn, -, -, hgreatest⟩ := hknown _ rfl
  exact ⟨hx, y, hy, hn.trans (congrArg some (hgreatest (by decide)))⟩

/-- Where no figure is above the limit, the stored one is not. -/
theorem boundless_not_above :
    (∃ y p, (boundless.applied reportedScore ⟨2, 0⟩ (.ofStatus 1 .timeLimitExceeded)).find? 1 =
        some y ∧ boundless.problems.find? 10 = some p ∧ y.status = .timeLimitExceeded ∧
        ¬ ∃ n, y.runTime = some n ∧ p.timeLimit < n) ∧
    ∃ y p, (boundless.applied reportedScore ⟨2, 0⟩ (.ofStatus 2 .memoryLimitExceeded)).find? 2 =
        some y ∧ boundless.problems.find? 10 = some p ∧ y.status = .memoryLimitExceeded ∧
        ¬ ∃ n, y.memory = some n ∧ p.memoryLimit.toInt * 1024 < n.toInt := by
  refine ⟨⟨_, _, rfl, rfl, rfl, ?_⟩, ⟨_, _, rfl, rfl, rfl, ?_⟩⟩
  · rintro ⟨n, hn, hlt⟩
    cases hn
    exact absurd hlt (by decide)
  · rintro ⟨n, hn, hlt⟩
    cases hn
    exact absurd hlt (by decide)

end Arbiter
