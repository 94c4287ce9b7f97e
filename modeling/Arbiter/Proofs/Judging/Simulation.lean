import Arbiter.Judging.Simulate
import Arbiter.Proofs.Judging.Attempt
import Arbiter.Proofs.Judging.Retry
import Mathlib.Order.Bounds.Basic
import Mathlib.Tactic.Ring

/-!
A simulated judge. What it reports at random is plausible (`Outcome.isPlausible_random`). When it is
watched (`Simulation.watch`), it applies its outcome until that is of no more use, five times at
most (`Simulation.IsEnough`), at times that are fixed by the delay, and then is through
(`watch_eq`).
-/

namespace Arbiter.Outcome

lemma pick_bounds (least greatest seed : Nat) (h : least ≤ greatest) (hg : greatest < 2 ^ 31) :
    Int32.ofNat least ≤ pick least greatest seed ∧
      pick least greatest seed ≤ Int32.ofNat greatest := by
  have hmod : seed % (greatest + 1 - least) < greatest + 1 - least := Nat.mod_lt _ (by omega)
  unfold pick
  rw [Int32.le_iff_toInt_le, Int32.le_iff_toInt_le, Int32.toInt_ofNat_of_lt (by omega),
    Int32.toInt_ofNat_of_lt (by omega), Int32.toInt_ofNat_of_lt hg]
  omega

theorem isPlausible_random (id : SubmissionId) (choose : Nat → Nat) :
    (random id choose).isPlausible id = true := by
  have hstatus : randomStatuses.getD (choose 0 % randomStatuses.length) .accepted ∈
      randomStatuses := by
    have hlt : choose 0 % randomStatuses.length < randomStatuses.length := Nat.mod_lt _ (by decide)
    rw [List.getD_eq_getElem?_getD, List.getElem?_eq_getElem hlt]
    exact List.getElem_mem hlt
  have hplain : ∀ status ∈ randomStatuses, status.isFinal = true ∧ status ≠ .systemError := by
    decide
  obtain ⟨hfinal, hsystem⟩ := hplain _ hstatus
  have htime := pick_bounds 1 1000 (choose 1) (by omega) (by omega)
  have hmemory := pick_bounds 1024 65536 (choose 2) (by omega) (by omega)
  have hscore := pick_bounds 0 100 (choose 3) (by omega) (by omega)
  unfold random
  generalize randomStatuses.getD (choose 0 % randomStatuses.length) .accepted = status at *
  by_cases hcompile : status = .compileError
  · subst hcompile
    simp [isPlausible, ofStatus, Status.isFinal]
  · simpa [isPlausible, ofStatus, hcompile, hfinal, hsystem] using ⟨⟨htime, hmemory⟩, hscore⟩

end Arbiter.Outcome

namespace Arbiter.Simulation

open FrailStore

/-! ### Watching a judge -/

/-- A simulated judge at work on something that outcomes are applied to. -/
structure Watch (S : Type) where
  state : S
  /-- Milliseconds since the submission was enqueued. -/
  elapsed : Nat
  /-- When the outcome was applied and what that left, first to last. -/
  attempts : List (Nat × S)

section

variable {S : Type} (applying : Outcome → StateM S (Except ApplyFailure Applied))

/-- Outcomes are applied in no time, and pauses take theirs. -/
def Watch.answer : (op : SimulationCall) → StateM (Watch S) (SimulationInterface.Answer op)
  | .apply o => fun w =>
    let (r, s) := applying o w.state
    (r, ⟨s, w.elapsed, w.attempts ++ [(w.elapsed, s)]⟩)
  | .pause milliseconds => fun w => ((), { w with elapsed := w.elapsed + milliseconds })

/-- A judge watched from when the submission is enqueued until it is through. -/
def watch (delay : Nat) (o : Outcome) (s : S) : Watch S :=
  ((judge delay o).interpret (Watch.answer applying) ⟨s, 0, []⟩).2

/-- What is left when an outcome was applied some times. -/
def left (o : Outcome) (s : S) : Nat → S
  | 0 => s
  | n + 1 => (applying o (left o s n)).2

/-- What it comes to to apply an outcome once more. -/
def result (o : Outcome) (s : S) (n : Nat) : Except ApplyFailure Applied :=
  (applying o (left applying o s n)).1

end

/-- The least number of attempts among the most that are made and those after which another is of
no use. -/
def IsEnough (most : Nat) (result : Nat → Except ApplyFailure Applied) (k : Nat) : Prop :=
  IsLeast (insert most {k | ∃ n, k = n + 1 ∧ ¬ MayRetry (result n)}) k

namespace IsEnough

variable {most k : Nat} {result : Nat → Except ApplyFailure Applied}

lemma one_of_not_mayRetry (h : ¬ MayRetry (result 0)) : IsEnough (most + 1) result 1 := by
  refine ⟨.inr ⟨0, rfl, h⟩, ?_⟩
  rintro k (rfl | ⟨n, rfl, -⟩)
  · exact Nat.le_add_left 1 most
  · exact Nat.le_add_left 1 n

lemma one_of_most (result : Nat → Except ApplyFailure Applied) : IsEnough 1 result 1 := by
  refine ⟨.inl rfl, ?_⟩
  rintro k (rfl | ⟨n, rfl, -⟩)
  · exact Nat.le_refl 1
  · exact Nat.le_add_left 1 n

lemma pos (h : IsEnough (most + 1) result k) : 0 < k := by
  rcases h.1 with rfl | ⟨n, rfl, -⟩
  · exact Nat.succ_pos most
  · exact Nat.succ_pos n

/-- After one attempt that may be retried the rest are counted from the next. -/
lemma succ (hretry : MayRetry (result 0)) (h : IsEnough most (fun n => result (n + 1)) k) :
    IsEnough (most + 1) result (k + 1) := by
  obtain ⟨hk, hleast⟩ := h
  constructor
  · rcases hk with rfl | ⟨n, rfl, hn⟩
    · exact .inl rfl
    · exact .inr ⟨n + 1, rfl, hn⟩
  · rintro m (rfl | ⟨n, rfl, hn⟩)
    · exact Nat.succ_le_succ (hleast (.inl rfl))
    · rcases n with _ | n
      · exact absurd hretry hn
      · exact Nat.succ_le_succ (hleast (.inr ⟨n, rfl, hn⟩))

lemma eq_of_first (h : IsEnough most result k) {n : Nat} (hn : n < most)
    (hbefore : ∀ j < n, MayRetry (result j)) (hlast : ¬ MayRetry (result n)) : k = n + 1 := by
  refine h.unique ⟨.inr ⟨n, rfl, hlast⟩, ?_⟩
  rintro m (rfl | ⟨j, rfl, hj⟩)
  · exact hn
  · have hle : n ≤ j := Nat.le_of_not_lt fun hlt => hj (hbefore j hlt)
    exact Nat.succ_le_succ hle

lemma eq_most (h : IsEnough most result k) (hretry : ∀ j < most, MayRetry (result j)) :
    k = most := by
  rcases h.1 with hk | ⟨n, rfl, hn⟩
  · exact hk
  · have hle : n + 1 ≤ most := h.2 (.inl rfl)
    exact absurd (hretry n hle) hn

end IsEnough

section

variable {S : Type} (applying : Outcome → StateM S (Except ApplyFailure Applied)) (o : Outcome)

lemma left_succ (s : S) (n : Nat) :
    left applying o (applying o s).2 n = left applying o s (n + 1) := by
  induction n with
  | zero => rfl
  | succ n ih => exact congrArg (fun s => (applying o s).2) ih

lemma result_succ (s : S) (n : Nat) :
    result applying o (applying o s).2 n = result applying o s (n + 1) :=
  congrArg (fun s => (applying o s).1) (left_succ applying o s n)

/-- The judge after it has applied its outcome. -/
def Watch.tried (w : Watch S) : Watch S :=
  let s := (applying o w.state).2
  ⟨s, w.elapsed, w.attempts ++ [(w.elapsed, s)]⟩

variable {o} in
lemma attempts_succ (more pause : Nat) :
    attempts o (more + 1) pause = .ask (.apply o) fun
      | .error f =>
        if f.isRetryable then .ask (.pause pause) fun _ => attempts o more (2 * pause) else .done ()
      | .ok _ => .done () := by
  -- the recursion is opened by hand, as it goes on inside a match on an answer
  delta attempts
  refine congrArg (Program.ask (I := SimulationInterface) (.apply o)) (funext fun r => ?_)
  rcases r with f | a
  · rfl
  · rfl

variable {applying o} {w : Watch S}

lemma interpret_apply
    (next : Except ApplyFailure Applied → Program SimulationInterface Unit) :
    (Program.ask (I := SimulationInterface) (.apply o) next).interpret (Watch.answer applying) w =
      (next (applying o w.state).1).interpret (Watch.answer applying) (w.tried applying o) := rfl

lemma interpret_attempts_of_mayRetry (more pause : Nat) (h : MayRetry (applying o w.state).1) :
    (attempts o (more + 1) pause).interpret (Watch.answer applying) w =
      (attempts o more (2 * pause)).interpret (Watch.answer applying)
        { w.tried applying o with elapsed := w.elapsed + pause } := by
  obtain ⟨f, hf, hretry⟩ := h
  rw [attempts_succ, interpret_apply, hf]
  dsimp only
  rw [if_pos hretry]
  rfl

lemma interpret_attempts_of_not_mayRetry (more pause : Nat)
    (h : more = 0 ∨ ¬ MayRetry (applying o w.state).1) :
    (attempts o more pause).interpret (Watch.answer applying) w = ((), w.tried applying o) := by
  rcases more with _ | more
  · rfl
  have hfinal : ¬ MayRetry (applying o w.state).1 := h.resolve_left (Nat.succ_ne_zero more)
  rw [attempts_succ, interpret_apply]
  rcases hr : (applying o w.state).1 with f | a
  · have hretry : ¬ f.isRetryable = true := fun hf => hfinal ⟨f, hr, hf⟩
    dsimp only
    rw [if_neg hretry]
    rfl
  · rfl

lemma pause_add_double (pause j : Nat) :
    pause + 2 * pause * (2 ^ j - 1) = pause * (2 ^ (j + 1) - 1) := by
  obtain ⟨t, ht⟩ : ∃ t, 2 ^ j = t + 1 := Nat.exists_eq_add_one.2 (Nat.two_pow_pos j)
  have hdouble : 2 ^ (j + 1) - 1 = 2 * t + 1 := by
    rw [Nat.pow_succ, ht]
    omega
  rw [ht, hdouble, Nat.add_sub_cancel]
  ring

theorem interpret_attempts (more pause : Nat) (w : Watch S) :
    ∃ k, IsEnough (more + 1) (result applying o w.state) k ∧
      (attempts o more pause).interpret (Watch.answer applying) w =
        ((), ⟨left applying o w.state k, w.elapsed + pause * (2 ^ (k - 1) - 1),
          w.attempts ++ (List.range k).map fun j =>
            (w.elapsed + pause * (2 ^ j - 1), left applying o w.state (j + 1))⟩) := by
  induction more generalizing pause w with
  | zero =>
    refine ⟨1, .one_of_most _, ?_⟩
    rw [interpret_attempts_of_not_mayRetry 0 pause (.inl rfl)]
    rfl
  | succ more ih =>
    by_cases hretry : MayRetry (applying o w.state).1
    · -- the rest is done by the same judge, a pause later and with pauses twice as long
      obtain ⟨k, hk, hrest⟩ :=
        ih (2 * pause) { w.tried applying o with elapsed := w.elapsed + pause }
      have hnext : result applying o (w.tried applying o).state =
          fun n => result applying o w.state (n + 1) := funext (result_succ applying o w.state)
      have hleft : ∀ n, left applying o (w.tried applying o).state n =
          left applying o w.state (n + 1) := left_succ applying o w.state
      have htime : ∀ j, w.elapsed + pause + 2 * pause * (2 ^ j - 1) =
          w.elapsed + pause * (2 ^ (j + 1) - 1) := by
        intro j
        rw [Nat.add_assoc, pause_add_double]
      refine ⟨k + 1, .succ hretry (hnext ▸ hk), ?_⟩
      rw [interpret_attempts_of_mayRetry more pause hretry, hrest]
      obtain ⟨i, rfl⟩ := Nat.exists_eq_add_one.2 hk.pos
      have hlog : (w.tried applying o).attempts ++ (List.range (i + 1)).map (fun j =>
            (w.elapsed + pause + 2 * pause * (2 ^ j - 1),
              left applying o (w.tried applying o).state (j + 1))) =
          w.attempts ++ (List.range (i + 1 + 1)).map fun j =>
            (w.elapsed + pause * (2 ^ j - 1), left applying o w.state (j + 1)) := by
        have hrange : List.range (i + 1 + 1) = 0 :: (List.range (i + 1)).map Nat.succ :=
          List.range_succ_eq_map
        rw [hrange, List.map_cons, List.map_map]
        simp only [htime, hleft]
        exact List.append_assoc _ _ _
      dsimp only
      rw [hlog, Nat.add_sub_cancel, Nat.add_sub_cancel, htime, hleft]
    · refine ⟨1, .one_of_not_mayRetry hretry, ?_⟩
      rw [interpret_attempts_of_not_mayRetry _ pause (.inr hretry)]
      rfl

lemma watch_eq (applying : Outcome → StateM S (Except ApplyFailure Applied)) (delay : Nat)
    (o : Outcome) (s : S) : ∃ k, IsEnough 5 (result applying o s) k ∧
      watch applying delay o s =
        ⟨left applying o s k, delay + 500 * (2 ^ (k - 1) - 1),
          (List.range k).map fun j => (delay + 500 * (2 ^ j - 1), left applying o s (j + 1))⟩ := by
  obtain ⟨k, hk, hrun⟩ :=
    @interpret_attempts S applying o (maxAttempts - 1) firstPause ⟨s, 0 + delay, []⟩
  refine ⟨k, hk, (congrArg Prod.snd hrun).trans ?_⟩
  dsimp only
  rw [Nat.zero_add, List.nil_append]
  rfl

end

/-! ### A judge of a store -/

/-- What the calls to the store meet, by the number of the attempt and that of the call in it: what
time it is, and the failure of a call that fails. -/
structure Conditions where
  now : Nat → Nat → Instant
  fault : Nat → Nat → Option Failure

namespace Conditions

variable (c : Conditions)

/-- One of the three store calls of an attempt fails. -/
def Fails (n : Nat) : Prop := ∃ i < 3, c.fault n i ≠ none

instance (n : Nat) : Decidable (c.Fails n) :=
  inferInstanceAs (Decidable (∃ i < 3, c.fault n i ≠ none))

/-- Attempts at applying outcomes to a store; the attempts are numbered. -/
def applying (scoring : Scoring) (o : Outcome) :
    StateM (Store × Nat) (Except ApplyFailure Applied) := fun d =>
  let out := (apply scoring o).run.interpret (Store.callFailing (c.now d.2) (c.fault d.2)) (d.1, 0)
  (out.1, out.2.1, d.2 + 1)

variable {c} {s : Store} {o : Outcome} {x : Submission} {n : Nat}
  (hx : s.find? o.submissionId = some x) (hp : x.isPending = true) (ho : o.status.isFinal = true)
include hx hp ho

lemma applying_of_fails (scoring : Scoring) (hn : c.Fails n) :
    ∃ f, c.applying scoring o (s, n) = (.error (.store f), s, n + 1) := by
  unfold applying
  dsimp only
  rcases Store.apply_failing_cases hx hp ho scoring (c.now n) (c.fault n) 0 with
    ⟨hcalls, -⟩ | ⟨i, -, -, f, -, hattempt⟩
  · obtain ⟨i, hi, hfails⟩ := hn
    exact absurd (Nat.zero_add i ▸ hcalls i hi) hfails
  · rw [hattempt]
    exact ⟨f, rfl⟩

lemma applying_of_not_fails (scoring : Scoring) (hn : ¬ c.Fails n) :
    ∃ y, c.applying scoring o (s, n) =
      (.ok (.now y), s.applied scoring (c.now n 2) o, n + 1) := by
  unfold applying
  dsimp only
  rcases Store.apply_failing_cases hx hp ho scoring (c.now n) (c.fault n) 0 with
    ⟨-, y, hattempt, rfl⟩ | ⟨i, hi, -, f, hf, -⟩
  · rw [hattempt, Store.applied_of_isPending hx hp ho]
    exact ⟨_, rfl⟩
  · rw [Nat.zero_add] at hf
    exact absurd ⟨i, hi, by rw [hf]; exact Option.some_ne_none f⟩ hn

lemma left_of_fails (scoring : Scoring) (hn : ∀ j < n, c.Fails j) :
    left (c.applying scoring) o (s, 0) n = (s, n) := by
  induction n with
  | zero => rfl
  | succ n ih =>
    obtain ⟨f, hf⟩ := applying_of_fails hx hp ho scoring (hn n (Nat.lt_succ_self n))
    show (c.applying scoring o (left (c.applying scoring) o (s, 0) n)).2 = (s, n + 1)
    rw [ih fun j hj => hn j (Nat.lt_succ_of_lt hj), hf]

lemma mayRetry_of_fails (scoring : Scoring) (hn : ∀ j < n, c.Fails j) {j : Nat} (hj : j < n) :
    MayRetry (result (c.applying scoring) o (s, 0) j) := by
  obtain ⟨f, hf⟩ := applying_of_fails hx hp ho scoring (hn j hj)
  unfold result
  rw [left_of_fails hx hp ho scoring fun i hi => hn i (Nat.lt_trans hi hj), hf]
  exact ⟨.store f, rfl, rfl⟩

lemma not_mayRetry_of_not_fails (scoring : Scoring) (hbefore : ∀ j < n, c.Fails j)
    (hn : ¬ c.Fails n) : ¬ MayRetry (result (c.applying scoring) o (s, 0) n) := by
  obtain ⟨y, hy⟩ := applying_of_not_fails hx hp ho scoring hn
  unfold result
  rw [left_of_fails hx hp ho scoring hbefore, hy]
  rintro ⟨f, hf, -⟩
  cases hf

lemma map_left_of_fails {β : Type} (scoring : Scoring) (hn : ∀ j < n, c.Fails j)
    (f : Nat → Store × Nat → β) :
    ((List.range n).map fun j => f j (left (c.applying scoring) o (s, 0) (j + 1))) =
      (List.range n).map fun j => f j (s, j + 1) := by
  refine List.map_congr_left fun j hj => ?_
  have hlt : j < n := List.mem_range.1 hj
  rw [left_of_fails hx hp ho scoring fun i hi => hn i (Nat.lt_of_lt_of_le hi hlt)]

lemma watch_of_first (scoring : Scoring) (delay : Nat) (hn : n < 5)
    (hbefore : ∀ j < n, c.Fails j) (hcalm : ¬ c.Fails n) :
    watch (c.applying scoring) delay o (s, 0) =
      ⟨(s.applied scoring (c.now n 2) o, n + 1), delay + 500 * (2 ^ n - 1),
        ((List.range n).map fun j => (delay + 500 * (2 ^ j - 1), s, j + 1)) ++
          [(delay + 500 * (2 ^ n - 1), s.applied scoring (c.now n 2) o, n + 1)]⟩ := by
  obtain ⟨k, hk, hwatch⟩ := watch_eq (c.applying scoring) delay o (s, 0)
  obtain rfl := hk.eq_of_first hn
    (fun j hj => mayRetry_of_fails hx hp ho scoring hbefore hj)
    (not_mayRetry_of_not_fails hx hp ho scoring hbefore hcalm)
  have hlast : left (c.applying scoring) o (s, 0) (n + 1) =
      (s.applied scoring (c.now n 2) o, n + 1) := by
    obtain ⟨y, hy⟩ := applying_of_not_fails hx hp ho scoring hcalm
    show (c.applying scoring o (left (c.applying scoring) o (s, 0) n)).2 = _
    rw [left_of_fails hx hp ho scoring hbefore, hy]
  rw [hwatch, List.range_succ, List.map_append, hlast, Nat.add_sub_cancel,
    map_left_of_fails hx hp ho scoring hbefore fun j d => (delay + 500 * (2 ^ j - 1), d)]
  simp only [List.map_cons, List.map_nil, hlast]

lemma watch_of_fails (scoring : Scoring) (delay : Nat) (hfails : ∀ j < 5, c.Fails j) :
    watch (c.applying scoring) delay o (s, 0) =
      ⟨(s, 5), delay + 7500,
        (List.range 5).map fun j => (delay + 500 * (2 ^ j - 1), s, j + 1)⟩ := by
  obtain ⟨k, hk, hwatch⟩ := watch_eq (c.applying scoring) delay o (s, 0)
  obtain rfl := hk.eq_most fun j hj => mayRetry_of_fails hx hp ho scoring hfails hj
  rw [hwatch, left_of_fails hx hp ho scoring hfails,
    map_left_of_fails hx hp ho scoring hfails fun j d => (delay + 500 * (2 ^ j - 1), d)]
  rfl

end Conditions

lemma find?_applied {s : Store} {o : Outcome} {x : Submission}
    (hx : s.find? o.submissionId = some x) (hp : x.isPending = true)
    (ho : o.status.isFinal = true) (scoring : Scoring) (now : Instant) : ∃ y,
      (s.applied scoring now o).find? o.submissionId = some y ∧ y.status = o.status := by
  rw [Store.applied_of_isPending hx hp ho]
  exact ⟨_, Store.find?_settle_judged hx _ _, rfl⟩

/-- **A simulated judge goes on as long as it is of use, and no longer.** Whatever outcomes are
applied to and whatever that comes to, the outcome is applied `k` times, where `k` is the least of
five and the number of the first attempt whose result is no failure that may be retried; the
attempts come `delay + 500 * (2 ^ j - 1)` milliseconds after the submission was enqueued, for `j`
from `0`, and after the last the judge is through. So, over a store with nobody else at work on it
and whose calls may fail without being carried out, a live pending submission has the status of the
outcome from the first of five attempts in which no call fails, and if there is none the store is
what it was. -/
theorem retries_while_of_use (delay : Nat) (o : Outcome) :
    (∀ (S : Type) (applying : Outcome → StateM S (Except ApplyFailure Applied)) (s : S),
      ∃ k, IsEnough 5 (result applying o s) k ∧
        watch applying delay o s =
          ⟨left applying o s k, delay + 500 * (2 ^ (k - 1) - 1),
            (List.range k).map fun j =>
              (delay + 500 * (2 ^ j - 1), left applying o s (j + 1))⟩) ∧
      ∀ (c : Conditions) (scoring : Scoring) (s : Store) (x : Submission),
        s.find? o.submissionId = some x → x.isPending = true → o.status.isFinal = true →
        (∀ n < 5, (∀ j < n, c.Fails j) → ¬ c.Fails n → ∃ t y,
          t = s.applied scoring (c.now n 2) o ∧ t.find? o.submissionId = some y ∧
          y.status = o.status ∧ watch (c.applying scoring) delay o (s, 0) =
            ⟨(t, n + 1), delay + 500 * (2 ^ n - 1),
              ((List.range n).map fun j => (delay + 500 * (2 ^ j - 1), s, j + 1)) ++
                [(delay + 500 * (2 ^ n - 1), t, n + 1)]⟩) ∧
        ((∀ n < 5, c.Fails n) → watch (c.applying scoring) delay o (s, 0) =
          ⟨(s, 5), delay + 7500,
            (List.range 5).map fun j => (delay + 500 * (2 ^ j - 1), s, j + 1)⟩) := by
  refine ⟨fun S applying s => watch_eq applying delay o s, ?_⟩
  intro c scoring s x hx hp ho
  refine ⟨?_, c.watch_of_fails hx hp ho scoring delay⟩
  intro n hn hbefore hcalm
  obtain ⟨y, hy, hstatus⟩ := find?_applied hx hp ho scoring (c.now n 2)
  exact ⟨_, y, rfl, hy, hstatus, c.watch_of_first hx hp ho scoring delay hn hbefore hcalm⟩

/-- The third call of the first attempt fails, and the first call of the second. -/
def Conditions.twiceDown : Conditions where
  now _ _ := ⟨1, 0⟩
  fault n i := if (n, i) ∈ [(0, 2), (1, 0)] then some (.database "down") else none

theorem retries_while_of_use_third :
    let w := watch (Conditions.twiceDown.applying reportedScore) 100 (.ofStatus 1 .accepted)
      (Store.twoPending, 0)
    w.attempts.map (·.1) = [100, 600, 1600] ∧
      ∃ y, w.state.1.find? 1 = some y ∧ y.status = .accepted := by
  intro w
  obtain ⟨-, hstore⟩ := retries_while_of_use 100 (.ofStatus 1 .accepted)
  obtain ⟨hfirst, -⟩ := hstore .twiceDown reportedScore .twoPending _ rfl rfl rfl
  obtain ⟨t, y, -, hy, hstatus, hw⟩ := hfirst 2 (by decide) (by decide) (by decide)
  have hw : w = _ := hw
  rw [hw]
  exact ⟨rfl, y, hy, hstatus⟩

end Arbiter.Simulation
