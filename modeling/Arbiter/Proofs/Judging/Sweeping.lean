import Arbiter.Proofs.Judging.Attempt
import Arbiter.Proofs.Judging.SweepLog
import Arbiter.Proofs.Store.Overdue

/-!
What a sweep does to a store. It takes the first hundred of the overdue submissions and gives up on
one after the other: each gets a system error and nothing else changes (`Store.GaveUp`), unless one
of the three store calls made for it fails; then the sweep goes on with the next (`Sweep.Moves`,
`run_once`). What it leaves of the queue is the queue of the next sweep (`GaveUp.isQueue`), so that
sweep after sweep at one time the queue is done with, a hundred at a time (`isQueue_sweeps`).
-/

namespace Arbiter

namespace Store

variable {s t : Store} {scoring : Scoring} {timeoutSeconds : Nat} {now : Instant}
  {queue : List Submission}

/-! ### Giving up -/

/-- The submission with a system error, given up on after some seconds. -/
def givenUp (s : Store) (scoring : Scoring) (timeoutSeconds : Nat) (now : Instant)
    (x : Submission) : Submission :=
  x.judged (.ofOutcome scoring (Sweep.outcome timeoutSeconds x.id) (s.problems.find? x.problemId))
    now

/-- Some submissions were given up on, and nothing else happened. -/
structure GaveUp (s : Store) (scoring : Scoring) (timeoutSeconds : Nat) (xs : List Submission)
    (t : Store) : Prop where
  moved : ∀ x ∈ xs, ∃ y, t.row? x.id = some y ∧ y.status = .systemError ∧
    ∃ now, y = s.givenUp scoring timeoutSeconds now x
  kept : ∀ id, (∀ x ∈ xs, x.id ≠ id) → t.row? id = s.row? id
  problems : t.problems = s.problems
  users : t.users = s.users
  lastId : t.lastId = s.lastId

lemma gaveUp_nil : s.GaveUp scoring timeoutSeconds [] s where
  moved _ hx := absurd hx List.not_mem_nil
  kept _ _ := rfl
  problems := rfl
  users := rfl
  lastId := rfl

namespace GaveUp

lemma cons {x : Submission} {xs : List Submission}
    (h : (s.put (s.givenUp scoring timeoutSeconds now x)).GaveUp scoring timeoutSeconds xs t)
    (hx : ∀ y ∈ xs, x.id ≠ y.id) : s.GaveUp scoring timeoutSeconds (x :: xs) t where
  moved y hy := by
    rcases List.mem_cons.1 hy with rfl | hy
    · refine ⟨_, ?_, rfl, now, rfl⟩
      rw [h.kept y.id fun z hz => (hx z hz).symm, row?_put]
      exact if_pos rfl
    · exact h.moved y hy
  kept id hid := by
    have hne : id ≠ x.id := (hid x List.mem_cons_self).symm
    rw [h.kept id fun y hy => hid y (List.mem_cons_of_mem _ hy), row?_put]
    exact if_neg hne
  problems := h.problems
  users := h.users
  lastId := h.lastId

lemma row?_cases {xs : List Submission} (h : s.GaveUp scoring timeoutSeconds xs t)
    {id : SubmissionId} {y : Submission} (hy : t.row? id = some y) :
    (∃ x ∈ xs, x.id = id ∧ y.status = .systemError ∧ y.createTime = x.createTime) ∨
      (∀ x ∈ xs, x.id ≠ id) ∧ s.row? id = some y := by
  by_cases hid : ∃ x ∈ xs, x.id = id
  · obtain ⟨x, hx, rfl⟩ := hid
    obtain ⟨z, hz, hstatus, now, rfl⟩ := h.moved x hx
    rw [hy] at hz
    cases hz
    exact .inl ⟨x, hx, rfl, hstatus, rfl⟩
  · have hne : ∀ x ∈ xs, x.id ≠ id := fun x hx heq => hid ⟨x, hx, heq⟩
    exact .inr ⟨hne, (h.kept id hne).symm.trans hy⟩

variable {n : Nat} (hq : s.IsQueue timeoutSeconds now queue)
  (h : s.GaveUp scoring timeoutSeconds (queue.take n) t)
include hq h

lemma isDated (hs : s.IsDated) : t.IsDated := by
  intro y hy
  rcases h.row?_cases (Table.find?_of_mem hy) with ⟨x, hx, -, -, htime⟩ | ⟨-, hrow⟩
  · rw [htime]
    exact hs x ((hq.mem x).1 (List.mem_of_mem_take hx)).1
  · exact hs y (Table.mem_of_find? hrow)

theorem isQueue : t.IsQueue timeoutSeconds now (queue.drop n) where
  mem y := by
    have hapart : ∀ x ∈ queue.take n, ∀ y ∈ queue.drop n, x.id ≠ y.id := by
      have hids := hq.pairwise_id
      rw [← List.take_append_drop n queue, List.pairwise_append] at hids
      exact hids.2.2
    constructor
    · intro hy
      have hqueue : y ∈ queue := List.mem_of_mem_drop hy
      have hrow : t.row? y.id = some y :=
        (h.kept y.id fun x hx => hapart x hx y hy).trans (hq.row?_of_mem hqueue)
      exact ⟨Table.mem_of_find? hrow, ((hq.mem y).1 hqueue).2⟩
    · rintro ⟨hrow, hdue⟩
      rcases h.row?_cases (Table.find?_of_mem hrow) with ⟨x, -, -, hstatus, -⟩ | ⟨hne, hsame⟩
      · rw [hdue.pending] at hstatus
        cases hstatus
      · have hqueue : y ∈ queue := (hq.mem y).2 ⟨Table.mem_of_find? hsame, hdue⟩
        rw [← List.take_append_drop n queue, List.mem_append] at hqueue
        exact hqueue.resolve_left fun hy => hne y hy rfl
  ordered := hq.ordered.sublist (List.drop_sublist n queue)

end GaveUp

end Store

/-! ### The sweep at work -/

namespace Sweep

/-- What a sweep meets, by the number of the call: what time it is, and the failure of a store call
that fails. -/
structure Conditions where
  now : Nat → Instant
  fault : Nat → Option Failure

/-- Which of some submissions are moved, when the calls for them begin at some number: those for
which none of the three store calls fails. Another is left at the call that does. -/
inductive Moves (fault : Nat → Option Failure) :
    Nat → List Submission → List Submission → Prop
  | done (n : Nat) : Moves fault n [] []
  | through {n : Nat} {x : Submission} {xs moved : List Submission}
      (hcalls : ∀ i < 3, fault (n + i) = none) (h : Moves fault (n + 3) xs moved) :
      Moves fault n (x :: xs) (x :: moved)
  | failed {n i : Nat} {x : Submission} {xs moved : List Submission} (hi : i < 3)
      (hbefore : ∀ j < i, fault (n + j) = none) {f : Failure} (hf : fault (n + i) = some f)
      (h : Moves fault (n + i + 1) xs moved) : Moves fault n (x :: xs) moved

lemma Moves.eq_of_calm {fault : Nat → Option Failure} (hcalm : ∀ n, fault n = none) {n : Nat}
    {xs moved : List Submission} (h : Moves fault n xs moved) : moved = xs := by
  induction h with
  | done => rfl
  | through _ _ ih => rw [ih]
  | failed _ _ hf =>
    rw [hcalm] at hf
    cases hf

lemma Moves.subset {fault : Nat → Option Failure} {n : Nat} {xs moved : List Submission}
    (h : Moves fault n xs moved) : moved ⊆ xs := by
  induction h with
  | done => exact List.Subset.refl _
  | through _ _ ih => exact List.cons_subset_cons _ ih
  | failed _ _ _ _ ih => exact List.subset_cons_of_subset _ ih

namespace Conditions

variable (k : Conditions)

/-- The answer to a call, the store after it, and the number of the next. -/
def answer : (op : SweepCall) → StateM (Store × Nat) (SweepInterface.Answer op)
  | .now => fun d => (k.now d.2, d.1, d.2 + 1)
  | .store c => fun d =>
    match k.fault d.2 with
    | some f => (.error f, d.1, d.2 + 1)
    | none =>
      let (r, s) := d.1.run (k.now d.2) c
      (r, s, d.2 + 1)

/-- What work on a store comes to, with the store after it. -/
def run {α : Type} (w : Program SweepInterface α) (s : Store) : α × Store :=
  let out := w.interpret k.answer (s, 0)
  (out.1, out.2.1)

variable {k} {s : Store} {n : Nat}

lemma interpret_now {α : Type} (next : Instant → Program SweepInterface α) :
    (Program.ask (I := SweepInterface) .now next).interpret k.answer (s, n) =
      (next (k.now n)).interpret k.answer (s, n + 1) := rfl

lemma interpret_store {α : Type} (c : StoreCall)
    (next : Except Failure c.Result → Program SweepInterface α) :
    (Program.ask (I := SweepInterface) (.store c) next).interpret k.answer (s, n) =
      match k.fault n with
      | some f => (next (.error f)).interpret k.answer (s, n + 1)
      | none => (next (s.run (k.now n) c).1).interpret k.answer ((s.run (k.now n) c).2, n + 1) := by
  show (next (k.answer (.store c) (s, n)).1).interpret k.answer (k.answer (.store c) (s, n)).2 = _
  simp only [answer]
  rcases k.fault n with _ | f <;> rfl

lemma interpret_bind {α β : Type} (w : Program SweepInterface α)
    (f : α → Program SweepInterface β) {d e : Store × Nat} {a : α}
    (h : w.interpret k.answer d = (a, e)) :
    (w.bind f).interpret k.answer d = (f a).interpret k.answer e := by
  rw [Program.interpret_bind]
  show (let (a, d) := w.interpret k.answer d; (f a).interpret k.answer d) = _
  rw [h]

lemma interpret_applying {α : Type} (w : Program StoreInterface α) (d : Store × Nat) :
    (applying w).interpret k.answer d = w.interpret (Store.callFailing k.now k.fault) d := by
  induction w generalizing d with
  | done a => rfl
  | ask c next ih =>
    show (applying (next (k.answer (.store c) d).1)).interpret k.answer
      (k.answer (.store c) d).2 = _
    rw [ih]
    rfl

variable (scoring : Scoring) (timeoutSeconds : Nat) {x : Submission}

/-- Either all three calls are answered and the submission is given up on, or one of them fails and
nothing is done. -/
lemma attempt_cases (hx : s.find? x.id = some x) (hp : x.status = .pending) :
    ((∀ i < 3, k.fault (n + i) = none) ∧ ∃ y,
        (applying (apply scoring (outcome timeoutSeconds x.id)).run).interpret k.answer (s, n) =
          (.ok (.now y), s.put y, n + 3) ∧ ∃ now, y = s.givenUp scoring timeoutSeconds now x) ∨
      ∃ i < 3, (∀ j < i, k.fault (n + j) = none) ∧ ∃ f, k.fault (n + i) = some f ∧
        (applying (apply scoring (outcome timeoutSeconds x.id)).run).interpret k.answer (s, n) =
          (.error (.store f), s, n + i + 1) := by
  have hid : s.find? (outcome timeoutSeconds x.id).submissionId = some x := hx
  rw [interpret_applying]
  refine (Store.apply_failing_cases hid (Submission.isPending_iff.2 hp) rfl scoring k.now k.fault
    n).imp_left ?_
  rintro ⟨hcalls, y, hattempt, rfl⟩
  exact ⟨hcalls, _, hattempt, _, rfl⟩

lemma interpret_timeOut (xs : List Submission)
    (hpending : ∀ x ∈ xs, s.find? x.id = some x ∧ x.status = .pending)
    (hids : xs.Pairwise fun x y => x.id ≠ y.id) : ∃ moved t m, Moves k.fault n xs moved ∧
      (timeOut scoring timeoutSeconds (xs.map (·.id))).interpret k.answer (s, n) =
        (moved.length, t, m) ∧ s.GaveUp scoring timeoutSeconds moved t := by
  induction xs generalizing s n with
  | nil => exact ⟨[], s, n, .done n, rfl, Store.gaveUp_nil⟩
  | cons x xs ih =>
    obtain ⟨hx, hp⟩ := hpending x List.mem_cons_self
    obtain ⟨hne, hids⟩ := List.pairwise_cons.1 hids
    have hrest : ∀ y ∈ xs, s.find? y.id = some y ∧ y.status = .pending :=
      fun y hy => hpending y (List.mem_cons_of_mem _ hy)
    rcases attempt_cases (k := k) (n := n) scoring timeoutSeconds hx hp with
      ⟨hcalls, y, hattempt, now, rfl⟩ | ⟨i, hi, hbefore, f, hf, hattempt⟩
    · -- the others are where they were
      have hothers : ∀ y ∈ xs,
          (s.put (s.givenUp scoring timeoutSeconds now x)).find? y.id = some y ∧
          y.status = .pending := by
        intro y hy
        obtain ⟨hrow, hlive⟩ := Store.find?_eq_some.1 (hrest y hy).1
        refine ⟨Store.find?_eq_some.2 ⟨?_, hlive⟩, (hrest y hy).2⟩
        rw [Store.row?_put, ← hrow]
        exact if_neg (hne y hy).symm
      obtain ⟨moved, t, m, hmoves, hleft, hgave⟩ := ih (n := n + 3) hothers hids
      refine ⟨x :: moved, t, m, .through hcalls hmoves, ?_, hgave.cons fun y hy => ?_⟩
      · exact (interpret_bind _ _ hattempt).trans (interpret_bind _ _ hleft)
      · exact hne y (hmoves.subset hy)
    · obtain ⟨moved, t, m, hmoves, hleft, hgave⟩ := ih (n := n + i + 1) hrest hids
      refine ⟨moved, t, m, .failed hi hbefore hf hmoves, ?_, hgave⟩
      exact (interpret_bind _ _ hattempt).trans (interpret_bind _ _ hleft)

/-- **What one sweep does**: what is overdue cannot be told, or the first hundred of the queue are
moved as far as the store calls for them go. -/
theorem run_once (hs : s.IsDated) {queue : List Submission}
    (hq : s.IsQueue timeoutSeconds (k.now 0) queue) :
    (∃ f, k.fault 1 = some f ∧ k.run (once scoring timeoutSeconds) s = (.error f, s)) ∨
      k.fault 1 = none ∧ ∃ moved t, Moves k.fault 2 (queue.take 100) moved ∧
        k.run (once scoring timeoutSeconds) s = (.ok moved.length, t) ∧
        s.GaveUp scoring timeoutSeconds moved t := by
  have hstale : s.stale ((k.now 0).minusSeconds timeoutSeconds) batch.toInt.toNat =
      (queue.take 100).map (·.id) := by
    rw [hq.unique (Store.isQueue_queue hs)]
    exact Store.stale_eq_queue _
  unfold run
  rw [once_eq, interpret_now, interpret_store]
  rcases hf : k.fault 1 with _ | f
  · have hpending : ∀ x ∈ queue.take 100, s.find? x.id = some x ∧ x.status = .pending := by
      intro x hx
      have hx := List.mem_of_mem_take hx
      exact ⟨hq.find?_of_mem hx, ((hq.mem x).1 hx).2.pending⟩
    have hids : (queue.take 100).Pairwise fun x y => x.id ≠ y.id :=
      hq.pairwise_id.sublist (List.take_sublist _ _)
    obtain ⟨moved, t, m, hmoves, hleft, hgave⟩ :=
      interpret_timeOut (k := k) (n := 2) scoring timeoutSeconds (queue.take 100) hpending hids
    refine .inr ⟨rfl, moved, t, hmoves, ?_, hgave⟩
    simp only [Store.run, hstale]
    rw [interpret_bind _ _ hleft]
    rfl
  · exact .inl ⟨f, rfl, rfl⟩

/-! ### Sweep after sweep -/

/-- No store call fails. -/
def IsCalm (k : Conditions) : Prop := ∀ n, k.fault n = none

lemma run_once_of_isCalm (hk : k.IsCalm) (hs : s.IsDated) {queue : List Submission}
    (hq : s.IsQueue timeoutSeconds (k.now 0) queue) :
    (k.run (once scoring timeoutSeconds) s).1 = .ok (min 100 queue.length) ∧
      s.GaveUp scoring timeoutSeconds (queue.take 100)
        (k.run (once scoring timeoutSeconds) s).2 := by
  rcases run_once scoring timeoutSeconds hs hq with ⟨f, hf, -⟩ | ⟨-, moved, t, hmoves, hrun, hgave⟩
  · rw [hk] at hf
    cases hf
  · rw [hrun]
    obtain rfl := hmoves.eq_of_calm hk
    exact ⟨congrArg _ List.length_take, hgave⟩

/-- The store after some sweeps, each in its own conditions. -/
def sweeps (ks : Nat → Conditions) (scoring : Scoring) (timeoutSeconds : Nat) (s : Store) :
    Nat → Store
  | 0 => s
  | m + 1 => ((ks m).run (once scoring timeoutSeconds) (sweeps ks scoring timeoutSeconds s m)).2

/-- At one time, each sweep takes its hundred off the queue. -/
lemma isQueue_sweeps {ks : Nat → Conditions} {now : Instant} (hcalm : ∀ i, (ks i).IsCalm)
    (hnow : ∀ i, (ks i).now 0 = now) (hs : s.IsDated) {queue : List Submission}
    (hq : s.IsQueue timeoutSeconds now queue) (m : Nat) :
    (sweeps ks scoring timeoutSeconds s m).IsDated ∧
      (sweeps ks scoring timeoutSeconds s m).IsQueue timeoutSeconds now (queue.drop (m * 100)) := by
  induction m with
  | zero => exact ⟨hs, by simpa [sweeps] using hq⟩
  | succ m ih =>
    obtain ⟨hdated, hleft⟩ := ih
    have hgave :=
      (run_once_of_isCalm scoring timeoutSeconds (hcalm m) hdated (by rw [hnow]; exact hleft)).2
    refine ⟨hgave.isDated hleft hdated, ?_⟩
    rw [Nat.succ_mul, ← List.drop_drop]
    exact hgave.isQueue hleft

end Conditions

open Conditions

/-- What sweeps do to a store at some time, given the queue of what is overdue then. -/
structure MovesOldest (s : Store) (scoring : Scoring) (timeoutSeconds : Nat) (now : Instant)
    (queue : List Submission) : Prop where
  isQueue : s.IsQueue timeoutSeconds now queue
  /-- Outside leap seconds, what is overdue has an age in nanoseconds above the timeout. -/
  age : ∀ x ∈ s.submissions.rows, x.createTime.nano < 1000000000 → now.nano < 1000000000 →
    ((x.createTime.plusSeconds timeoutSeconds).before now = true ↔
      timeoutSeconds * 1000000000 < now.nanoseconds - x.createTime.nanoseconds)
  /-- Without failures, a sweep moves the first hundred and answers how many these are. -/
  calm : ∀ k : Conditions, k.IsCalm → k.now 0 = now →
    (k.run (once scoring timeoutSeconds) s).1 = .ok (min 100 queue.length) ∧
      s.GaveUp scoring timeoutSeconds (queue.take 100) (k.run (once scoring timeoutSeconds) s).2
  /-- So after a hundredth as many sweeps, rounded up, nothing is overdue, and the next one moves
  nothing. -/
  ends : ∀ ks : Nat → Conditions, (∀ i, (ks i).IsCalm) → (∀ i, (ks i).now 0 = now) →
    let m := (queue.length + 99) / 100
    let t := sweeps ks scoring timeoutSeconds s m
    (∀ x ∈ t.submissions.rows, ¬ x.Overdue timeoutSeconds now) ∧
      ((ks m).run (once scoring timeoutSeconds) t).1 = .ok 0
  /-- With failures, it moves those of the hundred that it can, and answers how many. Call 1 asks
  what is overdue, and those from 2 on are made for one submission after the other. -/
  failing : ∀ k : Conditions, k.now 0 = now →
    (∃ f, k.fault 1 = some f ∧ k.run (once scoring timeoutSeconds) s = (.error f, s)) ∨
      k.fault 1 = none ∧ ∃ moved t, Moves k.fault 2 (queue.take 100) moved ∧
        k.run (once scoring timeoutSeconds) s = (.ok moved.length, t) ∧
        s.GaveUp scoring timeoutSeconds moved t
  /-- Whatever a store answers, and whoever else is at work on it, there is an attempt for each of
  the hundred, and a sweep answers how many verdicts it has written itself. -/
  attempts : ∀ (log : List (Exchange SweepInterface)) (r : Except Failure Nat),
    (once scoring timeoutSeconds).Leads log (.done r) → SweepLog scoring timeoutSeconds log r

/-- **A sweep moves exactly the oldest overdue submissions.** -/
theorem moves_oldest {s : Store} (hs : s.IsDated) (scoring : Scoring) (timeoutSeconds : Nat)
    (now : Instant) : ∃ queue, MovesOldest s scoring timeoutSeconds now queue := by
  have hq : s.IsQueue timeoutSeconds now (s.queue timeoutSeconds now) := Store.isQueue_queue hs
  refine ⟨s.queue timeoutSeconds now, {
    isQueue := hq
    age := fun x _ hx hnow => Instant.plusSeconds_before_iff hx hnow timeoutSeconds
    calm := ?_
    ends := ?_
    failing := ?_
    attempts := fun log r => sweepLog_of_leads }⟩
  · rintro k hk rfl
    exact run_once_of_isCalm scoring timeoutSeconds hk hs hq
  · intro ks hcalm hnow m t
    have hleft : (s.queue timeoutSeconds now).drop (m * 100) = [] := by
      refine List.drop_eq_nil_of_le ?_
      show _ ≤ (_ + 99) / 100 * 100
      omega
    obtain ⟨hdated, hqueue⟩ := isQueue_sweeps scoring timeoutSeconds hcalm hnow hs hq m
    rw [hleft] at hqueue
    refine ⟨fun x hx hdue => absurd ((hqueue.mem x).2 ⟨hx, hdue⟩) List.not_mem_nil, ?_⟩
    rw [← hnow m] at hqueue
    exact (run_once_of_isCalm scoring timeoutSeconds (hcalm m) hdated hqueue).1
  · rintro k rfl
    exact run_once scoring timeoutSeconds hs hq

/-- Two old submissions, and one that is a year younger. -/
def waitingRoom : Store :=
  let d : Draft := ⟨10, 1, "cpp", "x"⟩
  ((Store.empty.insertSubmission (.ofDraft 1 ⟨7, 0⟩ d)).insertSubmission
    (.ofDraft 2 ⟨5, 0⟩ d)).insertSubmission (.ofDraft 3 ⟨31536005, 0⟩ d)

theorem moves_oldest_waitingRoom : waitingRoom.IsDated ∧
    ∃ queue, MovesOldest waitingRoom reportedScore 300 ⟨31536005, 0⟩ queue :=
  ⟨by decide, moves_oldest (by decide) reportedScore 300 ⟨31536005, 0⟩⟩

end Sweep

end Arbiter
