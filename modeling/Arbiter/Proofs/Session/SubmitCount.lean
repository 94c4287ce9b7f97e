import Arbiter.Proofs.Session.Books

/-!
A problem's counter of submissions whenever no submit is on its way. It has grown by the number of
new submissions that are stored, less those that were judged before their submit was to take them
back: such a submission stays and is never counted, though it may count as an accepted one
(`submitCount_exact`, `submitCount_behind`).
-/

namespace Arbiter

/-- The task is a submit that is not through. -/
def Task.isSubmitting : Task → Bool
  | ⟨.submit .., .ask _ _⟩ => true
  | _ => false

namespace Session

variable {s : Session} {p : ProblemId} {last : SubmissionId}

lemma countP_holds_eq_zero (h : ∀ x ∈ s.tasks, x.isSubmitting = false) (p : ProblemId) :
    s.tasks.countP (Task.holds p) = 0 := by
  refine List.countP_eq_zero.2 fun x hx hholds => ?_
  have hx := h x hx
  obtain ⟨d, w⟩ := x
  cases d with
  | submit =>
    cases w with
    | done => cases hholds
    | ask => cases hx
  | _ => cases hholds

/-! ### Old submissions -/

/-- The submission is one to the problem, under an id up to `last`, and it is accepted or may be. -/
def isOpenOf (p : ProblemId) (last : SubmissionId) (x : Submission) : Bool :=
  x.problemId == p && decide (x.id ≤ last) && (x.isPending || x.status == .accepted)

/-- The submission is a pending one of the problem. -/
def isPendingOf (p : ProblemId) (x : Submission) : Bool := x.problemId == p && x.isPending

/-- A move makes no more old submissions accepted than may be. -/
lemma Stir.open_le {m : Move} {x : Option Submission} {t : Store} (h : s.Stir m x t)
    (hs : s.store.Numbered) (hi : s.store.HasIds) (hlast : last ≤ s.store.lastId) :
    t.tally (isOpenOf p last) ≤ s.store.tally (isOpenOf p last) := by
  cases h with
  | effect h =>
    refine h.tally_le _ fun x v now hp hopen => ?_
    unfold isOpenOf at hopen ⊢
    rw [hp, Bool.true_or, Bool.and_true]
    exact (Bool.and_eq_true_iff.1 hopen).1
  | created now d =>
    have hlt : last < (s.store.create now d).1.id :=
      Int64.lt_of_le_of_lt hlast (Store.lastId_lt_next hi)
    have hnot : isOpenOf p last (s.store.create now d).1 = false := by
      unfold isOpenOf
      rw [decide_eq_false (Int64.not_le.2 hlt), Bool.and_false, Bool.false_and]
    rw [Store.tally_create _ hs hi, hnot]
    exact Nat.le_refl _
  | user | problem => exact Nat.le_refl _

lemma open_after_le (hs : s.Sound) {ms : List Move} (hi : s.Throughout Store.HasIds ms)
    (hlast : last ≤ s.store.lastId) :
    (s.after ms).store.tally (isOpenOf p last) ≤ s.store.tally (isOpenOf p last) := by
  induction ms generalizing s with
  | nil => exact Nat.le_refl _
  | cons m ms ih =>
    have hstir := hs.fair.stir m
    have hrest := ih (hs.step hi.1 m) hi.2 (Int64.le_trans hlast (hstir.lastId_le hi.1))
    exact Nat.le_trans hrest (hstir.open_le hs.numbered hi.1 hlast)

/-- Accepted submissions are new, or were accepted or pending before. -/
lemma accepted_after_le (hs : s.Sound) {ms : List Move} (hi : s.Throughout Store.HasIds ms)
    (p : ProblemId) : (s.after ms).store.accepted p ≤
      s.kept ms p + s.store.accepted p + s.store.tally (isPendingOf p) := by
  have hnow : (s.after ms).store.accepted p ≤
      (s.after ms).store.tally (isNewOf p s.store.lastId) +
        (s.after ms).store.tally (isOpenOf p s.store.lastId) := by
    refine Store.tally_le_add _ fun x hx => ?_
    unfold Submission.isAcceptedOf at hx
    obtain ⟨hp, hstatus⟩ := Bool.and_eq_true_iff.1 hx
    unfold isNewOf isOpenOf
    rw [hp, hstatus]
    by_cases hlt : s.store.lastId < x.id
    · exact .inl (by simp [hlt])
    · exact .inr (by simp [Int64.not_lt.1 hlt])
  have hold : s.store.tally (isOpenOf p s.store.lastId) ≤
      s.store.accepted p + s.store.tally (isPendingOf p) := by
    refine Store.tally_le_add _ fun x hx => ?_
    unfold isOpenOf at hx
    unfold Submission.isAcceptedOf isPendingOf
    obtain ⟨hold, hstatus⟩ := Bool.and_eq_true_iff.1 hx
    rw [(Bool.and_eq_true_iff.1 hold).1]
    exact (Bool.or_eq_true_iff.1 hstatus).symm
  have hrun := open_after_le (p := p) hs hi (Int64.le_refl _)
  have hkept := kept_eq_tally hs hi p
  omega

/-! ### The counter -/

/-- **The counter of submissions, whenever no submit is on its way.** Let no call to the store
fail, and let nobody discard but submits whose job was refused. Then a problem's counter has grown
by the number of submissions to it that were created in the run and are stored, less those that
were left behind: it has grown by exactly that number just in case nothing was left behind. The
counter of accepted submissions has grown by no more than what was counted, what was left behind
and what was pending at the start come to. -/
theorem submitCount_exact {s : Store} (hs : s.Numbered) (ms : List Move) {p : ProblemId}
    (hi : (opened s).Throughout Store.HasIds ms)
    (hc : (opened s).Throughout (Store.HasCounts p) ms)
    (hm : ∀ m ∈ ms, m.spares p = true ∧ m.isSmooth = true ∧ m.beginsNoDiscard = true)
    (hidle : ∀ x ∈ ((opened s).after ms).tasks, x.isSubmitting = false)
    {q : Problem} (hq : s.problems.find? p = some q) :
    ∃ q', ((opened s).after ms).store.problems.find? p = some q' ∧
      q'.submitCount.toInt - q.submitCount.toInt + leftBehind p ((opened s).trace ms) =
        (opened s).kept ms p ∧
      (q'.submitCount.toInt - q.submitCount.toInt = (opened s).kept ms p ↔
        leftBehind p ((opened s).trace ms) = 0) ∧
      q'.acceptedCount.toInt - q.acceptedCount.toInt ≤
        q'.submitCount.toInt - q.submitCount.toInt + leftBehind p ((opened s).trace ms) +
          s.tally (isPendingOf p) := by
  have hsound := sound_opened hs
  have hbooks := books_after (books_opened hs hq) hsound hi hc hm
  obtain ⟨q', hq', hbalance⟩ := hbooks.balance
  have hkept : (opened s).kept ms p = ((opened s).after ms).store.tally (isNewOf p s.lastId) :=
    kept_eq_tally hsound hi p
  rw [← hkept, countP_holds_eq_zero hidle] at hbalance
  obtain ⟨r, hr, haccepted⟩ :=
    accepted_after hsound hi hc (fun m hmem => (hm m hmem).1) hq
  rw [hq'] at hr
  cases hr
  have hle : ((opened s).after ms).store.accepted p ≤
      (opened s).kept ms p + s.accepted p + s.tally (isPendingOf p) := accepted_after_le hsound hi p
  have hopen : (opened s).store = s := rfl
  rw [hopen] at haccepted
  refine ⟨q', hq', ?_, ⟨fun h => ?_, fun h => ?_⟩, ?_⟩ <;> omega

theorem submitCount_exact_one_left :
    ∃ q, ((opened smallStore).after refusedMoves).store.problems.find? 10 = some q ∧
      q.submitCount.toInt - 0 + 1 = (opened smallStore).kept refusedMoves 10 := by
  have h := submitCount_exact (s := smallStore) (p := 10) Store.numbered_empty refusedMoves
    (by decide) (by decide) (by decide) (by decide) rfl
  obtain ⟨q, hq, hcount, -⟩ := h
  exact ⟨q, hq, hcount⟩

/-- The counter of submissions may fall behind, and be passed by that of accepted ones: here no
call failed, and no submit is on its way any more. -/
theorem submitCount_behind :
    ((opened smallStore).Throughout Store.HasIds refusedMoves ∧
      (opened smallStore).Throughout (Store.HasCounts 10) refusedMoves ∧
      (∀ m ∈ refusedMoves, m.spares 10 = true ∧ m.isSmooth = true ∧ m.beginsNoDiscard = true) ∧
      ∀ x ∈ ((opened smallStore).after refusedMoves).tasks, x.isSubmitting = false) ∧
    ∃ q, ((opened smallStore).after refusedMoves).store.problems.find? 10 = some q ∧
      (opened smallStore).kept refusedMoves 10 = 1 ∧ q.submitCount = 0 ∧ q.acceptedCount = 1 := by
  refine ⟨⟨by decide, by decide, by decide, by decide⟩, _, rfl, ?_, ?_, ?_⟩
  · decide
  · decide
  · decide

end Session

end Arbiter
