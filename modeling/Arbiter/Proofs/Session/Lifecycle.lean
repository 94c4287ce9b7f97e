import Arbiter.Proofs.Session.Fair

/-!
The life of one submission, in whatever order the service does its work. A submission that was
stored in a run meets one fate at most from then on (`fate_after`): each move leaves it as it is,
judges it while it is pending or removes it while it is pending, and one fate follows another only
where the first left it pending.
-/

namespace Arbiter

/-- What a submission was created with is what another was created with. -/
structure Submission.SameOrigin (y x : Submission) : Prop where
  id : y.id = x.id
  problemId : y.problemId = x.problemId
  userId : y.userId = x.userId
  language : y.language = x.language
  code : y.code = x.code
  createTime : y.createTime = x.createTime

namespace Submission

lemma SameOrigin.refl (x : Submission) : x.SameOrigin x := ⟨rfl, rfl, rfl, rfl, rfl, rfl⟩

lemma SameOrigin.trans {x y z : Submission} (h : z.SameOrigin y) (h' : y.SameOrigin x) :
    z.SameOrigin x where
  id := h.id.trans h'.id
  problemId := h.problemId.trans h'.problemId
  userId := h.userId.trans h'.userId
  language := h.language.trans h'.language
  code := h.code.trans h'.code
  createTime := h.createTime.trans h'.createTime

lemma sameOrigin_judged (x : Submission) (v : Verdict) (now : Instant) :
    (x.judged v now).SameOrigin x := ⟨rfl, rfl, rfl, rfl, rfl, rfl⟩

end Submission

/-- A stored submission keeps what it was created with, and is as it was or has its verdict. -/
lemma Fate.sameOrigin {x y : Submission} (h : Fate (some x) (some y)) :
    y.SameOrigin x ∧ (y = x ∨ y.isPending = false) := by
  cases h with
  | same => exact ⟨.refl x, .inl rfl⟩
  | judged hp v hv now => exact ⟨x.sameOrigin_judged v now, .inr (isPending_judged hv now)⟩

namespace Session

lemma Stir.fate {s : Session} {m : Move} {x : Option Submission} {t : Store} (h : s.Stir m x t)
    (hi : s.store.HasIds) {id : SubmissionId} (hid : id ≤ s.store.lastId) :
    Fate (s.store.row? id) (t.row? id) := by
  cases h with
  | effect h => exact h.fate id
  | created now d =>
    have hne : id ≠ s.store.lastId + 1 := by
      rintro rfl
      exact Int64.lt_irrefl (Int64.lt_of_le_of_lt hid (Store.lastId_lt_next hi))
    rw [Store.row?_create, if_neg hne]
    exact .same _
  | user | problem => exact .same _

theorem fate_after {s : Session} (hs : s.IsFair) {ms : List Move}
    (hi : s.Throughout Store.HasIds ms) {id : SubmissionId} (hid : id ≤ s.store.lastId) :
    Fate (s.store.row? id) ((s.after ms).store.row? id) := by
  induction ms generalizing s with
  | nil => exact .same _
  | cons m ms ih =>
    have hstir := hs.stir m
    have hrest := ih (hs.step m) hi.2 (Int64.le_trans hid (hstir.lastId_le hi.1))
    exact (hstir.fate hi.1 hid).trans hrest

lemma Stir.born {s : Session} {m : Move} {x : Submission} {t : Store} (h : s.Stir m (some x) t)
    (hs : s.store.Numbered) (hi : s.store.HasIds) :
    s.store.row? x.id = none ∧ t.row? x.id = some x ∧ x.id = s.store.lastId + 1 ∧
      t.lastId = x.id ∧ x.isPending = true := by
  cases h with
  | created now d =>
    refine ⟨hs _ (Store.lastId_lt_next hi), ?_, rfl, rfl, rfl⟩
    rw [Store.row?_create]
    exact if_pos rfl

/-- **One verdict for each submission.** A submission `x` that is created in a run is stored under
an unused id and is pending at first. After any further moves `w₁`, what is stored under its id
has the origin of `x`, and either is `x` to the letter or is final; and what is final is stored
to the letter after any further moves `w₂` too. -/
theorem one_verdict {s : Store} (hs : s.Numbered) (before : List Move) (m : Move)
    (w₁ w₂ : List Move) (hi : (opened s).Throughout Store.HasIds (before ++ m :: (w₁ ++ w₂)))
    {x : Submission} (hx : (((opened s).after before).event? m).bind Event.created? = some x) :
    ((opened s).after before).store.row? x.id = none ∧
    ((opened s).after (before ++ [m])).store.row? x.id = some x ∧
    x.status = .pending ∧
    ∀ y, ((opened s).after (before ++ m :: w₁)).store.row? x.id = some y →
      y.SameOrigin x ∧ (y = x ∨ y.status.isFinal = true) ∧
      (y.status.isFinal = true →
        ((opened s).after (before ++ m :: (w₁ ++ w₂))).store.row? x.id = some y) := by
  obtain ⟨hbefore, him, hrest⟩ := throughout_append.1 hi
  obtain ⟨hw₁, hw₂⟩ := throughout_append.1 hrest
  have hsound := (sound_opened hs).after hbefore
  have hstir := hsound.fair.stir m
  rw [hx] at hstir
  obtain ⟨hnone, hborn, -, hlast, hpending⟩ := hstir.born hsound.numbered him
  have hsound' := hsound.step him m
  simp only [after_append, after_cons, after_nil]
  refine ⟨hnone, hborn, by simpa [Submission.isPending] using hpending, fun y hy => ?_⟩
  have hfate := fate_after hsound'.fair hw₁ (Int64.le_of_eq hlast.symm)
  rw [hborn, hy] at hfate
  obtain ⟨horigin, hsame⟩ := hfate.sameOrigin
  refine ⟨horigin, hsame.imp_right Submission.isPending_eq_false.1, fun hfinal => ?_⟩
  have hsound'' := hsound'.after hw₁
  have hfate' := fate_after hsound''.fair hw₂ (hsound''.numbered.le_of_row? hy)
  rw [hy] at hfate'
  exact hfate'.eq_of_isFinal (Submission.isPending_eq_false.2 hfinal)

theorem one_verdict_accepted : ∃ y,
    ((opened smallStore).after (submitMoves ++ .turn (smoothTurn 0) :: judgeMoves)).store.row? 1 =
      some y ∧ y.status = .accepted ∧
    ((opened smallStore).after (submitMoves ++ .turn (smoothTurn 0) :: (judgeMoves ++
      [.turn (smoothTurn 0), .turn (smoothTurn 0)]))).store.row? 1 = some y := by
  have h := one_verdict (s := smallStore) (fun _ _ => rfl) submitMoves (.turn (smoothTurn 0))
    judgeMoves [.turn (smoothTurn 0), .turn (smoothTurn 0)] (by decide) rfl
  exact ⟨_, rfl, rfl, (h.2.2.2 _ rfl).2.2 rfl⟩

end Session

end Arbiter
