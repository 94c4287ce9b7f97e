import Arbiter.Proofs.Judging.ApplyCourse
import Arbiter.Proofs.Session.Serial

/-!
A task that applies an outcome, seen from its places. A turn in which the store does not fail takes
it from one place to another and changes the store, both in a way that depends on the place and
the store only (`ApplyingAt.turn`); so what the whole of it comes to in one turn can be read off
the places as well (`whole_of_seen`, `whole_of_isPending`).
-/

namespace Arbiter

/-- The course of a program that calls the store, among those that call others too. -/
def Course.atStore {P : Type} (c : Course StoreInterface P) : Course WorkInterface P where
  may
    | p, .store op => c.may p op
    | _, .outer _ => False
  next
    | p, .store op, r => c.next p op r
    | p, .outer _, _ => p

section Apply

variable {scoring : Scoring} {o : Outcome}

/-- What is left of the applying of an outcome, from a place on. -/
def ApplyingAt (scoring : Scoring) (o : Outcome) (w : Work Ended) (p : ApplyPlace) : Prop :=
  w.Keeps (applyCourse scoring o).atStore (fun p e => ∃ r, p = .ended r ∧ e = .applied r) p

theorem applyingAt_work (scoring : Scoring) (o : Outcome) :
    ApplyingAt scoring o (Duty.apply scoring o).work .arriving := by
  have h : (Work.apply scoring o).Keeps (applyCourse scoring o).atStore
      (fun p r => p = .ended r) .arriving := by
    refine Program.Keeps.expand (fun p c hc => ?_) (keeps_apply scoring o)
    exact ⟨hc, fun r => rfl⟩
  refine Program.Keeps.bind (fun p r hp => ?_) h
  exact ⟨r, hp, rfl⟩

/-- Where a call to the store leads from a place, and the store after it. -/
def ApplyPlace.turn (scoring : Scoring) (o : Outcome) (now : Instant) (s : Store) :
    ApplyPlace → ApplyPlace × Store
  | .arriving => (.seen o (s.find? o.submissionId), s)
  | .found x => (.informed x (s.problems.find? x.problemId), s)
  | .informed _ p =>
    let (y, t) := s.complete now o.submissionId (Verdict.ofOutcome scoring o p)
    (.written y, t)
  | .outrun => (.seenAgain o (s.find? o.submissionId), s)
  | .ended r => (.ended r, s)

theorem ApplyingAt.turn {w : Work Ended} {p : ApplyPlace} (h : ApplyingAt scoring o w p)
    {t : Turn} (hf : t.fault = none) (s : Store) :
    (∃ r, p = .ended r ∧ w = .done (.applied r)) ∨
    ∃ op next, w = .ask op next ∧ (t.answer s op).2 = (p.turn scoring o t.now s).2 ∧
      ApplyingAt scoring o (next (t.answer s op).1) (p.turn scoring o t.now s).1 := by
  rcases w with e | ⟨op, next⟩
  · obtain ⟨r, hp, rfl⟩ := h
    exact .inl ⟨r, hp, rfl⟩
  · right
    refine ⟨op, next, rfl, ?_⟩
    obtain ⟨hmay, hnext⟩ := h
    rcases op with c | c
    · unfold Turn.answer
      rw [hf]
      cases p with
      | arriving | found | outrun =>
        obtain rfl : c = _ := hmay
        exact ⟨rfl, hnext _⟩
      | informed x q =>
        obtain ⟨rfl, -⟩ := hmay
        exact ⟨rfl, hnext _⟩
      | ended r => exact hmay.elim
    · exact hmay.elim

/-- The whole of the task in one turn starts with the turn's first call. -/
lemma ApplyingAt.whole {w : Work Ended} {p p' : ApplyPlace} (h : ApplyingAt scoring o w p)
    {t : Turn} (hf : t.fault = none) {s s' : Store} (hp : p.turn scoring o t.now s = (p', s')) :
    ∃ w', ApplyingAt scoring o w' p' ∧ t.whole w s = t.whole w' s' := by
  rcases h.turn hf s with ⟨r, rfl, rfl⟩ | ⟨op, next, rfl, hstore, hnext⟩
  · cases hp
    exact ⟨_, h, rfl⟩
  · rw [hp] at hstore hnext
    exact ⟨_, hnext, by rw [Turn.whole_ask, hstore]⟩

lemma ApplyingAt.eq_done {w : Work Ended} {r : Except ApplyFailure Applied}
    (h : ApplyingAt scoring o w (.ended r)) : w = .done (.applied r) := by
  rcases w with e | ⟨op, next⟩
  · obtain ⟨r', hr, rfl⟩ := h
    cases hr
    rfl
  · rcases op with c | c <;> exact h.1.elim

namespace ApplyPlace

lemma seen_of_pending {x : Submission} (hx : x.isPending = true) (ho : o.status.isFinal = true) :
    seen o (some x) = .found x := by
  have hstatus : x.status = .pending := Submission.isPending_iff.1 hx
  have hfinal : Status.pending.isFinal = false := rfl
  simp [seen, Status.mayBecome, hstatus, ho, hfinal]

/-- A submission that is not pending is seen first as it is seen again. -/
lemma seen_of_not_pending {r : Option Submission} (hr : ∀ x, r = some x → x.isPending = false) :
    seen o r = seenAgain o r := by
  rcases r with _ | x
  · rfl
  · exact if_pos (Submission.isPending_eq_false.1 (hr x rfl))

/-- The first look writes nothing. -/
lemma ne_now_of_seen {r : Option Submission} {a : Except ApplyFailure Applied}
    (h : seen o r = .ended a) (x : Submission) : a ≠ .ok (.now x) := by
  rintro rfl
  unfold seen at h
  split at h
  · cases h
  · split at h
    · cases h
    · split at h <;> cases h

lemma seenAgain_eq_ended (o : Outcome) (r : Option Submission) :
    ∃ a, seenAgain o r = .ended a := by
  rcases r with _ | x
  · exact ⟨_, rfl⟩
  · exact ⟨_, rfl⟩

lemma seen_cases (o : Outcome) (r : Option Submission) :
    (∃ a, seen o r = .ended a) ∨
      ∃ x, r = some x ∧ x.isPending = true ∧ o.status.isFinal = true ∧ seen o r = .found x := by
  rcases Store.pending_or_not r with ⟨x, rfl, hx⟩ | hr
  · by_cases ho : o.status.isFinal = true
    · exact .inr ⟨x, rfl, hx, ho, seen_of_pending hx ho⟩
    · refine .inl ⟨.error (.illegalTransition o.submissionId x.status o.status), ?_⟩
      have hx : x.status.isFinal = false := by
        simpa [Submission.isPending, Status.isFinal] using hx
      simp [seen, Status.mayBecome, hx, ho]
  · rw [seen_of_not_pending hr]
    exact .inl (seenAgain_eq_ended o r)

lemma turn_informed_of_isPending {s : Store} {x : Submission}
    (hx : s.find? o.submissionId = some x) (hp : x.isPending = true) (now : Instant)
    (x' : Submission) (p : Option Problem) :
    (informed x' p).turn scoring o now s =
      (.ended (.ok (.now (x.judged (Verdict.ofOutcome scoring o p) now))),
        s.settle (x.judged (Verdict.ofOutcome scoring o p) now)) := by
  simp only [turn, Store.complete_of_isPending hx hp]
  rfl

lemma turn_informed_of_not_isPending {s : Store}
    (h : ∀ x, s.find? o.submissionId = some x → x.isPending = false) (now : Instant)
    (x' : Submission) (p : Option Problem) :
    (informed x' p).turn scoring o now s = (.outrun, s) := by
  simp only [turn, Store.complete_of_not_isPending h]
  rfl

end ApplyPlace

section Whole

variable (scoring) {t : Turn} {s : Store}

/-- The whole of an apply that its first look ends. -/
lemma whole_of_seen (hf : t.fault = none) {r : Except ApplyFailure Applied}
    (hr : ApplyPlace.seen o (s.find? o.submissionId) = .ended r) :
    t.whole (Duty.apply scoring o).work s = (.applied r, s) := by
  obtain ⟨w, hw, hwhole⟩ := (applyingAt_work scoring o).whole hf (congrArg (·, s) hr)
  rw [hwhole, hw.eq_done, Turn.whole_done]

lemma whole_of_isPending (hf : t.fault = none) {x : Submission}
    (hx : s.find? o.submissionId = some x) (hp : x.isPending = true)
    (ho : o.status.isFinal = true) {v : Verdict}
    (hv : Verdict.ofOutcome scoring o (s.problems.find? x.problemId) = v) :
    t.whole (Duty.apply scoring o).work s =
      (.applied (.ok (.now (x.judged v t.now))), s.settle (x.judged v t.now)) := by
  have hseen : ApplyPlace.seen o (s.find? o.submissionId) = .found x := by
    rw [hx, ApplyPlace.seen_of_pending hp ho]
  obtain ⟨w, hw, hwhole⟩ := (applyingAt_work scoring o).whole hf (congrArg (·, s) hseen)
  obtain ⟨w', hw', hwhole'⟩ := hw.whole hf rfl
  obtain ⟨w'', hw'', hwhole''⟩ :=
    hw'.whole hf (ApplyPlace.turn_informed_of_isPending hx hp t.now x _)
  rw [hwhole, hwhole', hwhole'', hw''.eq_done, Turn.whole_done, hv]

lemma whole_discard (hf : t.fault = none) (id : SubmissionId) :
    t.whole (Duty.discard id).work s = (.discarded (.ok (s.discard id).1), (s.discard id).2) := by
  show t.whole (.ask (.store (.discard id)) fun r => .done (.discarded r)) s = _
  rw [Turn.whole_ask, Turn.answer_store hf]
  rfl

end Whole

end Apply

end Arbiter
