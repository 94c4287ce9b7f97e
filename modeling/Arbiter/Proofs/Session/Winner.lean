import Arbiter.Proofs.Session.ApplyTurn

/-!
Who wins. In a serial session of applied outcomes and discards, a pending submission that is not
discarded stays as it is until the first final outcome for it has its turn; that outcome is
written, and all outcomes that come later are answered with its status (`Race.takeWhole`,
`Race.afterWhole`).
-/

namespace Arbiter

/-- What may be asked for: that an outcome be applied, as the judge scores it, or that a
submission be discarded. -/
inductive Errand where
  | apply (o : Outcome)
  | discard (id : SubmissionId)

def Errand.duty : Errand → Duty
  | apply o => .apply reportedScore o
  | discard id => .discard id

/-- The task of an errand is through, or at its start. -/
def Errand.IsWhole (r : Errand) (x : Task) : Prop :=
  x.duty = r.duty ∧ (x.rest = r.duty.work ∨ ∃ e, x.rest = .done e)

namespace Store

variable (s : Store) (id : SubmissionId)

lemma find?_settle_of_ne {x : Submission} (h : id ≠ x.id) : (s.settle x).find? id = s.find? id := by
  show ((s.settle x).row? id).filter _ = (s.row? id).filter _
  rw [row?_settle, if_neg h]

lemma find?_settle_self {x : Submission} (h : x.isDeleted = false) :
    (s.settle x).find? x.id = some x := by
  rw [find?_eq_some, row?_settle, if_pos rfl]
  exact ⟨rfl, h⟩

lemma find?_discard_of_ne {j : SubmissionId} (h : id ≠ j) :
    (s.discard j).2.find? id = s.find? id := by
  rcases s.discard_cases j with ⟨x, -, -, hd⟩ | hd
  · rw [hd]
    show ((s.drop j).row? id).filter _ = (s.row? id).filter _
    rw [row?_drop, if_neg h]
  · rw [hd]

end Store

namespace Session

/-- What the task of this number came to, if it is through. -/
def came? (s : Session) (i : Nat) : Option Ended := s.tasks[i]?.bind Task.ended?

/-- How the race for one submission stands. -/
inductive Race (rs : List Errand) (id : SubmissionId) (s : Session) : Prop
  /-- No final outcome had its turn. -/
  | undecided (x : Submission) (hx : s.store.find? id = some x) (hp : x.isPending = true)
      (h : ∀ i o e, rs[i]? = some (.apply o) → o.submissionId = id → s.came? i = some e →
        o.status.isFinal = false ∧ ∀ z, e ≠ .applied (.ok (.now z)))
  /-- The outcome of this task was written, and all others were told so. -/
  | won (i : Nat) (o : Outcome) (y : Submission) (hy : s.store.find? id = some y)
      (hp : y.isPending = false) (hi : rs[i]? = some (.apply o)) (hid : o.submissionId = id)
      (hstatus : y.status = o.status) (hcame : s.came? i = some (.applied (.ok (.now y))))
      (h : ∀ j o' e, j ≠ i → rs[j]? = some (.apply o') → o'.submissionId = id →
        s.came? j = some e → (o'.status.isFinal = true → e = .applied (.ok (.before y.status))) ∧
          ∀ z, e ≠ .applied (.ok (.now z)))

variable {rs : List Errand} {id : SubmissionId} {s : Session} {t : Turn}

lemma came?_takeWhole_of_ne {i : Nat} (h : t.task ≠ i) : (s.takeWhole t).came? i = s.came? i := by
  unfold came?
  rw [tasks_takeWhole_of_ne h]

lemma came?_takeWhole_self {x : Task} (hx : s.tasks[t.task]? = some x) :
    (s.takeWhole t).came? t.task = some (t.whole x.rest s.store).1 := by
  unfold came?
  rw [takeWhole_of_some hx, List.getElem?_set_self (List.getElem?_eq_some_iff.1 hx).1]
  rfl

lemma takeWhole_of_done {d : Duty} {e : Ended} (hx : s.tasks[t.task]? = some ⟨d, .done e⟩) :
    s.takeWhole t = s := by
  rw [takeWhole_of_some hx, Turn.whole_done]
  obtain ⟨ht, hget⟩ := List.getElem?_eq_some_iff.1 hx
  rw [← hget, List.set_getElem_self ht]

lemma Race.frame (h : Race rs id s) (hfind : (s.takeWhole t).store.find? id = s.store.find? id)
    (hnew : ∀ o e x, rs[t.task]? = some (.apply o) → o.submissionId = id →
      (s.takeWhole t).came? t.task = some e → s.store.find? id = some x →
      (x.isPending = true → o.status.isFinal = false ∧ ∀ z, e ≠ .applied (.ok (.now z))) ∧
      (x.isPending = false → e = .applied (.ok (.before x.status))))
    (hbegun : s.came? t.task = none) : Race rs id (s.takeWhole t) := by
  cases h with
  | undecided x hx hp h =>
    refine .undecided x (hfind.trans hx) hp fun i o e hi hid he => ?_
    by_cases ht : t.task = i
    · subst ht
      exact (hnew o e x hi hid he hx).1 hp
    · rw [came?_takeWhole_of_ne ht] at he
      exact h i o e hi hid he
  | won i o y hy hp hi hid hstatus hcame h =>
    have hne : t.task ≠ i := by
      rintro rfl
      rw [hbegun] at hcame
      cases hcame
    refine .won i o y (hfind.trans hy) hp hi hid hstatus
      ((came?_takeWhole_of_ne hne).trans hcame) fun j o' e hj hrj hid' he => ?_
    by_cases ht : t.task = j
    · subst ht
      obtain rfl := (hnew o' e y hrj hid' he hy).2 hp
      exact ⟨fun _ => rfl, fun z hz => by cases hz⟩
    · rw [came?_takeWhole_of_ne ht] at he
      exact h j o' e hj hrj hid' he

/-- A serial session of errands: each task is through, or at its start. -/
def Serves (rs : List Errand) (s : Session) : Prop :=
  ∀ i : Nat, Option.Rel Errand.IsWhole rs[i]? s.tasks[i]?

lemma Race.takeWhole_apply {o : Outcome} (h : Race rs id s) (hf : t.fault = none)
    (hr : rs[t.task]? = some (.apply o))
    (hx : s.tasks[t.task]? = some ⟨.apply reportedScore o, (Duty.apply reportedScore o).work⟩) :
    Race rs id (s.takeWhole t) := by
  have hbegun : s.came? t.task = none := by
    unfold came?
    rw [hx]
    rfl
  have hcame := came?_takeWhole_self hx
  rcases ApplyPlace.seen_cases o (s.store.find? o.submissionId) with
    ⟨r, hseen⟩ | ⟨x, hfound, hp, ho, -⟩
  · -- the first look ends the errand, so nothing is written
    have hwhole := whole_of_seen reportedScore hf hseen
    refine h.frame (by rw [takeWhole_of_some hx, hwhole]) (fun o' e x hr' hid he hfind => ?_) hbegun
    rw [hr] at hr'
    cases hr'
    rw [hcame, hwhole] at he
    cases he
    rw [hid, hfind] at hseen
    refine ⟨fun hp => ⟨?_, fun z hz => ?_⟩, fun hp => ?_⟩
    · by_contra ho
      rw [ApplyPlace.seen_of_pending hp (by simpa using ho)] at hseen
      cases hseen
    · cases hz
      exact ApplyPlace.ne_now_of_seen hseen z rfl
    · rw [ApplyPlace.seen_of_not_pending fun y hy => by cases hy; exact hp] at hseen
      cases hseen
      rfl
  · -- the verdict is written, and wins the race if it is for its submission
    have hwhole := whole_of_isPending reportedScore hf hfound hp ho rfl
    generalize hv : Verdict.ofOutcome reportedScore o (s.store.problems.find? x.problemId) = v
      at hwhole
    have hxid : x.id = o.submissionId := Store.id_of_row? (Store.find?_eq_some.1 hfound).1
    by_cases hid : o.submissionId = id
    · subst hid
      cases h with
      | won i o' y hy hpy =>
        rw [hfound] at hy
        cases hy
        rw [hp] at hpy
        cases hpy
      | undecided x' hx' hp' h =>
        have hfind : (s.takeWhole t).store.find? o.submissionId = some (x.judged v t.now) := by
          rw [takeWhole_of_some hx, hwhole, ← hxid]
          exact Store.find?_settle_self _ (Store.find?_eq_some.1 hfound).2
        rw [hwhole] at hcame
        refine .won t.task o _ hfind ?_ hr rfl ?_ hcame fun j o' e hj hrj hid' he => ?_
        · exact Fate.isPending_judged (by rw [← hv]; exact ho) t.now
        · rw [← hv]; rfl
        · rw [came?_takeWhole_of_ne (Ne.symm hj)] at he
          obtain ⟨ho', hnow⟩ := h j o' e hrj hid' he
          refine ⟨fun hfinal => ?_, hnow⟩
          rw [ho'] at hfinal
          cases hfinal
    · have hfind : (s.takeWhole t).store.find? id = s.store.find? id := by
        rw [takeWhole_of_some hx, hwhole]
        refine Store.find?_settle_of_ne _ _ ?_
        show id ≠ x.id
        rw [hxid]
        exact Ne.symm hid
      refine h.frame hfind (fun o' e x hr' hid' => ?_) hbegun
      rw [hr] at hr'
      cases hr'
      exact absurd hid' hid

lemma Race.takeWhole_discard {j : SubmissionId} (h : Race rs id s) (hf : t.fault = none)
    (hr : rs[t.task]? = some (.discard j))
    (hx : s.tasks[t.task]? = some ⟨.discard j, (Duty.discard j).work⟩)
    (hd : j = id → (s.takeWhole t).came? t.task ≠ some (.discarded (.ok true))) :
    Race rs id (s.takeWhole t) := by
  have hbegun : s.came? t.task = none := by
    unfold came?
    rw [hx]
    rfl
  have hfind : (s.takeWhole t).store.find? id = s.store.find? id := by
    rw [takeWhole_of_some hx, whole_discard hf]
    by_cases hj : j = id
    · subst hj
      have hd := hd rfl
      rw [came?_takeWhole_self hx, whole_discard hf] at hd
      rcases s.store.discard_cases j with ⟨x, -, -, hdiscard⟩ | hdiscard
      · rw [hdiscard] at hd
        exact absurd rfl hd
      · rw [hdiscard]
    · exact Store.find?_discard_of_ne _ _ (Ne.symm hj)
  refine h.frame hfind (fun o' e x hr' => ?_) hbegun
  rw [hr] at hr'
  cases hr'

theorem Race.takeWhole (h : Race rs id s) (hs : Serves rs s) (hf : t.fault = none)
    (hd : ∀ i, rs[i]? = some (.discard id) →
      (s.takeWhole t).came? i ≠ some (.discarded (.ok true))) : Race rs id (s.takeWhole t) := by
  have hst := hs t.task
  generalize hr : rs[t.task]? = r at hst
  generalize hx : s.tasks[t.task]? = x at hst
  cases hst with
  | none => rw [takeWhole_of_none hx]; exact h
  | @some r x hst =>
    obtain ⟨duty, rest⟩ := x
    obtain ⟨hduty, hrest⟩ := hst
    obtain rfl : duty = r.duty := hduty
    rcases hrest with hrest | ⟨e, hrest⟩
    · obtain rfl : rest = r.duty.work := hrest
      cases r with
      | apply o => exact h.takeWhole_apply hf hr hx
      | discard j =>
        exact h.takeWhole_discard hf hr hx fun hj => hd t.task (by rw [hr, hj])
    · obtain rfl : rest = .done e := hrest
      rw [takeWhole_of_done hx]
      exact h

lemma Serves.takeWhole (hs : Serves rs s) : Serves rs (s.takeWhole t) := by
  intro i
  by_cases ht : t.task = i
  · subst ht
    have hst := hs t.task
    generalize rs[t.task]? = r at hst
    generalize hx : s.tasks[t.task]? = x at hst
    cases hst with
    | none => rw [takeWhole_of_none hx, hx]; exact .none
    | some hst =>
      rw [takeWhole_of_some hx, List.getElem?_set_self (List.getElem?_eq_some_iff.1 hx).1]
      exact .some ⟨hst.1, .inr ⟨_, rfl⟩⟩
  · rw [tasks_takeWhole_of_ne ht]
    exact hs i

lemma Serves.afterWhole (hs : Serves rs s) (ts : List Turn) : Serves rs (s.afterWhole ts) := by
  induction ts generalizing s with
  | nil => exact hs
  | cons t ts ih => exact ih hs.takeWhole

/-- Where all tasks are through, each errand came to something. -/
lemma Serves.came? (hs : Serves rs s) (hend : ∀ x ∈ s.tasks, ∃ e, x.rest = .done e) {i : Nat}
    {r : Errand} (hr : rs[i]? = some r) : ∃ e, s.came? i = some e := by
  have hst := hs i
  rw [hr] at hst
  generalize hx : s.tasks[i]? = x at hst
  cases hst with
  | @some r x hst =>
    obtain ⟨e, he⟩ := hend x (List.mem_of_getElem? hx)
    refine ⟨e, ?_⟩
    unfold Session.came? Task.ended?
    rw [hx, Option.bind_some, he]

theorem Race.afterWhole {ts : List Turn} (h : Race rs id s) (hs : Serves rs s)
    (hf : ∀ t ∈ ts, t.fault = none)
    (hd : ∀ i, rs[i]? = some (.discard id) →
      (s.afterWhole ts).came? i ≠ some (.discarded (.ok true))) : Race rs id (s.afterWhole ts) := by
  induction ts generalizing s with
  | nil => exact h
  | cons t ts ih =>
    obtain ⟨hft, hfs⟩ := List.forall_mem_cons.1 hf
    refine ih (h.takeWhole hs hft fun i hi hcame => ?_) hs.takeWhole hfs hd
    -- what the discard came to in this turn is what it came to at the end
    refine hd i hi ?_
    unfold came? at hcame ⊢
    obtain ⟨⟨d, w⟩, hx, hw⟩ := Option.bind_eq_some_iff.1 hcame
    cases w with
    | ask op next => cases hw
    | done e =>
      cases hw
      rw [afterWhole_cons, tasks_afterWhole_of_done hx]
      rfl

end Session

end Arbiter
