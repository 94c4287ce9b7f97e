import Arbiter.Proofs.Judging.ApplyCourse
import Arbiter.Proofs.Store.Deeds

/-!
Outcomes that come late, while others are at work on the store. An outcome concerns one submission
(`asks_concerning`): however its calls fall between the deeds of others, what is stored under other
ids is as if it had not come, and what is stored under its id goes back to what it was meant for
(`attend_spares`). If that was discarded, nothing is found and nothing changes (`attend_of_gone`).
As ids are never used again, no outcome comes to a submission that it was not meant for
(`ids_never_reused`).
-/

namespace Arbiter

/-- What happens while a program is at work on a store: a step of it, or a deed of others. -/
inductive Beat where
  | own (now : Instant)
  | other (d : Deed)

namespace Beat

def isOwn : Beat → Bool
  | own _ => true
  | other _ => false

/-- The deeds of others, first to last. -/
def deeds : List Beat → List Deed
  | [] => []
  | own _ :: bs => deeds bs
  | other d :: bs => d :: deeds bs

end Beat

namespace Program

variable {α : Type}

/-- What is left of a program, and the store, after some beats. -/
def attend : Program StoreInterface α → Store → List Beat → Program StoreInterface α × Store
  | p, s, [] => (p, s)
  | p, s, .other d :: bs => attend p (s.doing d) bs
  | done a, s, .own _ :: bs => attend (done a) s bs
  | ask c next, s, .own now :: bs => attend (next (s.run now c).1) (s.run now c).2 bs

lemma attend_own (c : StoreCall) (next : Except Failure c.Result → Program StoreInterface α)
    (s : Store) (now : Instant) (bs : List Beat) :
    (ask (I := StoreInterface) c next).attend s (.own now :: bs) =
      (next (s.run now c).1).attend (s.run now c).2 bs := rfl

lemma attend_done (a : α) (s : Store) (bs : List Beat) :
    (done a).attend s bs = (done a, s.did (Beat.deeds bs)) := by
  induction bs generalizing s with
  | nil => rfl
  | cons b bs ih =>
    cases b with
    | own now => exact ih s
    | other d => exact ih (s.doing d)

end Program

/-! ### What an outcome concerns -/

/-- The call looks something up, or writes a verdict into the submission of an id. -/
def StoreCall.Concerns (id : SubmissionId) (c : StoreCall) : Prop :=
  c.IsReading ∨ ∃ v, c = .complete id v

lemma asks_concerning (scoring : Scoring) (o : Outcome) :
    (apply scoring o).run.Asks (StoreCall.Concerns o.submissionId) := by
  refine (keeps_apply scoring o).asks fun p c h => ?_
  cases p with
  | arriving | outrun =>
    rw [show c = _ from h]
    exact .inl trivial
  | found x =>
    rw [show c = _ from h]
    exact .inl trivial
  | informed x p => exact .inr ⟨_, h.1⟩
  | ended r => exact h.elim

namespace Store

variable {s t : Store} {id : SubmissionId}

/-- The stores are the same under all ids but one, and give out the same ids. -/
structure SameApart (id : SubmissionId) (s t : Store) : Prop where
  lastId : s.lastId = t.lastId
  row : ∀ j, j ≠ id → s.row? j = t.row? j

lemma SameApart.doing (h : SameApart id s t) (d : Deed) :
    SameApart id (s.doing d) (t.doing d) := by
  refine ⟨?_, fun j hj => ?_⟩
  · rw [lastId_doing, lastId_doing, h.lastId]
  · rw [row?_doing, row?_doing, h.lastId, h.row j hj]

/-- A call that concerns an id does nothing to others. -/
lemma sameApart_run (now : Instant) {c : StoreCall} (hc : c.Concerns id) (s : Store) :
    SameApart id (s.run now c).2 s := by
  rcases hc with hc | ⟨v, rfl⟩
  · rw [run_of_isReading s now hc]
    exact ⟨rfl, fun _ _ => rfl⟩
  · exact ⟨s.complete_lastId now id v, fun j hj => (s.row?_complete now id v j).trans (if_neg hj)⟩

lemma SameApart.trans {u : Store} (h : SameApart id s t) (h' : SameApart id t u) :
    SameApart id s u :=
  ⟨h.lastId.trans h'.lastId, fun j hj => (h.row j hj).trans (h'.row j hj)⟩

lemma SameApart.hasIds (h : SameApart id s t) (hi : t.HasIds) : s.HasIds := by
  unfold HasIds
  rw [h.lastId]
  exact hi

end Store

section

open Store

variable {s t : Store} {id : SubmissionId} {bs : List Beat}

/-- **What a program that concerns one id does among others.** The store is as it would be without
the program, but for what is stored under that id, and that goes back to what was there before. -/
theorem attend_spares {α : Type} {p : Program StoreInterface α}
    (hp : p.Asks (StoreCall.Concerns id)) (h : SameApart id s t) {r : Option Submission}
    (hback : GoesBack r id s) (hi : t.Lasts (Beat.deeds bs))
    (hds : ∀ d ∈ Beat.deeds bs, d.spares id = true) :
    SameApart id (p.attend s bs).2 (t.did (Beat.deeds bs)) ∧ GoesBack r id (p.attend s bs).2 := by
  -- `s` is the store with the program at work on it, and `t` the store without
  induction bs generalizing p s t with
  | nil => exact ⟨h, hback⟩
  | cons b bs ih =>
    cases b with
    | other d =>
      obtain ⟨hd, hds⟩ := List.forall_mem_cons.1 hds
      exact ih hp (h.doing d) (hback.doing (h.hasIds hi.1) hd) hi.2 hds
    | own now =>
      cases p with
      | done a => exact ih hp h hback hi hds
      | ask c next =>
        have hback' : GoesBack r id (s.run now c).2 :=
          hback.doing (d := .call now c) (h.hasIds hi.head) rfl
        exact ih (hp.2 _) ((sameApart_run now hp.1 s).trans h) hback' hi hds

theorem attend_of_gone (scoring : Scoring) {o : Outcome} (h : GoesBack none o.submissionId s)
    (hi : s.Lasts (Beat.deeds bs)) (hds : ∀ d ∈ Beat.deeds bs, d.spares o.submissionId = true) :
    (apply scoring o).run.attend s bs =
      (if bs.any Beat.isOwn then .done (.error (.notFound o.submissionId))
        else (apply scoring o).run, s.did (Beat.deeds bs)) := by
  induction bs generalizing s with
  | nil => rfl
  | cons b bs ih =>
    cases b with
    | other d =>
      obtain ⟨hd, hds⟩ := List.forall_mem_cons.1 hds
      exact ih (h.doing hi.1 hd) hi.2 hds
    | own now =>
      rw [run_apply, Program.attend_own, (lacks_of_row? h.eq_none).find]
      exact Program.attend_done _ s bs

end

namespace Store

/-- In a run, no id is used for two submissions, but for what is put in as it is. -/
structure NeverReuses (s : Store) (ds : List Deed) : Prop where
  /-- New submissions come under fresh ids. -/
  fresh : ∀ before now d rest, ds = before ++ .call now (.create d) :: rest →
    ∃ x, s.Fresh before now d x
  /-- What was discarded and is not put in again is not found any more, and an outcome for it comes
  to nothing, whenever it comes and however its steps fall between the deeds that are left. -/
  gone : ∀ before now id later rest, ds = before ++ .call now (.discard id) :: (later ++ rest) →
    ((s.did before).discard id).1 = true → (∀ d ∈ later ++ rest, d.spares id = true) →
    ∀ t, t = s.did (before ++ .call now (.discard id) :: later) →
      t.Lacks id ∧ ∀ scoring o beats, o.submissionId = id → Beat.deeds beats = rest →
        (apply scoring o).run.attend t beats =
          (if beats.any Beat.isOwn then .done (.error (.notFound id))
            else (apply scoring o).run, s.did ds)
  /-- An outcome for a submission that is not put in again comes to what goes back to it, and to
  nothing else, whenever it comes and however its steps fall between the deeds that are left. -/
  reach : ∀ before x later rest, ds = before ++ (later ++ rest) →
    (s.did before).row? x.id = some x → (∀ d ∈ later ++ rest, d.spares x.id = true) →
    ∀ scoring o beats, o.submissionId = x.id → Beat.deeds beats = rest →
    ∀ t, t = ((apply scoring o).run.attend (s.did (before ++ later)) beats).2 →
      (∀ y, t.row? x.id = some y → y.SameOrigin x) ∧ ∀ j, j ≠ x.id → t.row? j = (s.did ds).row? j

/-- **Ids are never used again.** -/
theorem ids_never_reused {s : Store} (hs : s.Numbered) {ds : List Deed} (hi : s.Lasts ds) :
    s.NeverReuses ds where
  fresh before now d rest := by
    rintro rfl
    exact ⟨_, fresh_of_create hs (lasts_append.1 hi).1 now d⟩
  gone before now id later rest := by
    rintro rfl hdiscard hspares t ht
    rw [did_append] at ht
    obtain ⟨hbefore, -, hlaterRest⟩ := lasts_append.1 hi
    obtain ⟨hlater, hrest⟩ := lasts_append.1 hlaterRest
    obtain ⟨hspares, hspares'⟩ := List.forall_mem_append.1 hspares
    have hgone : GoesBack none id t := by
      rw [ht]
      exact (goesBack_discard (hs.did hbefore) hdiscard).did hlater hspares
    refine ⟨lacks_of_row? hgone.eq_none, ?_⟩
    rintro scoring o beats rfl rfl
    -- the deeds up to where the late apply begins lead to `t`
    have hall : s.did (before ++ .call now (.discard o.submissionId) ::
        (later ++ Beat.deeds beats)) = t.did (Beat.deeds beats) := by
      rw [did_append, did_cons, did_append, ht, did_cons]
    rw [hall]
    exact attend_of_gone scoring hgone (ht ▸ hrest) hspares'
  reach before x later rest := by
    rintro rfl hx hspares scoring o beats ho rfl t rfl
    obtain ⟨hbefore, hlaterRest⟩ := lasts_append.1 hi
    obtain ⟨hlater, hrest⟩ := lasts_append.1 hlaterRest
    obtain ⟨hspares, hspares'⟩ := List.forall_mem_append.1 hspares
    have hback : GoesBack (some x) x.id (s.did before) := by
      rw [← hx]
      exact goesBack_self ((hs.did hbefore).le_of_row? hx)
    have hasks := asks_concerning scoring o
    rw [ho] at hasks
    obtain ⟨hsame, horigin⟩ := attend_spares hasks ⟨rfl, fun _ _ => rfl⟩
      (hback.did hlater hspares) hrest hspares'
    rw [did_append, ← List.append_assoc, did_append s (before ++ later), did_append]
    refine ⟨fun y hy => ?_, hsame.row⟩
    obtain ⟨_, hsome, hyx⟩ := horigin.origin y hy
    cases hsome
    exact hyx

/-- A new submission is discarded, and another one comes from another user, above one that was put
in under a negative id. -/
def rolledBack : List Deed :=
  [.insertSubmission (.ofDraft (-5) ⟨0, 0⟩ ⟨10, 1, "lean", "x"⟩),
    .call ⟨1, 0⟩ (.create ⟨10, 1, "lean", "y"⟩), .call ⟨2, 0⟩ (.discard 1),
    .call ⟨3, 0⟩ (.create ⟨10, 2, "lean", "z"⟩)]

theorem ids_never_reused_rolledBack :
    (∃ x, empty.Fresh (rolledBack.take 3) ⟨3, 0⟩ ⟨10, 2, "lean", "z"⟩ x ∧ x.id = 2) ∧
    (apply reportedScore Session.firstAccepted).run.attend (empty.did (rolledBack.take 3))
      [.other (.call ⟨3, 0⟩ (.create ⟨10, 2, "lean", "z"⟩)), .own ⟨4, 0⟩] =
      (.done (.error (.notFound 1)), empty.did rolledBack) := by
  have h : empty.NeverReuses rolledBack := ids_never_reused numbered_empty (by decide)
  constructor
  · obtain ⟨x, hx⟩ := h.fresh (rolledBack.take 3) ⟨3, 0⟩ ⟨10, 2, "lean", "z"⟩ [] rfl
    have hid : x = _ := (Except.ok.inj (congrArg Prod.fst hx.answer)).symm
    exact ⟨x, hx, by rw [hid]; rfl⟩
  · have hgone := h.gone (rolledBack.take 2) ⟨2, 0⟩ 1 [] [.call ⟨3, 0⟩ (.create _)] rfl rfl
      (by decide) _ rfl
    exact hgone.2 reportedScore Session.firstAccepted
      [.other (.call ⟨3, 0⟩ (.create ⟨10, 2, "lean", "z"⟩)), .own ⟨4, 0⟩] rfl rfl

end Store

end Arbiter
