import Arbiter.Proofs.Store.Effect
import Arbiter.Proofs.Table.Map
import Mathlib.Tactic.Lemma

/-!
Masks: functions that replace something of submissions, but nothing that a change of the store looks
at (`Mask`). So every change comes through a mask (`put_masked`, `drop_masked`, `settle_masked`,
`discard_masked`, `countSubmit_masked`, `create_masked`), and of two stores that are the same behind
it, verdicts that are the same behind it make two that are the same again (`complete_masked`). What
queries look at is not kept by every mask.
-/

namespace Arbiter

/-- Something of submissions is replaced, and nothing that a change of the store looks at. -/
structure Mask where
  hide : Submission → Submission
  id_hide : ∀ x, (hide x).id = x.id
  problemId_hide : ∀ x, (hide x).problemId = x.problemId
  status_hide : ∀ x, (hide x).status = x.status
  isDeleted_hide : ∀ x, (hide x).isDeleted = x.isDeleted

namespace Mask

variable (m : Mask) (x : Submission)

lemma isPending_hide : (m.hide x).isPending = x.isPending := by
  unfold Submission.isPending
  rw [status_hide]

lemma isPending_of_hide_eq {y : Submission} (h : m.hide x = m.hide y) :
    x.isPending = y.isPending := by
  rw [← m.isPending_hide x, h, isPending_hide]

lemma problemId_of_hide_eq {y : Submission} (h : m.hide x = m.hide y) :
    x.problemId = y.problemId := by
  rw [← m.problemId_hide x, h, problemId_hide]

end Mask

namespace Store

variable (m : Mask) (s : Store)

/-- The store with every submission behind the mask. -/
def masked (m : Mask) (s : Store) : Store :=
  { s with submissions := s.submissions.mapRows m.hide m.id_hide }

lemma problems_masked : (s.masked m).problems = s.problems := rfl

lemma row?_masked (id : SubmissionId) : (s.masked m).row? id = (s.row? id).map m.hide :=
  Table.find?_mapRows m.id_hide s.submissions id

lemma find?_masked (id : SubmissionId) : (s.masked m).find? id = (s.find? id).map m.hide := by
  show ((s.masked m).row? id).filter _ = ((s.row? id).filter _).map m.hide
  rw [row?_masked, Option.filter_map]
  simp only [Function.comp_def, Mask.isDeleted_hide]

lemma put_masked (x : Submission) : (s.put x).masked m = (s.masked m).put (m.hide x) := by
  unfold put masked
  rw [Table.mapRows_insert]

lemma drop_masked (id : SubmissionId) : (s.drop id).masked m = (s.masked m).drop id := by
  unfold drop masked
  rw [Table.mapRows_erase]

lemma countAccepted_masked (p : ProblemId) :
    (s.countAccepted p).masked m = (s.masked m).countAccepted p := by
  unfold countAccepted
  rw [problems_masked]
  split <;> rfl

lemma settle_masked (x : Submission) :
    (s.settle x).masked m = (s.masked m).settle (m.hide x) := by
  unfold settle
  rw [Mask.status_hide, Mask.problemId_hide]
  split
  · rw [countAccepted_masked, put_masked]
  · rw [put_masked]

lemma discard_masked (id : SubmissionId) :
    (s.masked m).discard id = ((s.discard id).1, (s.discard id).2.masked m) := by
  have hp : ((s.masked m).submissions.find? id).any (·.isPending) =
      (s.submissions.find? id).any (·.isPending) := by
    show ((s.masked m).row? id).any _ = (s.row? id).any _
    rw [row?_masked, Option.any_map]
    simp only [Mask.isPending_hide]
  unfold discard
  rw [hp]
  split
  · exact congrArg (Prod.mk true) (s.drop_masked m id).symm
  · rfl

lemma countSubmit_masked (p : ProblemId) :
    (s.masked m).countSubmit p = (s.countSubmit p).map (masked m) := by
  unfold countSubmit
  rw [problems_masked, Option.map_map]
  rfl

lemma create_masked (now : Instant) (d : Draft) :
    (s.create now d).2.masked m =
      { s.masked m with
        submissions := (s.masked m).submissions.insert
          (m.hide (.ofDraft ((s.masked m).lastId + 1) now d))
        lastId := (s.masked m).lastId + 1 } := by
  unfold create masked
  dsimp only
  rw [Table.mapRows_insert]
  rfl

/-! ### Stores that are the same behind a mask -/

variable {m} {s t : Store}

lemma exists_find?_of_masked (h : s.masked m = t.masked m) {id : SubmissionId} {x : Submission}
    (hx : s.find? id = some x) : ∃ y, t.find? id = some y ∧ m.hide x = m.hide y := by
  have hy := t.find?_masked m id
  rw [← h, find?_masked, hx, Option.map_some] at hy
  obtain ⟨y, hy, hxy⟩ := Option.map_eq_some_iff.1 hy.symm
  exact ⟨y, hy, hxy.symm⟩

lemma not_isPending_of_masked (h : s.masked m = t.masked m) {id : SubmissionId}
    (hn : ∀ x, s.find? id = some x → x.isPending = false) :
    ∀ y, t.find? id = some y → y.isPending = false := by
  intro y hy
  obtain ⟨x, hx, hyx⟩ := exists_find?_of_masked h.symm hy
  rw [m.isPending_of_hide_eq y hyx, hn x hx]

/-- Of two verdicts that look the same once they are written, it does not show which one was. -/
lemma complete_masked (h : s.masked m = t.masked m) {id : SubmissionId} {now now' : Instant}
    {a b : Verdict} (hv : ∀ x y, s.find? id = some x → m.hide x = m.hide y →
      m.hide (x.judged a now) = m.hide (y.judged b now')) :
    (s.complete now id a).1.map m.hide = (t.complete now' id b).1.map m.hide ∧
      (s.complete now id a).2.masked m = (t.complete now' id b).2.masked m := by
  rcases pending_or_not (s.find? id) with ⟨x, hx, hp⟩ | hn
  · obtain ⟨y, hy, hxy⟩ := exists_find?_of_masked h hx
    have hxy' := hv x y hx hxy
    rw [complete_of_isPending hx hp, complete_of_isPending hy (m.isPending_of_hide_eq x hxy ▸ hp)]
    refine ⟨congrArg some hxy', ?_⟩
    rw [settle_masked, settle_masked, h, hxy']
  · rw [complete_of_not_isPending hn, complete_of_not_isPending (not_isPending_of_masked h hn)]
    exact ⟨rfl, h⟩

end Store

end Arbiter
