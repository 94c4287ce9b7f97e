import Arbiter.Proofs.Session.Fair

/-!
Final submissions are kept. No call changes what is final, so it stays as it is in every run but
one that stores a new submission in its place (`row?_after_of_spared`). New submissions take no
place in a store that was filled from the empty one, until the ids run out (`Sound.spares`).
-/

namespace Arbiter

namespace Session

/-- In a run, no new submission takes the place of one with the property. -/
def Spares (P : Submission → Prop) : Session → List Move → Prop
  | _, [] => True
  | s, m :: ms =>
    (∀ x ∈ (s.event? m).bind Event.created?, ∀ y ∈ s.store.row? x.id, ¬ P y) ∧
      Spares P (s.step m) ms

variable {s : Session} {m : Move} {x : Option Submission} {t : Store} {id : SubmissionId}
  {y : Submission}

lemma Stir.row?_of_final (h : s.Stir m x t) (hnew : ∀ z ∈ x, z.id ≠ id)
    (hy : s.store.row? id = some y) (hp : y.isPending = false) : t.row? id = some y := by
  cases h with
  | effect h =>
    have hfate := h.fate id
    rw [hy] at hfate
    exact hfate.eq_of_isFinal hp
  | created now d =>
    have hne : id ≠ s.store.lastId + 1 := fun hid => hnew _ rfl hid.symm
    rw [Store.row?_create, if_neg hne, hy]
  | user | problem => exact hy

/-- **What is final stays, if it is spared.** -/
theorem row?_after_of_spared (hs : s.IsFair) {P : Submission → Prop} {ms : List Move}
    (hspares : s.Spares P ms) (hy : s.store.row? id = some y) (hp : y.isPending = false)
    (hP : P y) : (s.after ms).store.row? id = some y := by
  induction ms generalizing s with
  | nil => exact hy
  | cons m ms ih =>
    obtain ⟨hm, hms⟩ := hspares
    refine ih (hs.step m) hms ((hs.stir m).row?_of_final (fun z hz => ?_) hy hp)
    rintro rfl
    exact hm z hz y hy hP

lemma spares_append {P : Submission → Prop} {ms ns : List Move} :
    s.Spares P (ms ++ ns) ↔ s.Spares P ms ∧ (s.after ms).Spares P ns := by
  induction ms generalizing s with
  | nil => exact ⟨fun h => ⟨trivial, h⟩, fun h => h.2⟩
  | cons m ms ih =>
    show _ ∧ (s.step m).Spares P (ms ++ ns) ↔ (_ ∧ _) ∧ _
    rw [ih, and_assoc]
    rfl

lemma Stir.id_eq {z : Submission} (h : s.Stir m (some z) t) : z.id = s.store.lastId + 1 := by
  cases h
  rfl

/-- **Until the ids run out, everything is spared.** -/
theorem Sound.spares (hs : s.Sound) (P : Submission → Prop) {ms : List Move}
    (hi : s.Throughout Store.HasIds ms) : s.Spares P ms := by
  induction ms generalizing s with
  | nil => trivial
  | cons m ms ih =>
    refine ⟨fun z hz y hy => ?_, ih (hs.step hi.1 m) hi.2⟩
    have hstir := hs.fair.stir m
    have hunused := hs.numbered _ (Store.lastId_lt_next hi.1)
    rw [hz] at hstir
    rw [hstir.id_eq, hunused] at hy
    cases hy

end Session

end Arbiter
