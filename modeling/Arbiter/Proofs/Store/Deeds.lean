import Arbiter.Proofs.Session.Lifecycle
import Arbiter.Proofs.Store.Deleted
import Arbiter.Proofs.Store.Profile

/-!
Runs of a store: calls, in whatever order and with whatever verdicts, and what is put in between
them. What a deed does to the last id that was given out and to what is stored under an id depends
on these two alone (`lastId_doing`, `row?_doing`). As long as ids last, a new submission comes under
an id above all that were ever stored under (`fresh_of_create`); and what is stored under an id that
was given out goes back to what was stored there before (`GoesBack.did`), so what is gone stays gone
until it is put in again.
-/

namespace Arbiter

/-- A call to a store at some time, or something that is put into it as it is. -/
inductive Deed where
  | call (now : Instant) (c : StoreCall)
  | insertUser (u : User)
  | insertProblem (p : Problem)
  | insertSubmission (x : Submission)

namespace Deed

/-- The deed does not put in a submission with the id. -/
def spares (id : SubmissionId) : Deed → Bool
  | insertSubmission x => x.id != id
  | _ => true

/-- The last id that was given out, after a deed. -/
def lastId (last : SubmissionId) : Deed → SubmissionId
  | call _ (.create _) => last + 1
  | insertSubmission x => max last x.id
  | _ => last

/-- What is stored under an id after a deed, where `r` was. -/
def row? (last id : SubmissionId) (r : Option Submission) : Deed → Option Submission
  | call now (.create d) => if id = last + 1 then some (.ofDraft (last + 1) now d) else r
  | call _ (.discard j) => if id = j then r.filter fun x => !x.isPending else r
  | call now (.complete j v) =>
    if id = j then r.map fun x => if x.isPending && !x.isDeleted then x.judged v now else x else r
  | insertSubmission x => if id = x.id then some x else r
  | _ => r

end Deed

namespace Store

/-- The store after a deed. -/
def doing (s : Store) : Deed → Store
  | .call now c => (s.run now c).2
  | .insertUser u => s.insertUser u
  | .insertProblem p => s.insertProblem p
  | .insertSubmission x => s.insertSubmission x

/-- The store after some deeds. -/
def did (s : Store) (ds : List Deed) : Store := ds.foldl doing s

/-- There are ids left at every moment of a run, the first and the last included. -/
def Lasts : Store → List Deed → Prop
  | s, [] => s.HasIds
  | s, d :: ds => s.HasIds ∧ Lasts (s.doing d) ds

instance decidableLasts : ∀ (s : Store) (ds : List Deed), Decidable (s.Lasts ds)
  | s, [] => inferInstanceAs (Decidable s.HasIds)
  | s, d :: ds =>
    have := decidableLasts (s.doing d) ds
    inferInstanceAs (Decidable (s.HasIds ∧ Lasts (s.doing d) ds))

variable {s : Store} {d : Deed} {ds : List Deed} {id : SubmissionId}

@[simp] theorem did_cons (s : Store) (d : Deed) (ds : List Deed) :
    s.did (d :: ds) = (s.doing d).did ds := rfl

theorem did_append (s : Store) (ds es : List Deed) : s.did (ds ++ es) = (s.did ds).did es :=
  List.foldl_append

theorem Lasts.head (h : s.Lasts ds) : s.HasIds := by
  cases ds with
  | nil => exact h
  | cons d ds => exact h.1

theorem lasts_append {es : List Deed} :
    s.Lasts (ds ++ es) ↔ s.Lasts ds ∧ (s.did ds).Lasts es := by
  induction ds generalizing s with
  | nil => exact ⟨fun h => ⟨h.head, h⟩, fun h => h.2⟩
  | cons d ds ih =>
    show _ ∧ (s.doing d).Lasts (ds ++ es) ↔ (_ ∧ _) ∧ _
    rw [ih, and_assoc]
    rfl

theorem Lasts.did (h : s.Lasts ds) : (s.did ds).HasIds := by
  induction ds generalizing s with
  | nil => exact h
  | cons d ds ih => exact ih h.2

/-! ### What a deed does -/

lemma row?_discard (s : Store) (j id : SubmissionId) : (s.discard j).2.row? id =
    if id = j then (s.row? id).filter fun x => !x.isPending else s.row? id := by
  rcases pending_or_not (s.row? j) with ⟨x, hx, hp⟩ | hnone
  · rw [discard_of_isPending hx hp, row?_drop]
    split
    · subst id
      rw [hx, Option.filter_some, hp]
      rfl
    · rfl
  · rw [discard_of_not_isPending hnone]
    split
    · subst id
      rcases hx : s.row? j with _ | x
      · rfl
      · rw [Option.filter_some, hnone x hx]
        rfl
    · rfl

lemma row?_complete (s : Store) (now : Instant) (j : SubmissionId) (v : Verdict)
    (id : SubmissionId) : (s.complete now j v).2.row? id =
      if id = j then (s.row? id).map fun x =>
        if x.isPending && !x.isDeleted then x.judged v now else x else s.row? id := by
  rcases pending_or_not (s.find? j) with ⟨x, hx, hp⟩ | hnone
  · obtain ⟨hrow, hlive⟩ := find?_eq_some.1 hx
    obtain rfl := id_of_row? hrow
    rw [complete_of_isPending hx hp, row?_settle]
    show (if id = x.id then _ else _) = _
    split
    · subst id
      rw [hrow, Option.map_some, hp, hlive]
      rfl
    · rfl
  · rw [complete_of_not_isPending hnone]
    split
    · subst id
      rcases hrow : s.row? j with _ | x
      · rfl
      · rw [Option.map_some, if_neg]
        intro h
        obtain ⟨hp, hlive⟩ := Bool.and_eq_true_iff.1 h
        rw [hnone x (find?_eq_some.2 ⟨hrow, (Bool.not_eq_true' _).mp hlive⟩)] at hp
        cases hp
    · rfl

lemma complete_lastId (s : Store) (now : Instant) (j : SubmissionId) (v : Verdict) :
    (s.complete now j v).2.lastId = s.lastId := by
  rcases pending_or_not (s.find? j) with ⟨x, hx, hp⟩ | hnone
  · rw [complete_of_isPending hx hp, settle_lastId]
  · rw [complete_of_not_isPending hnone]

lemma run_countSubmit (s : Store) (now : Instant) (p : ProblemId) :
    (s.run now (.countSubmit p)).2.submissions = s.submissions ∧
      (s.run now (.countSubmit p)).2.lastId = s.lastId := by
  have hrun : (s.run now (.countSubmit p)).2 = (s.countSubmit p).getD s := by
    simp only [run]
    cases s.countSubmit p <;> rfl
  rw [hrun]
  unfold countSubmit
  cases s.problems.find? p <;> exact ⟨rfl, rfl⟩

theorem lastId_doing (s : Store) (d : Deed) : (s.doing d).lastId = d.lastId s.lastId := by
  cases d with
  | call now c =>
    cases c with
    | discard j => exact (s.effect_discard j).lastId_eq
    | complete j v => exact s.complete_lastId now j v
    | countSubmit p => exact (s.run_countSubmit now p).2
    | _ => rfl
  | insertUser | insertProblem | insertSubmission => rfl

theorem row?_doing (s : Store) (d : Deed) (id : SubmissionId) :
    (s.doing d).row? id = d.row? s.lastId id (s.row? id) := by
  cases d with
  | call now c =>
    cases c with
    | create d => exact s.row?_create now d id
    | discard j => exact s.row?_discard j id
    | complete j v => exact s.row?_complete now j v id
    | countSubmit p => exact congrArg (·.find? id) (s.run_countSubmit now p).1
    | _ => rfl
  | insertSubmission x => exact Table.find?_insert s.submissions x id
  | insertUser | insertProblem => rfl

/-! ### Ids -/

/-- Where ids are left, a deed takes none back. -/
lemma lastId_le_doing (hi : s.HasIds) (d : Deed) : s.lastId ≤ (s.doing d).lastId := by
  rw [lastId_doing]
  cases d with
  | call now c =>
    cases c with
    | create d => exact Int64.le_of_lt (lastId_lt_next hi)
    | _ => exact Int64.le_refl _
  | insertSubmission x =>
    show s.lastId ≤ if s.lastId ≤ x.id then x.id else s.lastId
    split
    · assumption
    · exact Int64.le_refl _
  | insertUser | insertProblem => exact Int64.le_refl _

lemma lastId_le_did (hi : s.Lasts ds) : s.lastId ≤ (s.did ds).lastId := by
  induction ds generalizing s with
  | nil => exact Int64.le_refl _
  | cons d ds ih => exact Int64.le_trans (lastId_le_doing hi.1 d) (ih hi.2)

/-- What is stored under an id that was given out goes back to what was stored there before. -/
lemma sameOrigin_of_doing (hi : s.HasIds) (hid : id ≤ s.lastId) (hd : d.spares id = true)
    {y : Submission} (hy : (s.doing d).row? id = some y) :
    ∃ x, s.row? id = some x ∧ y.SameOrigin x := by
  have hsame : s.row? id = some y → ∃ x, s.row? id = some x ∧ y.SameOrigin x := fun h =>
    ⟨y, h, .refl y⟩
  rw [row?_doing] at hy
  cases d with
  | call now c =>
    cases c with
    | create d =>
      -- the new id was not given out before
      have hne : id ≠ s.lastId + 1 := by
        rintro rfl
        exact Int64.lt_irrefl (Int64.lt_of_le_of_lt hid (lastId_lt_next hi))
      rw [Deed.row?, if_neg hne] at hy
      exact hsame hy
    | discard j =>
      unfold Deed.row? at hy
      dsimp only at hy
      split at hy
      · exact hsame (Option.filter_eq_some_iff.1 hy).1
      · exact hsame hy
    | complete j v =>
      unfold Deed.row? at hy
      dsimp only at hy
      split at hy
      · obtain ⟨x, hx, rfl⟩ := Option.map_eq_some_iff.1 hy
        refine ⟨x, hx, ?_⟩
        split
        · exact x.sameOrigin_judged v now
        · exact .refl x
      · exact hsame hy
    | _ => exact hsame hy
  | insertSubmission x =>
    have hne : id ≠ x.id := by
      rintro rfl
      simp [Deed.spares] at hd
    rw [Deed.row?, if_neg hne] at hy
    exact hsame hy
  | insertUser | insertProblem => exact hsame hy

theorem Numbered.doing (hs : s.Numbered) (hi : s.HasIds) (d : Deed) : (s.doing d).Numbered := by
  -- all but creates and what is put in leave the last id, and store nothing where nothing is
  have hother : (s.doing d).lastId = s.lastId → (∀ id, d.row? s.lastId id none = none) →
      (s.doing d).Numbered := by
    intro hlast hnone id hid
    rw [hlast] at hid
    rw [row?_doing, hs id hid, hnone]
  cases d with
  | call now c =>
    cases c with
    | create d => exact hs.create hi now d
    | discard | complete =>
      refine hother (lastId_doing ..) fun id => ?_
      unfold Deed.row?
      dsimp only
      split <;> rfl
    | _ => exact hother (lastId_doing ..) fun _ => rfl
  | insertSubmission x => exact hs.insertSubmission x
  | insertUser | insertProblem => exact hother rfl fun _ => rfl

theorem Numbered.did (hs : s.Numbered) (hi : s.Lasts ds) : (s.did ds).Numbered := by
  induction ds generalizing s with
  | nil => exact hs
  | cons d ds ih => exact ih (hs.doing hi.1 d) hi.2

/-- What was ever stored was stored under an id that is not above the last. -/
lemma le_lastId_of_earlier (hs : s.Numbered) (hi : s.Lasts ds) {earlier : List Deed}
    (h : earlier <+: ds) (hrow : ((s.did earlier).row? id).isSome = true) :
    id ≤ (s.did ds).lastId := by
  obtain ⟨rest, rfl⟩ := h
  obtain ⟨hearlier, hrest⟩ := lasts_append.1 hi
  obtain ⟨x, hx⟩ := Option.isSome_iff_exists.1 hrow
  rw [did_append]
  exact Int64.le_trans ((hs.did hearlier).le_of_row? hx) (lastId_le_did hrest)

/-! ### Origins -/

/-- The id is one that was given out, or is below such a one, and what is stored under it goes back
to `r`; if that is none, nothing is. -/
structure GoesBack (r : Option Submission) (id : SubmissionId) (s : Store) : Prop where
  le : id ≤ s.lastId
  origin : ∀ y, s.row? id = some y → ∃ x, r = some x ∧ y.SameOrigin x

lemma goesBack_self (hid : id ≤ s.lastId) : GoesBack (s.row? id) id s :=
  ⟨hid, fun y hy => ⟨y, hy, .refl y⟩⟩

lemma GoesBack.eq_none (h : GoesBack none id s) : s.row? id = none := by
  rcases hrow : s.row? id with _ | y
  · rfl
  · obtain ⟨x, hx, -⟩ := h.origin y hrow
    cases hx

theorem GoesBack.doing {r : Option Submission} (h : GoesBack r id s) (hi : s.HasIds)
    (hd : d.spares id = true) : GoesBack r id (s.doing d) := by
  refine ⟨Int64.le_trans h.le (lastId_le_doing hi d), fun z hz => ?_⟩
  obtain ⟨y, hy, hzy⟩ := sameOrigin_of_doing hi h.le hd hz
  obtain ⟨x, hx, hyx⟩ := h.origin y hy
  exact ⟨x, hx, hzy.trans hyx⟩

theorem GoesBack.did {r : Option Submission} (h : GoesBack r id s) (hi : s.Lasts ds)
    (hds : ∀ d ∈ ds, d.spares id = true) : GoesBack r id (s.did ds) := by
  induction ds generalizing s with
  | nil => exact h
  | cons d ds ih =>
    obtain ⟨hd, hds⟩ := List.forall_mem_cons.1 hds
    exact ih (h.doing hi.1 hd) hi.2 hds

/-! ### Creates and discards -/

/-- A new submission is stored under an id above all that were ever stored under, and in no other's
place. -/
structure Fresh (s : Store) (before : List Deed) (now : Instant) (d : Draft) (x : Submission) :
    Prop where
  answer : (s.did before).run now (.create d) = (.ok x, s.did (before ++ [.call now (.create d)]))
  above : ∀ earlier id, earlier <+: before → ((s.did earlier).row? id).isSome = true → id < x.id
  unused : (s.did before).row? x.id = none
  stored : ∀ id, (s.did (before ++ [.call now (.create d)])).row? id =
    if id = x.id then some x else (s.did before).row? id

theorem fresh_of_create (hs : s.Numbered) (hi : s.Lasts ds) (now : Instant) (d : Draft) :
    s.Fresh ds now d ((s.did ds).create now d).1 := by
  have hnext := lastId_lt_next hi.did
  refine ⟨?_, fun earlier id hearlier hrow => ?_, ?_, fun id => ?_⟩
  · rw [did_append]
    rfl
  · exact Int64.lt_of_le_of_lt (le_lastId_of_earlier hs hi hearlier hrow) hnext
  · exact hs.did hi _ hnext
  · rw [did_append]
    exact (s.did ds).row?_create now d id

lemma goesBack_discard (hs : s.Numbered) (h : (s.discard id).1 = true) :
    GoesBack none id (s.discard id).2 := by
  rcases s.discard_cases id with ⟨x, hx, -, hd⟩ | hd
  · rw [hd]
    refine ⟨hs.le_of_row? hx, fun y hy => ?_⟩
    rw [row?_drop, if_pos rfl] at hy
    cases hy
  · rw [hd] at h
    cases h

/-- Calls for something that is not stored come to nothing. -/
structure Lacks (s : Store) (id : SubmissionId) : Prop where
  find : s.Answers (.find id) none
  complete : ∀ v, s.Answers (.complete id v) none
  discard : s.Answers (.discard id) false

lemma lacks_of_row? (h : s.row? id = none) : s.Lacks id := by
  have hfind : s.find? id = none := congrArg (Option.filter _) h
  refine ⟨fun now => ?_, fun v now => ?_, fun now => ?_⟩
  · show (Except.ok (s.find? id), s) = _
    rw [hfind]
  · have hnone : ∀ x, s.find? id = some x → x.isPending = false := by
      intro x hx
      rw [hfind] at hx
      cases hx
    simp only [run, complete_of_not_isPending hnone]
  · have hnone : ∀ x, s.row? id = some x → x.isPending = false := by
      intro x hx
      rw [h] at hx
      cases hx
    simp only [run, discard_of_not_isPending hnone]

end Store

end Arbiter
