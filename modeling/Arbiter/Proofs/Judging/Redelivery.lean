import Arbiter.Proofs.Judging.AppliedStore
import Arbiter.Proofs.Judging.Terms
import Arbiter.Proofs.Table.Lookup

/-!
Outcomes that come twice, or late, or in another order. Of all outcomes for a submission the first
final one decides what is stored under its id (`row?_appliedAll`): no verdict changes the terms that
the next one takes from the problem. The counters of accepted submissions have grown by the number
of submissions that were accepted (`problem_appliedAll`), which the stored submissions tell. So two
lists of outcomes in which the same outcomes come first make one store, but for the times of the
verdicts (`first_final_decides`).
-/

namespace Arbiter

/-- The times of verdicts are hidden. -/
def Veil.undating : Veil where
  hide x := { x with updateTime := ⟨0, 0⟩ }
  bare_hide _ := rfl
  judged := by
    rintro ⟨⟩ ⟨⟩ v now h
    simp only [Submission.mk.injEq] at h
    simp only [Submission.judged, h]

/-- The first final outcome for a submission. -/
def firstFinal? (os : List (Instant × Outcome)) (id : SubmissionId) : Option Outcome :=
  (os.map (·.2)).find? fun o => o.submissionId == id && o.status.isFinal

lemma firstFinal?_append (os os' : List (Instant × Outcome)) (id : SubmissionId) :
    firstFinal? (os ++ os') id = (firstFinal? os id).or (firstFinal? os' id) := by
  unfold firstFinal?
  rw [List.map_append, List.find?_append]

lemma firstFinal?_cons (o : Instant × Outcome) (os : List (Instant × Outcome))
    (id : SubmissionId) : firstFinal? (o :: os) id = (firstFinal? [o] id).or (firstFinal? os id) :=
  firstFinal?_append [o] os id

lemma firstFinal?_singleton (o : Instant × Outcome) (id : SubmissionId) :
    firstFinal? [o] id =
      if o.2.submissionId = id ∧ o.2.status.isFinal = true then some o.2 else none := by
  unfold firstFinal?
  rw [List.map_cons, List.map_nil, List.find?_singleton]
  simp only [Bool.and_eq_true, beq_iff_eq]

lemma firstFinal?_eq_some {os : List (Instant × Outcome)} {id : SubmissionId} {o : Outcome}
    (h : firstFinal? os id = some o) : o.submissionId = id ∧ o.status.isFinal = true := by
  have ho := List.find?_some h
  simpa using ho

namespace Submission

variable {terms : ProblemId → Option Problem} {x : Submission}

/-- A verdict may be written: the submission is pending, and not deleted. -/
def isOpen (x : Submission) : Bool := x.isPending && !x.isDeleted

/-- The submission after the outcome that decides it, if there is one. -/
def decided (terms : ProblemId → Option Problem) (r : Option Outcome) (x : Submission) :
    Submission :=
  match r with
  | some o =>
    if x.isOpen then x.judged (Verdict.ofOutcome reportedScore o (terms x.problemId)) ⟨0, 0⟩ else x
  | none => x

lemma decided_of_isOpen (hx : x.isOpen = true) (o : Outcome) : x.decided terms (some o) =
    x.judged (Verdict.ofOutcome reportedScore o (terms x.problemId)) ⟨0, 0⟩ :=
  if_pos hx

lemma decided_of_not_isOpen (hx : x.isOpen = false) (r : Option Outcome) :
    x.decided terms r = x := by
  rcases r with _ | o
  · rfl
  · exact if_neg (by rw [hx]; exact Bool.false_ne_true)

/-- The first outcome decides, and no other does. -/
lemma decided_decided {r : Option Outcome} (hr : ∀ o ∈ r, o.status.isFinal = true)
    (r' : Option Outcome) : (x.decided terms r).decided terms r' = x.decided terms (r.or r') := by
  rcases r with _ | o
  · rfl
  cases hx : x.isOpen with
  | false => rw [decided_of_not_isOpen hx, decided_of_not_isOpen hx, decided_of_not_isOpen hx]
  | true =>
    rw [decided_of_isOpen hx, Option.some_or, decided_of_isOpen hx]
    apply decided_of_not_isOpen
    -- what has its verdict is not pending any more
    unfold isOpen
    rw [Fate.isPending_judged (hr o rfl), Bool.false_and]

end Submission

namespace Store

/-- The store without the times of verdicts. -/
def undated (s : Store) : Store := s.veiled .undating

variable {s : Store} (now : Instant) (o : Outcome)

lemma effect_applied (scoring : Scoring) (s : Store) : s.Effect (s.applied scoring now o) := by
  cases ho : o.status.isFinal with
  | false =>
    rw [applied_of_not_isFinal ho]
    exact .nothing
  | true =>
    rcases pending_or_not (s.find? o.submissionId) with ⟨x, hx, hp⟩ | hn
    · rw [applied_of_isPending hx hp ho]
      have hid : x.id = o.submissionId := id_of_row? (find?_eq_some.1 hx).1
      exact .judged (hid ▸ hx) hp _ ho now
    · rw [applied_of_not_isPending hn]
      exact .nothing

lemma termsOf_applied : (s.applied reportedScore now o).termsOf = s.termsOf :=
  (effect_applied now o reportedScore s).termsOf_eq

/-! ### What is stored under an id -/

lemma row?_undated (id : SubmissionId) :
    s.undated.row? id = (s.row? id).map Veil.undating.hide :=
  row?_veiled _ s id

lemma row?_settle_undated (x : Submission) (v : Verdict) (id : SubmissionId) :
    (s.settle (x.judged v now)).undated.row? id =
      if id = x.id then some ((Veil.undating.hide x).judged v ⟨0, 0⟩) else s.undated.row? id := by
  unfold undated
  rw [settle_veiled, row?_settle]
  rfl

lemma isOpen_undating (x : Submission) : (Veil.undating.hide x).isOpen = x.isOpen := rfl

lemma isOpen_of_isPending {id : SubmissionId} {x : Submission} (hx : s.find? id = some x)
    (hp : x.isPending = true) : (Veil.undating.hide x).isOpen = true := by
  rw [isOpen_undating]
  unfold Submission.isOpen
  rw [hp, (find?_eq_some.1 hx).2]
  rfl

lemma isOpen_of_not_isPending {id : SubmissionId} {x : Submission}
    (hn : ∀ x, s.find? id = some x → x.isPending = false) (hx : s.row? id = some x) :
    (Veil.undating.hide x).isOpen = false := by
  rw [isOpen_undating]
  unfold Submission.isOpen
  cases hdeleted : x.isDeleted with
  | true => exact Bool.and_false _
  | false => rw [hn x (find?_eq_some.2 ⟨hx, hdeleted⟩), Bool.false_and]

lemma map_decided_of_not_isPending (r : Option Outcome) {id : SubmissionId}
    (hn : ∀ x, s.find? id = some x → x.isPending = false) :
    (s.undated.row? id).map (·.decided s.termsOf r) = s.undated.row? id := by
  rw [row?_undated, Option.map_map]
  apply Option.map_congr
  intro x hx
  exact Submission.decided_of_not_isOpen (isOpen_of_not_isPending hn hx) r

lemma row?_applied_undated (id : SubmissionId) :
    (s.applied reportedScore now o).undated.row? id =
      (s.undated.row? id).map (·.decided s.termsOf (firstFinal? [(now, o)] id)) := by
  have hnone : (s.undated.row? id).map (·.decided s.termsOf none) = s.undated.row? id :=
    Option.map_id'
  rw [firstFinal?_singleton]
  by_cases ho : o.status.isFinal = true
  · rcases pending_or_not (s.find? o.submissionId) with ⟨x, hx, hp⟩ | hn
    · obtain ⟨hrow, -⟩ := find?_eq_some.1 hx
      have hid : x.id = o.submissionId := id_of_row? hrow
      rw [applied_of_isPending hx hp ho, row?_settle_undated]
      by_cases h : o.submissionId = id
      · subst h
        rw [if_pos hid.symm, if_pos ⟨rfl, ho⟩, row?_undated, hrow, ← Verdict.ofOutcome_terms]
        have hdecided : (Veil.undating.hide x).decided s.termsOf (some o) = _ :=
          Submission.decided_of_isOpen (isOpen_of_isPending hx hp) o
        exact congrArg some hdecided.symm
      · rw [if_neg fun h' => h (hid.symm.trans h'.symm), if_neg fun h' => h h'.1]
        exact hnone.symm
    · rw [applied_of_not_isPending hn]
      by_cases h : o.submissionId = id
      · subst h
        exact (map_decided_of_not_isPending _ hn).symm
      · rw [if_neg fun h' => h h'.1]
        exact hnone.symm
  · rw [applied_of_not_isFinal (by simpa using ho), if_neg fun h => ho h.2]
    exact hnone.symm

/-- **The first final outcome for a submission decides what is stored under its id.** -/
theorem row?_appliedAll (s : Store) (os : List (Instant × Outcome)) (id : SubmissionId) :
    (s.appliedAll reportedScore os).undated.row? id =
      (s.undated.row? id).map (·.decided s.termsOf (firstFinal? os id)) := by
  induction os generalizing s with
  | nil => exact Option.map_id'.symm
  | cons o os ih =>
    have hfinal : ∀ o' ∈ firstFinal? [o] id, o'.status.isFinal = true := by
      intro o' ho'
      exact (firstFinal?_eq_some ho').2
    show ((s.applied reportedScore o.1 o.2).appliedAll reportedScore os).undated.row? id = _
    rw [ih, termsOf_applied, row?_applied_undated, Option.map_map, firstFinal?_cons o os id]
    apply Option.map_congr
    intro x _
    exact Submission.decided_decided hfinal _

/-! ### Counters of accepted submissions -/

/-- The number of accepted submissions is told by what is stored, with times or without. -/
lemma accepted_undated (s : Store) (p : ProblemId) : s.undated.accepted p = s.accepted p := by
  show (s.submissions.rows.map _).countP _ = s.submissions.rows.countP _
  rw [List.countP_map]
  rfl

/-- How far the number of accepted submissions of a problem has come, as a counter sees it. -/
def gained (s t : Store) (p : ProblemId) : Int64 :=
  Int64.ofNat (t.accepted p) - Int64.ofNat (s.accepted p)

lemma gained_self (s : Store) (p : ProblemId) : s.gained s p = 0 := Int64.sub_self _

lemma gained_add (s t u : Store) (p : ProblemId) : s.gained t p + t.gained u p = s.gained u p := by
  unfold gained
  grind

lemma problem_applied (scoring : Scoring) (p : ProblemId) :
    (s.applied scoring now o).problems.find? p = (s.problems.find? p).map fun q =>
      { q with acceptedCount := q.acceptedCount + s.gained (s.applied scoring now o) p } := by
  have hterms := (effect_applied now o scoring s).terms p
  rcases hq : s.problems.find? p with _ | q
  · rw [hq] at hterms
    exact Option.map_eq_none_iff.1 hterms
  rw [Option.map_some]
  by_cases ho : o.status.isFinal = true
  · rcases pending_or_not (s.find? o.submissionId) with ⟨x, hx, hp⟩ | hn
    · obtain ⟨hrow, -⟩ := find?_eq_some.1 hx
      rw [← id_of_row? hrow] at hrow
      have hgained : ∀ k : Bool, Int64.ofNat (s.accepted p + k.toNat) - Int64.ofNat (s.accepted p) =
          if k then 1 else 0 := by
        intro k
        rw [Int64.ofNat_add, Int64.add_comm, Int64.add_sub_cancel]
        cases k <;> rfl
      rw [applied_of_isPending hx hp ho, problem_settle hq]
      unfold gained
      rw [accepted_settle hrow hp, hgained]
      split
      · rfl
      · rw [Int64.add_zero]
    · rw [applied_of_not_isPending hn, gained_self, Int64.add_zero, hq]
  · rw [applied_of_not_isFinal (by simpa using ho), gained_self, Int64.add_zero, hq]

theorem problem_appliedAll (scoring : Scoring) (s : Store) (os : List (Instant × Outcome))
    (p : ProblemId) :
    (s.appliedAll scoring os).problems.find? p = (s.problems.find? p).map fun q =>
      { q with acceptedCount := q.acceptedCount + s.gained (s.appliedAll scoring os) p } := by
  induction os generalizing s with
  | nil =>
    show s.problems.find? p = (s.problems.find? p).map fun q =>
      { q with acceptedCount := q.acceptedCount + s.gained s p }
    rw [gained_self]
    simp only [Int64.add_zero, Option.map_id']
  | cons o os ih =>
    show ((s.applied scoring o.1 o.2).appliedAll scoring os).problems.find? p = _
    rw [ih, problem_applied, Option.map_map]
    apply Option.map_congr
    intro q _
    simp only [Function.comp_apply, Int64.add_assoc, gained_add]
    rfl

/-! ### Redelivery -/

lemma appliedAll_lastId (scoring : Scoring) (s : Store) (os : List (Instant × Outcome)) :
    (s.appliedAll scoring os).lastId = s.lastId := by
  induction os generalizing s with
  | nil => rfl
  | cons o os ih => exact (ih _).trans (effect_applied o.1 o.2 scoring s).lastId_eq

lemma appliedAll_undated (s : Store) {os os' : List (Instant × Outcome)}
    (h : ∀ id, firstFinal? os id = firstFinal? os' id) :
    (s.appliedAll reportedScore os).undated = (s.appliedAll reportedScore os').undated := by
  have hrow : ∀ id, (s.appliedAll reportedScore os).undated.row? id =
      (s.appliedAll reportedScore os').undated.row? id := by
    intro id
    rw [row?_appliedAll, row?_appliedAll, h]
  have hsubmissions := Table.eq_of_find? hrow
  have haccepted : ∀ p, (s.appliedAll reportedScore os).accepted p =
      (s.appliedAll reportedScore os').accepted p := by
    intro p
    rw [← accepted_undated, ← accepted_undated (s.appliedAll reportedScore os')]
    exact congrArg (fun xs : Table Submission => xs.count (·.isAcceptedOf p)) hsubmissions
  have hproblems : (s.appliedAll reportedScore os).problems =
      (s.appliedAll reportedScore os').problems := by
    apply Table.eq_of_find?
    intro p
    rw [problem_appliedAll, problem_appliedAll]
    simp only [gained, haccepted]
  have hsplit : ∀ t : Store,
      t.undated = ⟨t.undated.submissions, t.problems, t.users, t.lastId⟩ := fun _ => rfl
  rw [hsplit, hsubmissions, hproblems, appliedAll_users, appliedAll_lastId,
    ← appliedAll_users reportedScore os' s, ← appliedAll_lastId reportedScore s os', ← hsplit]

/-- **Redelivery and order do not matter.** With the reported score, and no failures, two lists of
outcomes in which the same final outcome comes first for each submission make the same store, but
for the times of the verdicts: the same submissions, counters, users and ids. So an outcome that is
not final may be left out, and so may one that comes after a final outcome for its submission,
whatever it says; and outcomes for different submissions may change places. -/
theorem first_final_decides (s : Store) :
    (∀ os os' : List (Instant × Outcome), (∀ id, firstFinal? os id = firstFinal? os' id) →
      (s.appliedAll reportedScore os).undated = (s.appliedAll reportedScore os').undated) ∧
    (∀ (os os' : List (Instant × Outcome)) (now : Instant) (o : Outcome),
      o.status.isFinal = false ∨ (firstFinal? os o.submissionId).isSome = true →
      (s.appliedAll reportedScore (os ++ (now, o) :: os')).undated =
        (s.appliedAll reportedScore (os ++ os')).undated) ∧
    ∀ (os os' : List (Instant × Outcome)) (o o' : Instant × Outcome),
      o.2.submissionId ≠ o'.2.submissionId →
      (s.appliedAll reportedScore (os ++ o :: o' :: os')).undated =
        (s.appliedAll reportedScore (os ++ o' :: o :: os')).undated := by
  refine ⟨fun os os' => s.appliedAll_undated, ?_, ?_⟩
  · intro os os' now o h
    apply s.appliedAll_undated
    intro id
    rw [firstFinal?_append, firstFinal?_append, firstFinal?_cons, firstFinal?_singleton]
    split
    · rename_i ho
      obtain ⟨rfl, hfinal⟩ := ho
      rcases h with h | h
      · rw [hfinal] at h
        cases h
      · obtain ⟨first, hfirst⟩ := Option.isSome_iff_exists.1 h
        rw [hfirst, Option.some_or, Option.some_or]
    · rw [Option.none_or]
  · intro os os' o o' hne
    apply s.appliedAll_undated
    intro id
    have hswap : firstFinal? (o :: o' :: os') id = firstFinal? (o' :: o :: os') id := by
      rw [firstFinal?_cons o, firstFinal?_cons o', firstFinal?_cons o' (o :: os'),
        firstFinal?_cons o os', ← Option.or_assoc, ← Option.or_assoc]
      refine congrArg (Option.or · _) ?_
      rw [firstFinal?_singleton, firstFinal?_singleton]
      -- of the two ids only one is the submission's
      by_cases ho : o.2.submissionId = id
      · rw [if_neg (c := o'.2.submissionId = id ∧ _) fun h => hne (ho.trans h.1.symm)]
        rw [Option.or_none, Option.none_or]
      · rw [if_neg (c := o.2.submissionId = id ∧ _) fun h => ho h.1]
        rw [Option.or_none, Option.none_or]
    rw [firstFinal?_append, firstFinal?_append, hswap]

/-- Two pending submissions to a scored problem. -/
def twoPending : Store :=
  ((empty.insertProblem ⟨10, .everyone, 1, 1000, 256, .scored, 100, 2, 0⟩).insertSubmission
    (.ofDraft 1 ⟨0, 0⟩ ⟨10, 2, "cpp", ""⟩)).insertSubmission (.ofDraft 2 ⟨0, 0⟩ ⟨10, 3, "cpp", ""⟩)

/-- An acceptance of the first submission and a failure of the second, and then a contradiction. -/
def contradicted : List (Instant × Outcome) :=
  [(⟨1, 0⟩, .ofStatus 1 .accepted), (⟨2, 0⟩, .ofStatus 2 .wrongAnswer),
    (⟨3, 0⟩, .ofStatus 1 .systemError)]

theorem first_final_decides_two :
    (twoPending.appliedAll reportedScore contradicted).undated =
      (twoPending.appliedAll reportedScore
        [(⟨4, 0⟩, .ofStatus 1 .pending), (⟨5, 0⟩, .ofStatus 2 .wrongAnswer),
          (⟨6, 0⟩, .ofStatus 1 .accepted)]).undated ∧
    (twoPending.appliedAll reportedScore contradicted).undated =
      (twoPending.appliedAll reportedScore (contradicted.take 2)).undated ∧
    (twoPending.appliedAll reportedScore (contradicted.take 2)).undated =
      (twoPending.appliedAll reportedScore (contradicted.take 2).reverse).undated := by
  obtain ⟨hsame, hlate, hswap⟩ := first_final_decides twoPending
  refine ⟨hsame _ _ ?_, hlate (contradicted.take 2) [] _ _ (.inr rfl), hswap [] [] _ _ (by decide)⟩
  intro id
  by_cases h₁ : 1 = id
  · subst h₁
    rfl
  · by_cases h₂ : 2 = id
    · subst h₂
      rfl
    · simp [firstFinal?, contradicted, Outcome.ofStatus, h₁, h₂]

end Store

end Arbiter
