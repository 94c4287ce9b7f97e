import Arbiter.Proofs.Store.Effect

/-!
Numbers of stored submissions, and what the changes of a store do to them (`tally_drop`,
`tally_create`, `tally_settle`). Only a verdict that is written into a pending submission makes a
stored submission accepted, and the same call counts it, so a problem's counter of accepted
submissions and the number of its accepted rows move together (`Effect.accepted`).
-/

namespace Arbiter

/-- The submission is an accepted one of the problem. -/
def Submission.isAcceptedOf (p : ProblemId) (x : Submission) : Bool :=
  x.problemId == p && x.status == .accepted

lemma Submission.isAcceptedOf_eq_false {x : Submission} (hp : x.isPending = true)
    (p : ProblemId) : x.isAcceptedOf p = false := by
  have hstatus : x.status = .pending := by simpa [isPending] using hp
  simp [isAcceptedOf, hstatus]

namespace Store

variable {s t : Store} (b : Submission → Bool)

/-- The number of stored submissions with a property, deleted ones included. -/
def tally (s : Store) (b : Submission → Bool) : Nat := s.submissions.count b

lemma tally_drop {id : SubmissionId} {x : Submission} (hx : s.row? id = some x) :
    (s.drop id).tally b + (b x).toNat = s.tally b :=
  Table.count_erase_of_some b hx

lemma tally_create (hs : s.Numbered) (hi : s.HasIds) (now : Instant) (d : Draft) :
    (s.create now d).2.tally b = s.tally b + (b (s.create now d).1).toNat :=
  Table.count_insert_of_none b (hs _ (lastId_lt_next hi))

lemma tally_settle {x y : Submission} (hx : s.row? y.id = some x) :
    (s.settle y).tally b + (b x).toNat = s.tally b + (b y).toNat := by
  unfold tally
  rw [settle_submissions]
  exact Table.count_insert_of_some b hx

lemma tally_le_add {b b' b'' : Submission → Bool} (s : Store)
    (h : ∀ x, b x = true → b' x = true ∨ b'' x = true) :
    s.tally b ≤ s.tally b' + s.tally b'' := by
  unfold tally Table.count
  induction s.submissions.rows with
  | nil => exact Nat.zero_le _
  | cons x xs ih =>
    rw [List.countP_cons, List.countP_cons, List.countP_cons]
    have hx := h x
    cases hb : b x
    · simp only [Bool.false_eq_true, if_false]
      omega
    · rcases hx hb with hb' | hb''
      · simp only [hb', if_true]
        omega
      · simp only [hb'', if_true]
        omega

/-- A property that verdicts bring to nobody gets rarer. -/
lemma Effect.tally_le (h : s.Effect t)
    (hb : ∀ x v now, x.isPending = true → b (x.judged v now) = true → b x = true) :
    t.tally b ≤ s.tally b := by
  cases h with
  | nothing | counted => exact Nat.le_refl _
  | discarded hx hp => exact Nat.le.intro (tally_drop b hx)
  | @judged x hx hp v hv now =>
    obtain ⟨hx, -⟩ := find?_eq_some.1 hx
    have htally := tally_settle b (y := x.judged v now) hx
    have hle : (b (x.judged v now)).toNat ≤ (b x).toNat := by
      cases hj : b (x.judged v now)
      · exact Nat.zero_le _
      · exact Nat.le_of_eq (congrArg Bool.toNat (hb x v now hp hj)).symm
    omega

/-! ### Counters of problems -/

/-- The number of stored submissions of a problem that are accepted, deleted ones included. -/
def accepted (s : Store) (p : ProblemId) : Nat := s.tally (·.isAcceptedOf p)

/-- The problem's counters may both go up. -/
def HasCounts (p : ProblemId) (s : Store) : Prop :=
  ∀ q ∈ s.problems.find? p, q.submitCount < Int64.maxValue ∧ q.acceptedCount < Int64.maxValue

instance (p : ProblemId) : DecidablePred (HasCounts p) := fun s =>
  inferInstanceAs (Decidable (∀ q ∈ s.problems.find? p, _))

variable {p : ProblemId} {q : Problem}

lemma accepted_create (hs : s.Numbered) (hi : s.HasIds) (now : Instant) (d : Draft) :
    (s.create now d).2.accepted p = s.accepted p := by
  have h := tally_create (·.isAcceptedOf p) hs hi now d
  rwa [Submission.isAcceptedOf_eq_false rfl] at h

lemma accepted_drop {id : SubmissionId} {x : Submission} (hx : s.row? id = some x)
    (hp : x.isPending = true) : (s.drop id).accepted p = s.accepted p := by
  have h := tally_drop (·.isAcceptedOf p) hx
  rwa [Submission.isAcceptedOf_eq_false hp] at h

lemma accepted_settle {x : Submission} (hx : s.row? x.id = some x) (hp : x.isPending = true)
    (v : Verdict) (now : Instant) : (s.settle (x.judged v now)).accepted p =
      s.accepted p + ((x.judged v now).isAcceptedOf p).toNat := by
  have h := tally_settle (·.isAcceptedOf p) (s := s) (y := x.judged v now) hx
  rwa [Submission.isAcceptedOf_eq_false hp] at h

lemma problem_settle (hq : s.problems.find? p = some q) (y : Submission) :
    (s.settle y).problems.find? p =
      some { q with
        acceptedCount := if y.isAcceptedOf p then q.acceptedCount + 1 else q.acceptedCount } := by
  unfold settle Submission.isAcceptedOf
  by_cases hy : y.status = .accepted
  · rw [if_pos hy, hy, beq_self_eq_true, Bool.and_true]
    unfold countAccepted
    by_cases hp : y.problemId = p
    · rw [hp, put_problems, hq, beq_self_eq_true, if_pos rfl, Table.find?_insert]
      exact if_pos (Table.key_of_find? hq).symm
    · rw [if_neg (by simpa using hp), put_problems]
      rcases hr : s.problems.find? y.problemId with _ | r
      · exact hq
      · rw [Table.find?_insert, if_neg]
        · exact hq
        · rw [← Table.key_of_find? hr] at hp
          exact fun h => hp h.symm
  · rw [if_neg hy, if_neg (by simp [hy]), put_problems, hq]

theorem Effect.accepted (h : s.Effect t) (hq : s.problems.find? p = some q)
    (hc : s.HasCounts p) : ∃ q', t.problems.find? p = some q' ∧
      q'.acceptedCount.toInt + s.accepted p = q.acceptedCount.toInt + t.accepted p := by
  cases h with
  | nothing => exact ⟨q, hq, rfl⟩
  | discarded hx hp => exact ⟨q, hq, by rw [accepted_drop hx hp]⟩
  | @counted r hr =>
    rw [Table.find?_insert]
    split
    · rename_i hp
      rw [show p = r.id from hp, hr] at hq
      cases hq
      exact ⟨_, rfl, rfl⟩
    · exact ⟨q, hq, rfl⟩
  | @judged x hx hp v hv now =>
    obtain ⟨hx, -⟩ := find?_eq_some.1 hx
    refine ⟨_, problem_settle hq _, ?_⟩
    rw [accepted_settle hx hp]
    cases (x.judged v now).isAcceptedOf p
    · rfl
    · simp only [if_true, toInt_add_one (hc q hq).2, Bool.toNat_true]
      omega

end Store

end Arbiter
