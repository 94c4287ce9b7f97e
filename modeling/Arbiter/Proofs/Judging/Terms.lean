import Arbiter.Judging.Verdict
import Arbiter.Proofs.Store.Tally

/-!
What a verdict takes from a problem. With the reported score it is the problem's terms
(`ofOutcome_terms`), and no call to the store changes those (`Effect.terms`): a problem that was
looked up some time ago leads to the same verdict as the problem as it is now.
-/

namespace Arbiter

/-- A problem without its counters. -/
def Problem.terms (p : Problem) : Problem := { p with submitCount := 0, acceptedCount := 0 }

lemma Verdict.ofOutcome_terms (o : Outcome) (p : Option Problem) :
    ofOutcome reportedScore o (p.map (·.terms)) = ofOutcome reportedScore o p := by
  rcases p with _ | p
  · rfl
  have hscore : ((some p.terms).filter (·.isScored)).map (scoreOf reportedScore o) =
      ((some p).filter (·.isScored)).map (scoreOf reportedScore o) := by
    rw [Option.filter_some, Option.filter_some]
    show (if p.isScored then _ else _ : Option Problem).map _ = _
    split <;> rfl
  unfold ofOutcome
  rw [Option.map_some, hscore]
  rfl

lemma Verdict.ofOutcome_congr (o : Outcome) {p q : Option Problem}
    (h : p.map (·.terms) = q.map (·.terms)) :
    ofOutcome reportedScore o p = ofOutcome reportedScore o q := by
  rw [← ofOutcome_terms, h, ofOutcome_terms]

namespace Store

lemma terms_insert {ps : Table Problem} {q r : Problem} (hq : ps.find? r.id = some q)
    (hr : r.terms = q.terms) (p : ProblemId) :
    ((ps.insert r).find? p).map (·.terms) = (ps.find? p).map (·.terms) := by
  rw [Table.find?_insert]
  split
  · rename_i hp
    rw [show p = r.id from hp, hq, Option.map_some, Option.map_some, hr]
  · rfl

theorem Effect.terms {s t : Store} (h : s.Effect t) (p : ProblemId) :
    (t.problems.find? p).map (·.terms) = (s.problems.find? p).map (·.terms) := by
  cases h with
  | nothing | discarded => rfl
  | @counted q hq => exact terms_insert (r := { q with submitCount := q.submitCount + 1 }) hq rfl p
  | @judged x hx hp v hv now =>
    unfold settle
    split
    · unfold countAccepted
      rcases hq : (s.put (x.judged v now)).problems.find? (x.judged v now).problemId with _ | q
      · rfl
      · rw [← Table.key_of_find? hq] at hq
        exact terms_insert (r := { q with acceptedCount := q.acceptedCount + 1 }) hq rfl p
    · rfl

/-- The terms of a problem, if there is one. -/
def termsOf (s : Store) (p : ProblemId) : Option Problem := (s.problems.find? p).map (·.terms)

lemma Effect.termsOf_eq {s t : Store} (h : s.Effect t) : t.termsOf = s.termsOf := funext h.terms

end Store

end Arbiter
