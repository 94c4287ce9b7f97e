import Arbiter.Submission.Record
import Mathlib.Tactic.Lemma

/-!
The ages of submissions. One instant is older than another by more than some seconds if it still
comes first with the seconds added; outside leap seconds this says that more nanoseconds than these
lie between them (`Instant.plusSeconds_before_iff`). Taking the seconds off the later one instead
comes to the same, also where that stops at the first date there is
(`Instant.before_minusSeconds`). Submissions have an order of age, by creation time and then by id
(`Submission.Older`).
-/

namespace Arbiter

namespace Instant

/-- The instant some seconds later, past all dates if need be. -/
def plusSeconds (i : Instant) (n : Nat) : Instant := ⟨i.second + n, i.nano⟩

/-- The nanoseconds since 1970. -/
def nanoseconds (i : Instant) : Int := i.second * 1000000000 + i.nano

variable {i j : Instant}

lemma before_iff :
    i.before j = true ↔ i.second < j.second ∨ i.second = j.second ∧ i.nano < j.nano := by
  simp [before]

/-- To go by instants first and then by something transitive is transitive. -/
lemma before_or_eq_trans {k : Instant} {p q r : Prop} (hij : i.before j = true ∨ i = j ∧ p)
    (hjk : j.before k = true ∨ j = k ∧ q) (hr : p → q → r) :
    i.before k = true ∨ i = k ∧ r := by
  rcases hij with hij | ⟨rfl, hp⟩ <;> rcases hjk with hjk | ⟨rfl, hq⟩
  · exact .inl (before_trans hij hjk)
  · exact .inl hij
  · exact .inl hjk
  · exact .inr ⟨rfl, hr hp hq⟩

/-- Outside leap seconds, instants are compared by their nanoseconds. -/
lemma plusSeconds_before_iff (hi : i.nano < 1000000000) (hj : j.nano < 1000000000) (n : Nat) :
    (i.plusSeconds n).before j = true ↔ n * 1000000000 < j.nanoseconds - i.nanoseconds := by
  rw [before_iff]
  simp only [plusSeconds, nanoseconds]
  omega

/-- A cutoff that stops at the first date leaves out what the exact one leaves out. -/
lemma before_minusSeconds (hi : leastSecond ≤ i.second) (n : Nat) :
    i.before (j.minusSeconds n) = (i.plusSeconds n).before j := by
  rw [Bool.eq_iff_iff, before_iff, before_iff]
  unfold minusSeconds
  split
  · simp only [plusSeconds, earliest]
    omega
  · simp only [plusSeconds]
    omega

end Instant

namespace Submission

/-- Created earlier, or at one time under a smaller id. -/
def Older (x y : Submission) : Prop :=
  x.createTime.before y.createTime = true ∨ x.createTime = y.createTime ∧ x.id < y.id

variable {x y : Submission}

lemma Older.irrefl (x : Submission) : ¬ x.Older x := by
  rintro (h | ⟨-, h⟩)
  · rw [Instant.before_irrefl] at h
    cases h
  · exact Int64.lt_irrefl h

lemma Older.trans {z : Submission} (hxy : x.Older y) (hyz : y.Older z) : x.Older z :=
  Instant.before_or_eq_trans hxy hyz Int64.lt_trans

lemma Older.asymm (h : x.Older y) : ¬ y.Older x := fun h' => Older.irrefl x (h.trans h')

lemma older_or_older (h : x.id ≠ y.id) : x.Older y ∨ y.Older x := by
  rcases Instant.before_or_eq_or_before x.createTime y.createTime with ht | ht | ht
  · exact .inl (.inl ht)
  · rcases Int64.lt_or_le x.id y.id with hid | hid
    · exact .inl (.inr ⟨ht, hid⟩)
    · exact .inr (.inr ⟨ht.symm, Int64.lt_of_le_of_ne hid h.symm⟩)
  · exact .inr (.inl ht)

end Submission

end Arbiter
