import Arbiter.Proofs.Store.Veil
import Arbiter.Proofs.Table.Lookup

/-!
Deleted submissions. To its callers a store is the store without them (`erased`): what is looked up
is found there (`answer_erased`), and every call does to the other submissions and to the counters
what it does there (`run_erased`). A deleted submission is stored to the letter after every call
but one: a discard that comes for it when it was pending as it was deleted removes it, and says so,
where nothing is found without it (`deleted_hidden_and_kept`, `deleted_pending_discarded`).
-/

namespace Arbiter

namespace Store

/-- The store without its deleted submissions. -/
def erased (s : Store) : Store :=
  { s with submissions := s.submissions.filterRows fun x => !x.isDeleted }

variable (s : Store)

@[simp] lemma problems_erased : s.erased.problems = s.problems := rfl

/-! ### What is looked up -/

lemma row?_erased (id : SubmissionId) : s.erased.row? id = s.find? id :=
  Table.find?_filterRows _ s.submissions id

lemma find?_erased (id : SubmissionId) : s.erased.find? id = s.find? id := by
  show (s.erased.row? id).filter _ = (s.row? id).filter _
  rw [row?_erased]
  unfold find? row?
  rw [Option.filter_filter]
  simp only [Bool.and_self]

lemma live_erased : s.erased.live = s.live := by
  show (s.submissions.rows.filter _).filter _ = s.submissions.rows.filter _
  rw [List.filter_filter]
  simp only [Bool.and_self]

lemma attempts_erased (user : UserId) (problem : ProblemId) :
    s.erased.attempts user problem = s.attempts user problem := by
  unfold attempts
  rw [live_erased]

lemma matching_erased (f : Filter) : s.erased.matching f = s.matching f := by
  have hholds : ∀ x, (f.holds x && !x.isDeleted) = f.holds x := by
    intro x
    unfold Filter.holds
    cases x.isDeleted
    · rw [Bool.not_false, Bool.and_true]
    · rfl
  show (s.submissions.rows.filter _).filter f.holds = s.submissions.rows.filter f.holds
  rw [List.filter_filter]
  simp only [hholds]

theorem answer_erased (now : Instant) {c : StoreCall} (hc : c.IsReading) :
    (s.erased.run now c).1 = (s.run now c).1 := by
  cases c with
  | create | discard | complete | countSubmit => exact hc.elim
  | find id => exact congrArg Except.ok (s.find?_erased id)
  | list f => simp only [run, page, matching_erased]
  | findBest user problem => simp only [run, best?, attempts_erased]
  | countByUser user => simp only [run, Store.countByUser, live_erased]
  | countSolved user => simp only [run, solved, live_erased]
  | standing user problem =>
    have h : s.erased.standing user problem = s.standing user problem := by
      unfold Store.standing
      rw [attempts_erased]
    exact congrArg Except.ok h
  | findStale cutoff limit => simp only [run, stale, live_erased]
  | findProblem | findUser => rfl

/-! ### What is changed -/

lemma put_erased {x : Submission} (hx : x.isDeleted = false) :
    (s.put x).erased = s.erased.put x := by
  unfold put erased
  rw [Table.filterRows_insert _ _ (by rw [hx]; rfl)]

lemma drop_erased (id : SubmissionId) : (s.drop id).erased = s.erased.drop id := by
  unfold drop erased
  rw [Table.filterRows_erase]

lemma countAccepted_erased (p : ProblemId) :
    (s.countAccepted p).erased = s.erased.countAccepted p := by
  unfold countAccepted
  rw [problems_erased]
  split <;> rfl

lemma settle_erased {x : Submission} (hx : x.isDeleted = false) :
    (s.settle x).erased = s.erased.settle x := by
  unfold settle
  split
  · rw [countAccepted_erased, put_erased s hx]
  · rw [put_erased s hx]

lemma countSubmit_erased (p : ProblemId) :
    s.erased.countSubmit p = (s.countSubmit p).map erased := by
  unfold countSubmit
  rw [problems_erased, Option.map_map]
  rfl

lemma create_erased (now : Instant) (d : Draft) :
    (s.create now d).2.erased = (s.erased.create now d).2 := by
  unfold create erased
  dsimp only
  rw [Table.filterRows_insert _ _ rfl]

lemma complete_erased (now : Instant) (id : SubmissionId) (v : Verdict) :
    s.erased.complete now id v = ((s.complete now id v).1, (s.complete now id v).2.erased) := by
  rcases pending_or_not (s.find? id) with ⟨x, hx, hp⟩ | hn
  · have hlive : (x.judged v now).isDeleted = false := (find?_eq_some.1 hx).2
    rw [complete_of_isPending hx hp, complete_of_isPending ((s.find?_erased id).trans hx) hp,
      settle_erased s hlive]
  · have hn' : ∀ x, s.erased.find? id = some x → x.isPending = false := by
      intro x hx
      exact hn x ((s.find?_erased id).symm.trans hx)
    rw [complete_of_not_isPending hn, complete_of_not_isPending hn']

/-! ### Discards -/

/-- What is pending under the id is a deleted submission. -/
def PendingDeleted (id : SubmissionId) : Prop :=
  ∃ x, s.row? id = some x ∧ x.isPending = true ∧ x.isDeleted = true

variable {s} {id : SubmissionId}

lemma discard_of_isPending {x : Submission} (hx : s.row? id = some x) (hp : x.isPending = true) :
    s.discard id = (true, s.drop id) := by
  rcases s.discard_cases id with ⟨_, _, _, h⟩ | h
  · exact h
  · unfold discard at h
    rw [show s.submissions.find? id = some x from hx, Option.any_some, hp, if_pos rfl] at h
    cases h

lemma discard_of_not_isPending (h : ∀ x, s.row? id = some x → x.isPending = false) :
    s.discard id = (false, s) := by
  rcases s.discard_cases id with ⟨x, hx, hp, _⟩ | hd
  · rw [h x hx] at hp
    cases hp
  · exact hd

/-- Without the deleted submission there is nothing to discard. -/
lemma discard_erased_of_pendingDeleted (h : s.PendingDeleted id) :
    s.discard id = (true, s.drop id) ∧ s.erased.discard id = (false, s.erased) ∧
      (s.drop id).erased = s.erased := by
  obtain ⟨x, hx, hp, hdeleted⟩ := h
  have hnone : s.erased.row? id = none := by
    rw [row?_erased]
    show (s.row? id).filter _ = none
    rw [hx, Option.filter_some, hdeleted]
    rfl
  refine ⟨discard_of_isPending hx hp, discard_of_not_isPending ?_, ?_⟩
  · intro y hy
    rw [hnone] at hy
    cases hy
  · rw [drop_erased]
    unfold drop
    rw [Table.erase_of_find?_none hnone]

lemma discard_erased (h : ¬ s.PendingDeleted id) :
    s.erased.discard id = ((s.discard id).1, (s.discard id).2.erased) := by
  rcases pending_or_not (s.row? id) with ⟨x, hx, hp⟩ | hn
  · have hlive : x.isDeleted = false := by
      cases hdeleted : x.isDeleted
      · rfl
      · exact absurd ⟨x, hx, hp, hdeleted⟩ h
    have hx' : s.erased.row? id = some x := by
      rw [row?_erased]
      exact find?_eq_some.2 ⟨hx, hlive⟩
    rw [discard_of_isPending hx hp, discard_of_isPending hx' hp, drop_erased]
  · have hn' : ∀ x, s.erased.row? id = some x → x.isPending = false := by
      intro x hx
      rw [row?_erased] at hx
      exact hn x (find?_eq_some.1 hx).1
    rw [discard_of_not_isPending hn, discard_of_not_isPending hn']

/-! ### Every call -/

end Store

namespace StoreCall

/-- The call is to discard what is pending under an id, and that is a deleted submission. -/
def DiscardsDeleted (s : Store) : StoreCall → Prop
  | discard id => s.PendingDeleted id
  | _ => False

/-- The call is to store a submission under an id that a deleted one has. -/
def ReusesDeleted (s : Store) : StoreCall → Prop
  | create _ => ∃ x, s.row? (s.lastId + 1) = some x ∧ x.isDeleted = true
  | _ => False

/-- On a store that was filled by its own calls, ids are not used again as long as they last. -/
lemma not_reusesDeleted {s : Store} (hs : s.Numbered) (hi : s.HasIds) (c : StoreCall) :
    ¬ c.ReusesDeleted s := by
  cases c with
  | create d =>
    rintro ⟨x, hx, -⟩
    rw [hs _ (Store.lastId_lt_next hi)] at hx
    cases hx
  | _ => exact id

end StoreCall

namespace Store

variable (s : Store) (now : Instant) (c : StoreCall)

theorem run_erased : (s.run now c).2.erased = (s.erased.run now c).2 := by
  cases c with
  | create d => exact s.create_erased now d
  | discard id =>
    show (s.discard id).2.erased = (s.erased.discard id).2
    by_cases h : s.PendingDeleted id
    · obtain ⟨hd, he, herased⟩ := discard_erased_of_pendingDeleted h
      rw [hd, he]
      exact herased
    · rw [discard_erased h]
  | complete id v =>
    show (s.complete now id v).2.erased = (s.erased.complete now id v).2
    rw [complete_erased]
  | countSubmit p =>
    simp only [run, countSubmit_erased]
    cases s.countSubmit p <;> rfl
  | _ => rfl

/-- **Answers are those without the deleted submissions**, but for one call. -/
theorem answer_erased_iff :
    (s.run now c).1 = (s.erased.run now c).1 ↔ ¬ c.DiscardsDeleted s := by
  have hreading : c.IsReading → ((s.run now c).1 = (s.erased.run now c).1 ↔ ¬ False) := by
    intro hc
    exact iff_of_true (s.answer_erased now hc).symm id
  cases c with
  | create d => exact iff_of_true rfl id
  | discard j =>
    show Except.ok (s.discard j).1 = Except.ok (s.erased.discard j).1 ↔ ¬ s.PendingDeleted j
    by_cases h : s.PendingDeleted j
    · obtain ⟨hd, he, -⟩ := discard_erased_of_pendingDeleted h
      rw [hd, he]
      refine iff_of_false ?_ (not_not_intro h)
      intro heq
      cases heq
    · rw [discard_erased h]
      exact iff_of_true rfl h
  | complete j v =>
    show Except.ok (s.complete now j v).1 = Except.ok (s.erased.complete now j v).1 ↔ ¬ False
    rw [complete_erased]
    exact iff_of_true rfl id
  | countSubmit p =>
    refine iff_of_true ?_ id
    simp only [run, countSubmit_erased]
    cases s.countSubmit p <;> rfl
  | _ => exact hreading trivial

/-- The deleted submissions of the first store are in the second as they were. -/
def KeepsDeleted (s t : Store) : Prop :=
  ∀ id x, s.row? id = some x → x.isDeleted = true → t.row? id = some x

variable {s} {t : Store}

lemma keepsDeleted_of_row? (h : ∀ id, t.row? id = s.row? id) : s.KeepsDeleted t := by
  intro id x hx _
  rw [h, hx]

lemma keepsDeleted_settle {x y : Submission} (hx : s.find? x.id = some x) (hid : y.id = x.id) :
    s.KeepsDeleted (s.settle y) := by
  intro id z hz hdeleted
  obtain ⟨hrow, hlive⟩ := find?_eq_some.1 hx
  rw [row?_settle, if_neg]
  · exact hz
  · -- the submission that gets the verdict is a live one
    rintro rfl
    rw [hid, hrow] at hz
    cases hz
    rw [hlive] at hdeleted
    cases hdeleted

lemma keepsDeleted_drop_iff {id : SubmissionId} {x : Submission} (hx : s.row? id = some x) :
    s.KeepsDeleted (s.drop id) ↔ x.isDeleted = false := by
  constructor
  · intro h
    cases hdeleted : x.isDeleted
    · rfl
    · have hkept := h id x hx hdeleted
      rw [row?_drop, if_pos rfl] at hkept
      cases hkept
  · intro hlive j y hy hdeleted
    rw [row?_drop, if_neg]
    · exact hy
    · rintro rfl
      rw [hx] at hy
      cases hy
      rw [hlive] at hdeleted
      cases hdeleted

lemma keepsDeleted_discard_iff {id : SubmissionId} :
    s.KeepsDeleted (s.discard id).2 ↔ ¬ s.PendingDeleted id := by
  rcases pending_or_not (s.row? id) with ⟨x, hx, hp⟩ | hn
  · rw [discard_of_isPending hx hp, keepsDeleted_drop_iff hx]
    constructor
    · rintro hlive ⟨y, hy, -, hdeleted⟩
      rw [hx] at hy
      cases hy
      rw [hlive] at hdeleted
      cases hdeleted
    · intro h
      cases hdeleted : x.isDeleted
      · rfl
      · exact absurd ⟨x, hx, hp, hdeleted⟩ h
  · rw [discard_of_not_isPending hn]
    refine iff_of_true (keepsDeleted_of_row? fun _ => rfl) ?_
    rintro ⟨x, hx, hp, -⟩
    rw [hn x hx] at hp
    cases hp

lemma keepsDeleted_create_iff {d : Draft} :
    s.KeepsDeleted (s.create now d).2 ↔ ¬ (StoreCall.create d).ReusesDeleted s := by
  constructor
  · rintro h ⟨x, hx, hdeleted⟩
    have hkept := h _ x hx hdeleted
    rw [row?_create, if_pos rfl] at hkept
    cases hkept
    cases hdeleted
  · intro h id x hx hdeleted
    rw [row?_create, if_neg]
    · exact hx
    · rintro rfl
      exact h ⟨x, hx, hdeleted⟩

/-- **Deleted submissions are kept**, but for discards of them and ids that are used again. -/
theorem keepsDeleted_iff :
    s.KeepsDeleted (s.run now c).2 ↔ ¬ c.DiscardsDeleted s ∧ ¬ c.ReusesDeleted s := by
  have hsame : (∀ id, (s.run now c).2.row? id = s.row? id) →
      (s.KeepsDeleted (s.run now c).2 ↔ ¬ False ∧ ¬ False) := by
    intro h
    exact iff_of_true (keepsDeleted_of_row? h) ⟨id, id⟩
  cases c with
  | create d => exact (keepsDeleted_create_iff now).trans (and_iff_right id).symm
  | discard j => exact keepsDeleted_discard_iff.trans (and_iff_left id).symm
  | complete j v =>
    refine iff_of_true ?_ ⟨id, id⟩
    show s.KeepsDeleted (s.complete now j v).2
    rcases pending_or_not (s.find? j) with ⟨x, hx, hp⟩ | hn
    · obtain rfl := id_of_row? (find?_eq_some.1 hx).1
      rw [complete_of_isPending hx hp]
      exact keepsDeleted_settle hx rfl
    · rw [complete_of_not_isPending hn]
      exact keepsDeleted_of_row? fun _ => rfl
  | countSubmit p =>
    refine hsame ?_
    intro id
    simp only [run]
    cases h : s.countSubmit p with
    | none => rfl
    | some t =>
      obtain ⟨q, -, rfl⟩ := Option.map_eq_some_iff.1 h
      rfl
  | _ => exact hsame fun _ => rfl

/-- **Deleted submissions are out of sight and are kept**, with one exception. Each call leaves the
store that it leaves without them, but for them. It is answered as it is without them, unless it is
to discard a submission that was pending as it was deleted. It keeps them all to the letter, unless
it is such a discard or the ids have come round to one of theirs; the latter cannot be as long as
the ids of a store that was filled by its own calls last. -/
theorem deleted_hidden_and_kept (s : Store) (now : Instant) (c : StoreCall) :
    (s.run now c).2.erased = (s.erased.run now c).2 ∧
      ((s.run now c).1 = (s.erased.run now c).1 ↔ ¬ c.DiscardsDeleted s) ∧
      (s.KeepsDeleted (s.run now c).2 ↔ ¬ c.DiscardsDeleted s ∧ ¬ c.ReusesDeleted s) ∧
      (s.Numbered → s.HasIds → ¬ c.ReusesDeleted s) := by
  refine ⟨s.run_erased now c, s.answer_erased_iff now c, keepsDeleted_iff now c, ?_⟩
  intro hs hi
  exact StoreCall.not_reusesDeleted hs hi c

/-- One submission, deleted while it was pending. -/
def binStore : Store :=
  empty.insertSubmission
    { Submission.ofDraft 1 ⟨0, 0⟩ ⟨10, 2, "cpp", "int main() {}"⟩ with isDeleted := true }

theorem deleted_hidden_and_kept_create :
    (binStore.run ⟨9, 0⟩ (.create ⟨10, 3, "cpp", ""⟩)).1 =
        (binStore.erased.run ⟨9, 0⟩ (.create ⟨10, 3, "cpp", ""⟩)).1 ∧
      binStore.KeepsDeleted (binStore.run ⟨9, 0⟩ (.create ⟨10, 3, "cpp", ""⟩)).2 := by
  obtain ⟨-, hanswer, hkept, hreuse⟩ := deleted_hidden_and_kept binStore ⟨9, 0⟩ (.create _)
  have hnot := hreuse (numbered_empty.insertSubmission _) (by decide)
  exact ⟨hanswer.2 id, hkept.2 ⟨id, hnot⟩⟩

/-- A discard finds a deleted submission that nothing else finds, and removes it for good. -/
theorem deleted_pending_discarded :
    (∃ x, binStore.row? 1 = some x ∧ x.isDeleted = true) ∧ binStore.find? 1 = none ∧
      (binStore.run ⟨0, 0⟩ (.discard 1)).1 = .ok true ∧
      (binStore.erased.run ⟨0, 0⟩ (.discard 1)).1 = .ok false ∧
      (binStore.run ⟨0, 0⟩ (.discard 1)).2.row? 1 = none :=
  ⟨⟨_, rfl, rfl⟩, rfl, rfl, rfl, rfl⟩

end Store

end Arbiter
