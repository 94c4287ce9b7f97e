import Arbiter.Proofs.Store.Effect
import Arbiter.Proofs.Submission.Age
import Arbiter.Proofs.Table.Lookup
import Mathlib.Data.List.Nodup

/-!
Submissions that have been pending for longer than a timeout (`Submission.Overdue`). A store is
asked for those from before a cutoff instead, which comes to the same: the cutoff may be held back
at the first date there is, but no submission is from before that (`mem_queue`). They wait in a
queue, by creation time and then by id (`Store.IsQueue`): rows lie in the order of ids, and sorting
them by time keeps that order within one time (`filter_mergeSort_oldestFirst`), so that what the
store finds is the queue (`isQueue_queue`), and there is only one (`IsQueue.unique`).
-/

namespace Arbiter

namespace Submission

/-- A live submission that has been pending for longer than some seconds. -/
structure Overdue (x : Submission) (timeoutSeconds : Nat) (now : Instant) : Prop where
  live : x.isDeleted = false
  pending : x.status = .pending
  age : (x.createTime.plusSeconds timeoutSeconds).before now = true

end Submission

namespace Store

variable (s : Store) (timeoutSeconds : Nat) (now : Instant)

/-- Submissions were created on dates that can be written. -/
def IsDated : Prop := ∀ x ∈ s.submissions.rows, Instant.leastSecond ≤ x.createTime.second

instance : DecidablePred IsDated := fun s =>
  inferInstanceAs (Decidable (∀ x ∈ s.submissions.rows, _))

/-- The overdue submissions, oldest first. -/
structure IsQueue (queue : List Submission) : Prop where
  mem : ∀ x, x ∈ queue ↔ x ∈ s.submissions.rows ∧ x.Overdue timeoutSeconds now
  ordered : queue.Pairwise Submission.Older

/-- The rows that a cutoff leaves, by id. -/
def beforeCutoff (cutoff : Instant) : List Submission :=
  s.live.filter fun x => x.isPending && x.createTime.before cutoff

/-- What the store finds overdue. -/
def queue : List Submission :=
  (s.beforeCutoff (now.minusSeconds timeoutSeconds)).mergeSort oldestFirst

variable {s timeoutSeconds now}

lemma stale_eq_queue (limit : Nat) : s.stale (now.minusSeconds timeoutSeconds) limit =
    ((s.queue timeoutSeconds now).take limit).map (·.id) := rfl

lemma mem_queue (hs : s.IsDated) (x : Submission) : x ∈ s.queue timeoutSeconds now ↔
    x ∈ s.submissions.rows ∧ x.Overdue timeoutSeconds now := by
  unfold queue beforeCutoff live
  simp only [List.mem_mergeSort, List.mem_filter, Bool.not_eq_true', Bool.and_eq_true,
    Submission.isPending_iff]
  constructor
  · rintro ⟨⟨hrow, hlive⟩, hpending, hcutoff⟩
    rw [Instant.before_minusSeconds (hs x hrow)] at hcutoff
    exact ⟨hrow, hlive, hpending, hcutoff⟩
  · rintro ⟨hrow, hlive, hpending, hage⟩
    rw [← Instant.before_minusSeconds (hs x hrow)] at hage
    exact ⟨⟨hrow, hlive⟩, hpending, hage⟩

/-! ### The order of the queue -/

lemma oldestFirst_iff {x y : Submission} : oldestFirst x y = true ↔
    x.createTime.before y.createTime = true ∨ x.createTime = y.createTime := by
  unfold oldestFirst Instant.atMost
  rw [Bool.not_eq_true']
  constructor
  · intro h
    rcases Instant.before_or_eq_or_before x.createTime y.createTime with hlt | heq | hgt
    · exact .inl hlt
    · exact .inr heq
    · rw [h] at hgt
      cases hgt
  · rintro (hlt | heq)
    · by_contra hgt
      rw [Bool.not_eq_false] at hgt
      have hself := Instant.before_trans hlt hgt
      rw [Instant.before_irrefl] at hself
      cases hself
    · rw [heq, Instant.before_irrefl]

lemma oldestFirst_trans (x y z : Submission) (hxy : oldestFirst x y = true)
    (hyz : oldestFirst y z = true) : oldestFirst x z = true := by
  rw [oldestFirst_iff] at *
  rcases hxy with hxy | hxy <;> rcases hyz with hyz | hyz
  · exact .inl (Instant.before_trans hxy hyz)
  · exact .inl (hyz ▸ hxy)
  · exact .inl (hxy ▸ hyz)
  · exact .inr (hxy.trans hyz)

lemma oldestFirst_total (x y : Submission) : (oldestFirst x y || oldestFirst y x) = true := by
  rw [Bool.or_eq_true, oldestFirst_iff, oldestFirst_iff]
  rcases Instant.before_or_eq_or_before x.createTime y.createTime with hlt | heq | hgt
  · exact .inl (.inl hlt)
  · exact .inl (.inr heq)
  · exact .inr (.inl hgt)

/-- Sorting by time keeps the order of rows that were created at one time. -/
lemma filter_mergeSort_oldestFirst (xs : List Submission) (time : Instant) :
    (xs.mergeSort oldestFirst).filter (·.createTime == time) =
      xs.filter (·.createTime == time) := by
  have hties : (xs.filter (·.createTime == time)).Pairwise fun x y => oldestFirst x y = true := by
    refine List.pairwise_of_forall_mem_list fun x hx y hy => ?_
    rw [List.mem_filter, beq_iff_eq] at hx hy
    exact oldestFirst_iff.2 (.inr (hx.2.trans hy.2.symm))
  have hsub : (xs.filter (·.createTime == time)).Sublist (xs.mergeSort oldestFirst) :=
    List.sublist_mergeSort oldestFirst_trans oldestFirst_total hties List.filter_sublist
  have hfilter := hsub.filter (·.createTime == time)
  rw [List.filter_filter] at hfilter
  simp only [Bool.and_self] at hfilter
  have hlength : (xs.filter (·.createTime == time)).length =
      ((xs.mergeSort oldestFirst).filter (·.createTime == time)).length :=
    ((List.mergeSort_perm xs oldestFirst).filter _).length_eq.symm
  exact (hfilter.eq_of_length hlength).symm

/-- Rows in the order of ids, sorted by time, are in the order of times and then of ids. -/
lemma pairwise_older {xs : List Submission} (hxs : xs.Pairwise fun x y => x.id < y.id) :
    (xs.mergeSort oldestFirst).Pairwise Submission.Older := by
  have hsorted := List.pairwise_mergeSort oldestFirst_trans oldestFirst_total xs
  rw [List.pairwise_iff_forall_sublist] at hsorted ⊢
  intro x y hxy
  rcases oldestFirst_iff.1 (hsorted hxy) with hlt | heq
  · exact .inl hlt
  · -- the two are among the rows of their time, and in the same order
    have hties := hxy.filter (·.createTime == y.createTime)
    rw [filter_mergeSort_oldestFirst] at hties
    simp only [heq, List.filter_cons, beq_self_eq_true, if_true, List.filter_nil] at hties
    exact .inr ⟨heq, List.pairwise_iff_forall_sublist.1 (hxs.filter _) hties⟩

theorem isQueue_queue (hs : s.IsDated) :
    s.IsQueue timeoutSeconds now (s.queue timeoutSeconds now) where
  mem := mem_queue hs
  ordered := pairwise_older ((s.submissions.sorted.filter _).filter _)

/-! ### Queues -/

namespace IsQueue

variable {queue : List Submission} (hq : s.IsQueue timeoutSeconds now queue)
include hq

lemma row?_of_mem {x : Submission} (hx : x ∈ queue) : s.row? x.id = some x :=
  Table.find?_of_mem ((hq.mem x).1 hx).1

lemma find?_of_mem {x : Submission} (hx : x ∈ queue) : s.find? x.id = some x :=
  find?_eq_some.2 ⟨hq.row?_of_mem hx, ((hq.mem x).1 hx).2.live⟩

lemma pairwise_id : queue.Pairwise fun x y => x.id ≠ y.id := by
  refine hq.ordered.imp_of_mem fun {x y} hx hy hxy hid => ?_
  have hrow := hq.row?_of_mem hx
  rw [hid, hq.row?_of_mem hy] at hrow
  cases hrow
  exact Submission.Older.irrefl _ hxy

lemma unique {other : List Submission} (ho : s.IsQueue timeoutSeconds now other) :
    queue = other := by
  have hdistinct : ∀ {xs : List Submission}, xs.Pairwise Submission.Older → xs.Nodup :=
    fun h => h.imp fun hxy => by
      rintro rfl
      exact Submission.Older.irrefl _ hxy
  have hmem : ∀ x, x ∈ queue ↔ x ∈ other := fun x => (hq.mem x).trans (ho.mem x).symm
  have hperm : queue.Perm other :=
    (List.perm_ext_iff_of_nodup (hdistinct hq.ordered) (hdistinct ho.ordered)).2 hmem
  exact hperm.eq_of_pairwise (fun x y _ _ hxy hyx => absurd hyx hxy.asymm) hq.ordered ho.ordered

end IsQueue

end Store

end Arbiter
