import Arbiter.Proofs.Session.Lifecycle
import Arbiter.Proofs.Store.Tally

/-!
The submissions that a run creates. They come under ids above all earlier ones, each above the one
before, and what is stored at the end above the last id that was given out before the run is what
is left of them (`births`). So the created submissions of a problem that are still stored can be
counted in the store (`kept_eq_tally`).
-/

namespace Arbiter.Session

/-- The submissions that are created in a run, first to last. -/
def created (s : Session) (ms : List Move) : List Submission :=
  (s.trace ms).filterMap Event.created?

/-- The number of submissions of a problem that are created in a run and stored at its end. -/
def kept (s : Session) (ms : List Move) (p : ProblemId) : Nat :=
  (s.created ms).countP fun x => x.problemId == p && ((s.after ms).store.row? x.id).isSome

variable {s : Session} {m : Move} {ms : List Move}

lemma created_cons (s : Session) (m : Move) (ms : List Move) : s.created (m :: ms) =
    ((s.event? m).bind Event.created?).toList ++ (s.step m).created ms := by
  show ((s.event? m).toList ++ (s.step m).trace ms).filterMap Event.created? = _
  rw [List.filterMap_append]
  rcases s.event? m with _ | e
  · rfl
  · show [e].filterMap Event.created? ++ _ = e.created?.toList ++ _
    rcases he : e.created? with _ | x
    · rw [List.filterMap_cons_none he]; rfl
    · rw [List.filterMap_cons_some he]; rfl

lemma Stir.lastId_eq {t : Store} (h : s.Stir m none t) : t.lastId = s.store.lastId := by
  cases h with
  | effect h => exact h.lastId_eq
  | user | problem => rfl

/-- What the submissions that a run creates have to do with the store. -/
structure Births (s : Session) (ms : List Move) : Prop where
  /-- They come under unused ids. -/
  lt : ∀ x ∈ s.created ms, s.store.lastId < x.id
  /-- What is stored under their ids is what became of them. -/
  fate : ∀ x ∈ s.created ms, Fate (some x) ((s.after ms).store.row? x.id)
  ascend : (s.created ms).Pairwise fun x y => x.id < y.id
  /-- Nothing else is stored under ids that were unused. -/
  all : ∀ id, s.store.lastId < id → ((s.after ms).store.row? id).isSome = true →
    ∃ x ∈ s.created ms, x.id = id

lemma Births.cons_of_none (hs : s.IsFair) (hc : (s.event? m).bind Event.created? = none)
    (h : Births (s.step m) ms) : Births s (m :: ms) := by
  have hstir := hs.stir m
  rw [hc] at hstir
  have hcreated : s.created (m :: ms) = (s.step m).created ms := by
    rw [created_cons, hc]; rfl
  obtain ⟨hlt, hfate, hascend, hall⟩ := h
  rw [hstir.lastId_eq] at hlt hall
  constructor <;> rw [hcreated]
  · exact hlt
  · exact hfate
  · exact hascend
  · exact hall

lemma Births.cons_of_some (hs : s.Sound) (hi : s.Throughout Store.HasIds (m :: ms))
    {x : Submission} (hc : (s.event? m).bind Event.created? = some x)
    (h : Births (s.step m) ms) : Births s (m :: ms) := by
  have hstir := hs.fair.stir m
  rw [hc] at hstir
  obtain ⟨-, hrow, hid, hlast, -⟩ := hstir.born hs.numbered hi.1
  have hnext : s.store.lastId < x.id := by
    rw [hid]
    exact Store.lastId_lt_next hi.1
  have hcreated : s.created (m :: ms) = x :: (s.step m).created ms := by
    rw [created_cons, hc]; rfl
  obtain ⟨hlt, hfate, hascend, hall⟩ := h
  rw [hlast] at hlt hall
  constructor <;> rw [hcreated]
  · refine List.forall_mem_cons.2 ⟨hnext, fun y hy => Int64.lt_trans hnext (hlt y hy)⟩
  · refine List.forall_mem_cons.2 ⟨?_, hfate⟩
    have hx := fate_after (hs.step hi.1 m).fair hi.2 (Int64.le_of_eq hlast.symm)
    rwa [hrow] at hx
  · exact List.pairwise_cons.2 ⟨hlt, hascend⟩
  · intro i hi' hsome
    rcases Int64.lt_or_le x.id i with hlt' | hle
    · obtain ⟨y, hy, hyid⟩ := hall i hlt' hsome
      exact ⟨y, List.mem_cons_of_mem _ hy, hyid⟩
    · rw [hid] at hle
      exact ⟨x, List.mem_cons_self, hid.trans (Store.eq_next hi.1 hi' hle).symm⟩

theorem births (hs : s.Sound) (hi : s.Throughout Store.HasIds ms) : Births s ms := by
  induction ms generalizing s with
  | nil =>
    refine ⟨fun x hx => ?_, fun x hx => ?_, .nil, fun id hid hsome => ?_⟩
    · cases hx
    · cases hx
    · rw [after_nil, hs.numbered id hid] at hsome
      cases hsome
  | cons m ms ih =>
    have hrest := ih (hs.step hi.1 m) hi.2
    cases hc : (s.event? m).bind Event.created? with
    | none => exact hrest.cons_of_none hs.fair hc
    | some x => exact hrest.cons_of_some hs hi hc

/-! ### Counting -/

/-- The submission is one to the problem, under an id above `last`. -/
def isNewOf (p : ProblemId) (last : SubmissionId) (y : Submission) : Bool :=
  y.problemId == p && decide (last < y.id)

lemma isNewOf_of_lt {p problem : ProblemId} {last : SubmissionId} {y : Submission}
    (hp : y.problemId = problem) (hlt : last < y.id) : isNewOf p last y = (problem == p) := by
  unfold isNewOf
  rw [hp, decide_eq_true hlt, Bool.and_true]

lemma mem_kept_iff (hs : s.Sound) (hi : s.Throughout Store.HasIds ms) (p : ProblemId)
    (id : SubmissionId) :
    (∃ x ∈ s.created ms,
      (x.problemId == p && ((s.after ms).store.row? x.id).isSome) = true ∧ x.id = id) ↔
    ∃ y ∈ (s.after ms).store.submissions.rows, isNewOf p s.store.lastId y = true ∧ y.id = id := by
  have hb := births hs hi
  unfold isNewOf
  simp only [Bool.and_eq_true, beq_iff_eq, decide_eq_true_eq]
  constructor
  · rintro ⟨x, hx, ⟨hp, hsome⟩, rfl⟩
    obtain ⟨y, hy⟩ := Option.isSome_iff_exists.1 hsome
    have hfate := hb.fate x hx
    rw [hy] at hfate
    obtain ⟨horigin, -⟩ := hfate.sameOrigin
    refine ⟨y, Table.mem_of_find? hy, ⟨horigin.problemId.trans hp, ?_⟩, horigin.id⟩
    rw [horigin.id]
    exact hb.lt x hx
  · rintro ⟨y, hy, ⟨hp, hlt⟩, rfl⟩
    have hrow : (s.after ms).store.row? y.id = some y := Table.find?_of_mem hy
    obtain ⟨x, hx, hid⟩ := hb.all y.id hlt (by rw [hrow]; rfl)
    have hfate := hb.fate x hx
    rw [hid, hrow] at hfate
    obtain ⟨horigin, -⟩ := hfate.sameOrigin
    refine ⟨x, hx, ⟨horigin.problemId.symm.trans hp, ?_⟩, hid⟩
    rw [hid, hrow]
    rfl

theorem kept_eq_tally (hs : s.Sound) (hi : s.Throughout Store.HasIds ms) (p : ProblemId) :
    s.kept ms p = (s.after ms).store.tally (isNewOf p s.store.lastId) := by
  unfold kept Store.tally Table.count
  rw [List.countP_eq_length_filter, List.countP_eq_length_filter,
    ← List.length_map Submission.id, ← List.length_map Submission.id]
  apply List.Perm.length_eq
  have hcreated := (births hs hi).ascend
  have hrows := (s.after ms).store.submissions.sorted
  refine (List.perm_ext_iff_of_nodup ?_ ?_).2 fun id => ?_
  · exact List.pairwise_map.2 ((hcreated.filter _).imp fun h => Int64.ne_of_lt h)
  · exact List.pairwise_map.2 ((hrows.filter _).imp fun h => Int64.ne_of_lt h)
  · simpa only [List.mem_map, List.mem_filter, and_assoc] using mem_kept_iff hs hi p id

end Arbiter.Session
