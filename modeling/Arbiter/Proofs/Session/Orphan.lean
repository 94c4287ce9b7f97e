import Arbiter.Proofs.Desk.SubmitLog
import Arbiter.Proofs.Session.Calls
import Arbiter.Proofs.Session.Lifecycle

/-!
What a submit leaves behind, with others at work on the store between its calls. A submit that
fails leaves nothing that is pending: its submission was not stored, or was removed, or was judged
before it could be removed, and then it stays as it is; and no call of the submit changes anything
else (`LeavesNothing`). A submit that succeeds has handed over its job once, with its submission
stored and pending, and does not take it back (`HandsOver`). Both is `submit_leaves_no_orphan`.
-/

namespace Arbiter

namespace Store

/-- Nothing but submissions of some ids is changed. -/
structure SameBut (own : SubmissionId → Prop) (s t : Store) : Prop where
  row : ∀ id, ¬ own id → t.row? id = s.row? id
  problems : t.problems = s.problems
  users : t.users = s.users

lemma sameBut_refl (own : SubmissionId → Prop) (s : Store) : s.SameBut own s :=
  ⟨fun _ _ => rfl, rfl, rfl⟩

lemma sameBut_create {own : SubmissionId → Prop} (s : Store) (now : Instant) (d : Draft)
    (h : own (s.create now d).1.id) : s.SameBut own (s.create now d).2 := by
  refine ⟨fun id hid => ?_, rfl, rfl⟩
  rw [row?_create, if_neg]
  rintro rfl
  exact hid h

lemma sameBut_discard {own : SubmissionId → Prop} (s : Store) {id : SubmissionId} (h : own id) :
    s.SameBut own (s.discard id).2 := by
  rcases s.discard_cases id with ⟨x, -, -, hd⟩ | hd
  · rw [hd]
    refine ⟨fun j hj => ?_, rfl, rfl⟩
    rw [row?_drop, if_neg]
    rintro rfl
    exact hj h
  · rw [hd]
    exact sameBut_refl own s

lemma isPending_of_row?_discard {s : Store} {id : SubmissionId} {y : Submission}
    (h : (s.discard id).2.row? id = some y) : y.isPending = false := by
  refine Bool.not_eq_true _ ▸ fun hp => ?_
  rcases s.discard_cases id with ⟨x, -, -, hd⟩ | hd
  · rw [hd, row?_drop, if_pos rfl] at h
    cases h
  · rw [hd] at h
    have hany : (s.submissions.find? id).any (·.isPending) = true := by
      rw [show s.submissions.find? id = some y from h]
      exact hp
    unfold discard at hd
    rw [if_pos hany] at hd
    cases hd

end Store

namespace Session

variable {s : Session} {i : Nat} {ms before rest : List Move} {m : Move}

/-! ### Single calls -/

lemma Makes.create {t : Turn} {d : Duty} {dr : Draft} {x : Submission}
    {next : Except Failure Submission → Work Ended}
    (h : s.Makes i m ⟨.store (.create dr), .ok x⟩ t d next) :
    x = (s.store.create t.now dr).1 ∧ (s.step m).store = (s.store.create t.now dr).2 := by
  obtain ⟨hx, hstore⟩ := h.run_of_ok
  exact ⟨(Except.ok.inj hx).symm, hstore⟩

lemma Makes.discard {t : Turn} {d : Duty} {id : SubmissionId} {b : Bool}
    {next : Except Failure Bool → Work Ended}
    (h : s.Makes i m ⟨.store (.discard id), .ok b⟩ t d next) :
    (s.step m).store = (s.store.discard id).2 :=
  h.run_of_ok.2

/-- The submission that a task stores is pending, and is the last one to be given an id. -/
lemma born_of_exchange? {d : Draft} {x : Submission}
    (h : s.exchange? i m = some ⟨.store (.create d), .ok x⟩) :
    (s.step m).store.row? x.id = some x ∧ (s.step m).store.lastId = x.id ∧
      x.status = .pending := by
  obtain ⟨t, _, _, hmakes⟩ := makes_of_exchange? h
  obtain ⟨hx, hstore⟩ := hmakes.create
  rw [hstore, hx]
  exact ⟨(Store.row?_create ..).trans (if_pos rfl), rfl, rfl⟩

lemma lastId_le_after (hs : s.IsFair) (hi : s.Throughout Store.HasIds ms) :
    s.store.lastId ≤ (s.after ms).store.lastId := by
  induction ms generalizing s with
  | nil => exact Int64.le_refl _
  | cons m ms ih => exact Int64.le_trans ((hs.stir m).lastId_le hi.1) (ih (hs.step m) hi.2)

/-! ### Submits -/

/-- The task stored a submission under the id. -/
def IsOwn (s : Session) (i : Nat) (ms : List Move) (id : SubmissionId) : Prop :=
  ∃ d x, ⟨.store (.create d), .ok x⟩ ∈ s.calls i ms ∧ x.id = id

/-- A task leaves nothing pending of what it stored, and changes nothing else. -/
structure LeavesNothing (s : Session) (i : Nat) (ms : List Move) : Prop where
  /-- A submission that the task stored is gone in the end, or final. -/
  settled : ∀ {before m rest d x}, s.CallAt i ms before m rest ⟨.store (.create d), .ok x⟩ →
    ∀ y, (s.after ms).store.row? x.id = some y → y.SameOrigin x ∧ y.status.isFinal = true
  /-- Once it is final, it stays as it is. -/
  kept : ∀ {before m w₁ w₂ d x},
    s.CallAt i ms before m (w₁ ++ w₂) ⟨.store (.create d), .ok x⟩ →
      ∀ y, (s.after (before ++ m :: w₁)).store.row? x.id = some y → y.status.isFinal = true →
        (s.after ms).store.row? x.id = some y
  /-- No call of the task changes anything else. -/
  others : ∀ {before m rest e}, s.CallAt i ms before m rest e →
    (s.after before).store.SameBut (s.IsOwn i ms) ((s.after before).step m).store

/-- A task stores one submission, hands over its job once while it is stored as a pending one, and
then counts it. -/
def HandsOver (s : Session) (i : Nat) (ms : List Move) (problem : ProblemId)
    (id : SubmissionId) : Prop :=
  ∃ before m rest d x counted, s.CallAt i ms before m rest ⟨.store (.create d), .ok x⟩ ∧
    (∀ e ∈ s.calls i before, e.IsLookup problem) ∧
    ((s.after before).step m).store.row? id = some x ∧ x.id = id ∧ x.status = .pending ∧
    ((s.after before).step m).calls i rest =
      [⟨.outer (.enqueue id), .ok ()⟩, ⟨.store (.countSubmit problem), counted⟩]

lemma sameBut_of_callAt {problem : ProblemId} {f : Failure} {e : Exchange WorkInterface}
    (hlog : SubmitLog problem (s.calls i ms) (.error f)) (h : s.CallAt i ms before m rest e) :
    (s.after before).store.SameBut (s.IsOwn i ms) ((s.after before).step m).store := by
  have hmem : e ∈ s.calls i ms := by
    rw [h.calls_eq]
    exact List.mem_append_right _ List.mem_cons_self
  obtain ⟨t, d, next, hmakes⟩ := makes_of_exchange? h.call
  obtain ⟨op, a⟩ := e
  rcases hlog.op_of_error hmem with hlook | ⟨dr, rfl⟩ | ⟨id, rfl⟩ | ⟨dr, x, hx, rfl⟩
  · have hstore : ((s.after before).step m).store = (s.after before).store := by
      rcases hlook with ⟨u, rfl⟩ | rfl
      · exact hmakes.run.elim And.right And.right
      · exact hmakes.run.elim And.right And.right
    rw [hstore]
    exact Store.sameBut_refl _ _
  · rcases hmakes.run with ⟨-, hstore⟩ | ⟨rfl, hstore⟩
    · rw [hstore]
      exact Store.sameBut_refl _ _
    · rw [hstore]
      exact Store.sameBut_create _ _ _ ⟨dr, _, hmem, rfl⟩
  · rw [hmakes.store]
    exact Store.sameBut_refl _ _
  · rcases hmakes.run with ⟨-, hstore⟩ | ⟨-, hstore⟩
    · rw [hstore]
      exact Store.sameBut_refl _ _
    · rw [hstore]
      exact Store.sameBut_discard _ ⟨dr, x, hx, rfl⟩

/-- After a discard that does not fail, nothing pending is stored under the id any more. -/
lemma isFinal_of_discarded (hs : s.IsFair) (hi : s.Throughout Store.HasIds ms)
    {id : SubmissionId} {b : Bool} (h : s.CallAt i ms before m rest ⟨.store (.discard id), .ok b⟩)
    (hid : id ≤ s.store.lastId) {y : Submission} (hy : (s.after ms).store.row? id = some y) :
    y.status.isFinal = true := by
  rw [h.split, throughout_append] at hi
  rw [h.split, after_append, after_cons] at hy
  obtain ⟨hbefore, him, hrest⟩ := hi
  have hfair := hs.after before
  have hlater := Int64.le_trans hid (lastId_le_after hs hbefore)
  obtain ⟨t, _, _, hmakes⟩ := makes_of_exchange? h.call
  have hfate := fate_after (hfair.step m) hrest
    (Int64.le_trans hlater ((hfair.stir m).lastId_le him))
  have hstore := hmakes.discard
  rcases hrow : ((s.after before).step m).store.row? id with _ | z
  · rw [hrow, hy] at hfate
    cases hfate
  · rw [hrow, hy] at hfate
    rw [hstore] at hrow
    have hz := Store.isPending_of_row?_discard hrow
    cases hfate.eq_of_isFinal hz
    exact Submission.isPending_eq_false.1 hz

lemma kept_of_callAt (hs : s.IsFair) (hi : s.Throughout Store.HasIds ms) {w₁ w₂ : List Move}
    {d : Draft} {x : Submission}
    (h : s.CallAt i ms before m (w₁ ++ w₂) ⟨.store (.create d), .ok x⟩) {y : Submission}
    (hy : (s.after (before ++ m :: w₁)).store.row? x.id = some y)
    (hfinal : y.status.isFinal = true) : (s.after ms).store.row? x.id = some y := by
  obtain ⟨-, hlast, -⟩ := born_of_exchange? h.call
  rw [h.split, throughout_append] at hi
  obtain ⟨-, -, hi⟩ := hi
  obtain ⟨hi₁, hi₂⟩ := throughout_append.1 hi
  rw [after_append, after_cons] at hy
  have hfair := (hs.after before).step m
  have hid : x.id ≤ (((s.after before).step m).after w₁).store.lastId := by
    rw [← hlast]
    exact lastId_le_after hfair hi₁
  have hfate := fate_after (hfair.after w₁) hi₂ hid
  rw [hy] at hfate
  rw [h.split, after_append, after_cons, after_append]
  exact hfate.eq_of_isFinal (Submission.isPending_eq_false.2 hfinal)

/-- A submission that is there in the end, of those that a failed submit stored, is final. -/
lemma settled_of_log (hs : s.IsFair) (hi : s.Throughout Store.HasIds ms) {problem : ProblemId}
    {f : Failure} (hlog : SubmitLog problem (s.calls i ms) (.error f))
    (hdiscard : ∀ id g, ⟨.store (.discard id), .error g⟩ ∉ s.calls i ms) {d : Draft}
    {x : Submission} (h : s.CallAt i ms before m rest ⟨.store (.create d), .ok x⟩)
    {y : Submission} (hy : (s.after ms).store.row? x.id = some y) :
    y.SameOrigin x ∧ y.status.isFinal = true := by
  have hcalls := h.calls_eq
  rw [hcalls] at hlog hdiscard
  obtain ⟨-, ⟨g, removed, -, hrest⟩ | ⟨counted, hr, -⟩⟩ := hlog.of_created
  swap
  · cases hr
  rcases removed with g' | b
  · exact absurd (by rw [hrest]; simp) (hdiscard x.id g')
  obtain ⟨hborn, hlast, -⟩ := born_of_exchange? h.call
  rw [h.split, throughout_append] at hi
  obtain ⟨-, -, hi⟩ := hi
  rw [h.split, after_append, after_cons] at hy
  have hfair := (hs.after before).step m
  have hfate := fate_after hfair hi (Int64.le_of_eq hlast.symm)
  rw [hborn, hy] at hfate
  refine ⟨hfate.sameOrigin.1, ?_⟩
  have hdiscards : ((s.after before).step m).calls i rest =
      [⟨.outer (.enqueue x.id), .error g⟩] ++ ⟨.store (.discard x.id), .ok b⟩ :: [] := hrest
  obtain ⟨n₁, m', n₂, hat, -, -⟩ := exists_callAt hdiscards
  exact isFinal_of_discarded hfair hi hat (Int64.le_of_eq hlast.symm) hy

/-- A submit that failed, and whose discard did not, leaves nothing pending. -/
lemma leavesNothing_of_log (hs : s.IsFair) (hi : s.Throughout Store.HasIds ms)
    {problem : ProblemId} {f : Failure} (hlog : SubmitLog problem (s.calls i ms) (.error f))
    (hdiscard : ∀ id g, ⟨.store (.discard id), .error g⟩ ∉ s.calls i ms) :
    s.LeavesNothing i ms where
  settled h _ hy := settled_of_log hs hi hlog hdiscard h hy
  kept h _ hy hfinal := kept_of_callAt hs hi h hy hfinal
  others h := sameBut_of_callAt hlog h

lemma handsOver_of_log {problem : ProblemId} {id : SubmissionId}
    (hlog : SubmitLog problem (s.calls i ms) (.ok id)) : s.HandsOver i ms problem id := by
  generalize hcalls : s.calls i ms = log at hlog
  cases hlog with
  | @accepted looks hlooks d x counted =>
    obtain ⟨before, m, rest, hat, rfl, hrest⟩ := exists_callAt hcalls
    obtain ⟨hborn, -, hpending⟩ := born_of_exchange? hat.call
    exact ⟨before, m, rest, d, x, counted, hat, hlooks, hborn, rfl, hpending, hrest⟩

/-- **A failed submit leaves no orphan.** Whoever works on the store between its calls, and however
those are answered, as long as ids last and its discard does not fail, a submit that came to an
error has left nothing pending and changed nothing else, and one that came to an id has handed over
the job of that id. -/
theorem submit_leaves_no_orphan (s : Store) (i : Nat) (ms : List Move)
    (hi : (opened s).Throughout Store.HasIds ms) {c : Caller} {problem : ProblemId}
    {language code : String} {r : Except Failure SubmissionId}
    (hdone : ((opened s).after ms).tasks[i]? =
      some ⟨.submit c problem language code, .done (.submitted r)⟩)
    (hdiscard : ∀ id f, ⟨.store (.discard id), .error f⟩ ∉ (opened s).calls i ms) :
    (∀ f, r = .error f → (opened s).LeavesNothing i ms) ∧
      ∀ id, r = .ok id → (opened s).HandsOver i ms problem id := by
  have hlog := submitLog_of_leads (leads_calls s i ms hdone)
  constructor
  · rintro f rfl
    exact leavesNothing_of_log (isFair_opened s) hi hlog hdiscard
  · rintro id rfl
    exact handsOver_of_log hlog

/-- A submission that is accepted before its job is refused stays, as it is. -/
theorem submit_leaves_no_orphan_judged : ∃ y,
    ((opened smallStore).after (submitMoves ++ .turn (smoothTurn 0) :: judgeMoves)).store.row? 1 =
      some y ∧ y.status = .accepted ∧
    ((opened smallStore).after refusedMoves).store.row? 1 = some y := by
  have hcalls : ∀ id f,
      ⟨.store (.discard id), .error f⟩ ∉ (opened smallStore).calls 0 refusedMoves := by
    have hlog : (opened smallStore).calls 0 refusedMoves =
      [⟨_, _⟩, ⟨_, _⟩, ⟨_, _⟩, ⟨_, _⟩, ⟨.store (.discard 1), .ok false⟩] := rfl
    intro id f hmem
    rw [hlog] at hmem
    simp at hmem
  have h := (submit_leaves_no_orphan smallStore 0 refusedMoves (by decide) rfl hcalls).1 _ rfl
  have hstored : (opened smallStore).CallAt 0 refusedMoves submitMoves (.turn (smoothTurn 0))
      (judgeMoves ++ [.turn (refusingTurn 0), .turn (smoothTurn 0)])
      ⟨.store (.create _), .ok _⟩ := ⟨rfl, rfl⟩
  exact ⟨_, rfl, rfl, h.kept hstored _ rfl rfl⟩

end Session

end Arbiter
