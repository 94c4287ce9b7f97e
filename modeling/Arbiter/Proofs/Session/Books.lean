import Arbiter.Proofs.Session.AcceptedCount
import Arbiter.Proofs.Session.Created

/-!
A problem's counter of submissions in a session in which no call to the store fails. A submit has
a submission of its own from the moment that it stored it to the call that counts it or takes it
back, and in between it `holds` one that is stored and not counted. So at every moment the new
submissions that are stored are those counted, those held, and those whose submit found nothing
pending to take back (`Books`, `books_after`).
-/

namespace Arbiter

/-! ### Submits on their way -/

namespace SubmitPlace

/-- The submit has a submission that is neither counted nor taken back. -/
def isHolding : SubmitPlace → Bool
  | stored _ | handedOver _ | refused _ => true
  | arriving | admitted | counted _ | takenBack _ => false

/-- A submission that may be taken back is one to the problem, under an id above `last`. -/
def Fits (last : SubmissionId) (problem : ProblemId) (s : Store) : SubmitPlace → Prop
  | stored id | refused id =>
    last < id ∧ id ≤ s.lastId ∧ ∀ x, s.row? id = some x → x.problemId = problem
  | _ => True

end SubmitPlace

/-- The call settles what becomes of a submission that was just stored. -/
def WorkCall.isSettling : WorkCall → Bool
  | .outer (.enqueue _) | .store (.countSubmit _) | .store (.discard _) => true
  | _ => false

/-- The task is a submit to the problem that has stored its submission and is not through. -/
def Task.holds (p : ProblemId) : Task → Bool
  | ⟨.submit _ problem _ _, .ask op _⟩ => problem == p && op.isSettling
  | _ => false

/-- What is left of a task goes with its duty. -/
inductive Task.InOrder (last : SubmissionId) (s : Store) : Task → Prop
  | submit {c : Caller} {problem : ProblemId} {language code : String} {w : Work Ended}
      {place : SubmitPlace} (hw : w.Keeps (submitCourse problem) submitEnds place)
      (hp : place.Fits last problem s) : InOrder last s ⟨.submit c problem language code, w⟩
  | judging {d : Duty} {w : Work Ended} (hd : d.isJudging = true)
      (hw : w.Asks WorkCall.IsJudging) : InOrder last s ⟨d, w⟩

lemma holds_submit {p problem : ProblemId} {c : Caller} {language code : String} {w : Work Ended}
    {place : SubmitPlace} (hw : w.Keeps (submitCourse problem) submitEnds place) :
    Task.holds p ⟨.submit c problem language code, w⟩ = (problem == p && place.isHolding) := by
  cases w with
  | done e =>
    cases place with
    | stored | handedOver | refused => exact hw.elim
    | _ => simp [Task.holds, SubmitPlace.isHolding]
  | ask op next =>
    have hop : WorkCall.isSettling op = place.isHolding := by
      obtain ⟨hmay, -⟩ := hw
      cases place with
      | arriving => rcases hmay with ⟨u, rfl⟩ | rfl <;> rfl
      | admitted => obtain ⟨d, -, rfl⟩ := hmay; rfl
      | stored | handedOver | refused => rw [show op = _ from hmay]; rfl
      | counted | takenBack => exact hmay.elim
    show (problem == p && WorkCall.isSettling op) = _
    rw [hop]

lemma holds_judging {p : ProblemId} {d : Duty} (hd : d.isJudging = true) (w : Work Ended) :
    Task.holds p ⟨d, w⟩ = false := by
  cases d with
  | submit => cases hd
  | _ => rfl

/-! ### One call -/

/-- The books of a problem before a call and after it: new submissions that are stored, against
those held, counted and left behind. -/
def Balanced (p : ProblemId) (last : SubmissionId) (s u : Store) (held held' left : Nat) : Prop :=
  ∀ q, s.problems.find? p = some q → ∃ q', u.problems.find? p = some q' ∧
    (u.tally (Session.isNewOf p last) : Int) + held =
      s.tally (Session.isNewOf p last) + held' +
        (q'.submitCount.toInt - q.submitCount.toInt) + left

lemma balanced_refl (p : ProblemId) (last : SubmissionId) (s : Store) (held : Nat) :
    Balanced p last s s held held 0 :=
  fun q hq => ⟨q, hq, by omega⟩

section Call

variable {s : Store} {last : SubmissionId} {p problem : ProblemId}

/-- A submission is stored, and held. -/
lemma balanced_create (hlast : last ≤ s.lastId) (hs : s.Numbered) (hi : s.HasIds) (now : Instant)
    {d : Draft} (hd : d.problemId = problem) :
    Balanced p last s (s.create now d).2 0 (problem == p).toNat 0 := by
  intro q hq
  refine ⟨q, hq, ?_⟩
  have hlt : last < (s.create now d).1.id := Int64.lt_of_le_of_lt hlast (Store.lastId_lt_next hi)
  have hproblem : (s.create now d).1.problemId = problem := hd
  rw [Store.tally_create _ hs hi, Session.isNewOf_of_lt hproblem hlt]
  omega

lemma balanced_countSubmit (hc : s.HasCounts p) (now : Instant) :
    Balanced p last s (s.run now (.countSubmit problem)).2 (problem == p).toNat 0 0 := by
  intro q hq
  rcases hr : s.problems.find? problem with _ | r
  · have hne : problem ≠ p := by rintro rfl; rw [hq] at hr; cases hr
    simp only [Store.run, Store.countSubmit, hr, Option.map_none, beq_false_of_ne hne]
    exact balanced_refl p last s 0 q hq
  · simp only [Store.run, Store.countSubmit, hr, Option.map_some]
    obtain rfl : r.id = problem := Table.key_of_find? hr
    by_cases hp : r.id = p
    · subst hp
      rw [hq] at hr
      cases hr
      refine ⟨_, Table.find?_insert_self _ _, ?_⟩
      simp only [Store.toInt_add_one (hc q hq).1, beq_self_eq_true, Bool.toNat_true]
      show (s.tally _ : Int) + _ = _
      omega
    · refine ⟨q, (Table.find?_insert_of_ne _ (Ne.symm hp)).trans hq, ?_⟩
      show (s.tally _ : Int) + _ = _
      rw [beq_false_of_ne hp, Bool.toNat_false]
      omega

/-- A submission that was held is taken back, or left behind. -/
lemma balanced_discard {id : SubmissionId} (hid : last < id)
    (hx : ∀ x, s.row? id = some x → x.problemId = problem) :
    Balanced p last s (s.discard id).2 (problem == p).toNat 0
      (!(s.discard id).1 && problem == p).toNat := by
  intro q hq
  rcases s.discard_cases id with ⟨x, hrow, hp, hdiscard⟩ | hdiscard
  · rw [hdiscard]
    refine ⟨q, hq, ?_⟩
    have htally := Store.tally_drop (Session.isNewOf p last) hrow
    rw [← Store.id_of_row? hrow] at hid
    rw [Session.isNewOf_of_lt (hx x hrow) hid] at htally
    simp only [Bool.not_true, Bool.false_and, Bool.toNat_false]
    omega
  · rw [hdiscard]
    exact ⟨q, hq, by simp⟩

lemma balanced_judging (now : Instant) {c : StoreCall} (hc : c.IsJudging) :
    Balanced p last s (s.run now c).2 0 0 0 := by
  rcases Store.run_of_isJudging now s hc with h | ⟨x, v, hx, hp, hv, h⟩
  · rw [h]
    exact balanced_refl p last s 0
  · rw [h]
    intro q hq
    refine ⟨_, Store.problem_settle hq _, ?_⟩
    have htally := Store.tally_settle (Session.isNewOf p last) (s := s) (y := x.judged v now)
      (Store.find?_eq_some.1 hx).1
    have hsame : Session.isNewOf p last (x.judged v now) = Session.isNewOf p last x := rfl
    rw [hsame] at htally
    simp only
    omega

end Call

/-! ### One turn -/

section Turn

variable {s : Store} {last : SubmissionId} {p problem : ProblemId} {t : Turn}

/-- How many submissions to the problem `p` a submit to `problem` holds. -/
def SubmitPlace.held (place : SubmitPlace) (p problem : ProblemId) : Nat :=
  (problem == p && place.isHolding).toNat

lemma held_of_isHolding {place : SubmitPlace} (h : place.isHolding = true) :
    place.held p problem = (problem == p).toNat := by
  unfold SubmitPlace.held
  rw [h, Bool.and_true]

lemma held_of_not_isHolding {place : SubmitPlace} (h : place.isHolding = false) :
    place.held p problem = 0 := by
  unfold SubmitPlace.held
  rw [h, Bool.and_false]
  rfl

/-- **A turn of a submit** fits and is balanced, from each place. -/
lemma submit_turn {place : SubmitPlace} {op : WorkCall} (hmay : (submitCourse problem).may place op)
    (hp : place.Fits last problem s) (hf : t.fault = none) (hlast : last ≤ s.lastId)
    (hs : s.Numbered) (hi : s.HasIds) (hc : s.HasCounts p) (c : Caller) (language code : String) :
    ((submitCourse problem).next place op (t.answer s op).1).Fits last problem (t.answer s op).2 ∧
    Balanced p last s (t.answer s op).2 (place.held p problem)
      (((submitCourse problem).next place op (t.answer s op).1).held p problem)
      (Event.isRefusedRollback p
        ⟨.submit c problem language code, op, (t.answer s op).1⟩).toNat := by
  cases place with
  | arriving =>
    rcases hmay with ⟨u, rfl⟩ | rfl
    · rw [Turn.answer_store hf]
      exact ⟨trivial, balanced_refl p last s _⟩
    · rw [Turn.answer_store hf]
      rcases hr : s.problems.find? problem with _ | r
      · simp only [Store.run, hr]
        exact ⟨trivial, balanced_refl p last s _⟩
      · simp only [Store.run, hr]
        exact ⟨trivial, balanced_refl p last s _⟩
  | admitted =>
    obtain ⟨d, hd, rfl⟩ := hmay
    rw [Turn.answer_store hf]
    have hlt := Store.lastId_lt_next hi
    refine ⟨⟨Int64.lt_of_le_of_lt hlast hlt, Int64.le_refl _, fun x hx => ?_⟩, ?_⟩
    · change (s.create t.now d).2.row? (s.lastId + 1) = some x at hx
      rw [Store.row?_create, if_pos rfl] at hx
      cases hx
      exact hd
    · show Balanced p last s (s.create t.now d).2 (SubmitPlace.held .admitted p problem)
        (SubmitPlace.held (.stored _) p problem) 0
      rw [held_of_not_isHolding rfl, held_of_isHolding rfl]
      exact balanced_create hlast hs hi t.now hd
  | stored id =>
    obtain rfl : op = .outer (.enqueue id) := hmay
    -- handed over or refused, the submission is held until the next call
    have hanswer : t.answer s (.outer (.enqueue id)) = (t.told (.enqueue id), s) := rfl
    rw [hanswer]
    rcases t.told (.enqueue id) with f | _
    · exact ⟨hp, balanced_refl p last s _⟩
    · exact ⟨trivial, balanced_refl p last s _⟩
  | handedOver id =>
    obtain rfl : op = .store (.countSubmit problem) := hmay
    rw [Turn.answer_store hf]
    refine ⟨trivial, ?_⟩
    show Balanced p last s _ (SubmitPlace.held (.handedOver id) p problem)
      (SubmitPlace.held (.counted id) p problem) 0
    rw [held_of_isHolding rfl, held_of_not_isHolding rfl]
    exact balanced_countSubmit hc t.now
  | refused id =>
    obtain rfl : op = .store (.discard id) := hmay
    rw [Turn.answer_store hf]
    refine ⟨trivial, ?_⟩
    have hleft : Event.isRefusedRollback p ⟨.submit c problem language code, .store (.discard id),
        .ok (s.discard id).1⟩ = (!(s.discard id).1 && problem == p) := by
      cases (s.discard id).1 <;> rfl
    show Balanced p last s (s.discard id).2 (SubmitPlace.held (.refused id) p problem)
      (SubmitPlace.held (.takenBack id) p problem) (Event.isRefusedRollback p
        ⟨.submit c problem language code, .store (.discard id), .ok (s.discard id).1⟩).toNat
    rw [held_of_isHolding rfl, held_of_not_isHolding rfl, hleft]
    exact balanced_discard hp.1 hp.2.2
  | counted | takenBack => exact hmay.elim

/-- **A turn of any task** is in order and balanced. -/
theorem Task.InOrder.turn {d : Duty} {op : WorkCall} {next : WorkInterface.Answer op → Work Ended}
    (h : Task.InOrder last s ⟨d, .ask op next⟩) (hf : t.fault = none) (hlast : last ≤ s.lastId)
    (hs : s.Numbered) (hi : s.HasIds) (hc : s.HasCounts p) :
    Task.InOrder last (t.answer s op).2 ⟨d, next (t.answer s op).1⟩ ∧
    Balanced p last s (t.answer s op).2 (Task.holds p ⟨d, .ask op next⟩).toNat
      (Task.holds p ⟨d, next (t.answer s op).1⟩).toNat
      (Event.isRefusedRollback p ⟨d, op, (t.answer s op).1⟩).toNat := by
  cases h with
  | @submit c problem language code _ place hw hp =>
    obtain ⟨hfits, hbalanced⟩ := submit_turn hw.1 hp hf hlast hs hi hc c language code
    have hnext := hw.2 (t.answer s op).1
    rw [holds_submit hw, holds_submit hnext]
    exact ⟨.submit hnext hfits, hbalanced⟩
  | judging hd hw =>
    refine ⟨.judging hd (hw.2 _), ?_⟩
    have hleft : Event.isRefusedRollback p ⟨d, op, (t.answer s op).1⟩ = false := by
      cases d with
      | submit => cases hd
      | _ => rfl
    rw [holds_judging hd, holds_judging hd, hleft]
    rcases op with c | c
    · rw [Turn.answer_store hf]
      exact balanced_judging t.now hw.1
    · exact balanced_refl p last s 0

end Turn

lemma Task.InOrder.later {last : SubmissionId} {s u : Store} {x : Task} (h : x.InOrder last s)
    (hle : s.lastId ≤ u.lastId) (hfate : ∀ id, id ≤ s.lastId → Fate (s.row? id) (u.row? id)) :
    x.InOrder last u := by
  cases h with
  | judging hd hw => exact .judging hd hw
  | @submit c problem language code w place hw hp =>
    refine .submit hw ?_
    have hrow : ∀ id, id ≤ s.lastId → (∀ x, s.row? id = some x → x.problemId = problem) →
        ∀ x, u.row? id = some x → x.problemId = problem := by
      intro id hid hx y hy
      have h := hfate id hid
      rw [hy] at h
      generalize hr : s.row? id = r at h
      cases h with
      | same => exact hx y hr
      | @judged x => exact hx x hr
    cases place with
    | stored id | refused id =>
      exact ⟨hp.1, Int64.le_trans hp.2.1 hle, hrow id hp.2.1 hp.2.2⟩
    | _ => trivial

namespace Session

/-! ### Books -/

/-- The books of a problem, `surplus` being what new submissions that are neither counted nor held
come to, less what the counter was. -/
structure Books (p : ProblemId) (last : SubmissionId) (surplus : Int) (s : Session) : Prop where
  tasks : ∀ x ∈ s.tasks, x.InOrder last s.store
  last_le : last ≤ s.store.lastId
  balance : ∃ q, s.store.problems.find? p = some q ∧
    (s.store.tally (isNewOf p last) : Int) =
      q.submitCount.toInt + surplus + s.tasks.countP (Task.holds p)

/-- How many submissions to the problem submits left behind: their jobs were refused, and they were
not pending any more. -/
def leftBehind (p : ProblemId) (es : List Event) : Nat := es.countP (Event.isRefusedRollback p)

lemma countP_set_add {l : List Task} {i : Nat} {x : Task} (h : l[i]? = some x) (y : Task)
    (f : Task → Bool) : (l.set i y).countP f + (f x).toNat = l.countP f + (f y).toNat := by
  obtain ⟨hi, rfl⟩ := List.getElem?_eq_some_iff.1 h
  have hle := List.boole_getElem_le_countP (p := f) hi
  have hle : (f l[i]).toNat ≤ l.countP f := by
    cases hx : f l[i]
    · exact Nat.zero_le _
    · simpa [hx] using hle
  have hset : (l.set i y).countP f = l.countP f - (f l[i]).toNat + (f y).toNat := by
    rw [List.countP_set hi]
    cases f l[i] <;> cases f y <;> rfl
  omega

variable {p : ProblemId} {last : SubmissionId} {surplus : Int} {s : Session}

lemma Books.turn (h : Books p last surplus s) (hs : s.Sound) (hi : s.store.HasIds)
    (hc : s.store.HasCounts p) {t : Turn} (hf : t.fault = none) :
    Books p last (surplus + leftBehind p (s.heard? t).toList) (s.take t) := by
  rcases s.take_cases t with ⟨htake, hheard⟩ | ⟨d, op, next, hget, htake, hheard⟩
  · rw [htake, hheard]
    simpa [leftBehind] using h
  · have hstir := hs.fair.stir (.turn t)
    have hin := h.tasks _ (List.mem_of_getElem? hget)
    obtain ⟨hnext, hbalanced⟩ := hin.turn hf h.last_le hs.numbered hi hc
    obtain ⟨q, hq, hbalance⟩ := h.balance
    obtain ⟨q', hq', hcall⟩ := hbalanced q hq
    have hstore : (s.take t).store = (t.answer s.store op).2 := by rw [htake]
    refine ⟨fun x hx => ?_, Int64.le_trans h.last_le (hstir.lastId_le hi), ?_⟩
    · rw [htake] at hx ⊢
      rcases List.mem_or_eq_of_mem_set hx with hx | rfl
      · rw [← hstore]
        exact (h.tasks x hx).later (hstir.lastId_le hi) fun id hid => hstir.fate hi hid
      · exact hnext
    · rw [htake, hheard]
      refine ⟨q', hq', ?_⟩
      have hcount := countP_set_add hget ⟨d, next (t.answer s.store op).1⟩ (Task.holds p)
      have hleft : leftBehind p (some (Event.mk d op (t.answer s.store op).1)).toList =
          (Event.isRefusedRollback p ⟨d, op, (t.answer s.store op).1⟩).toNat := by
        unfold leftBehind
        rw [Option.toList_some, List.countP_cons, List.countP_nil]
        cases Event.isRefusedRollback p ⟨d, op, (t.answer s.store op).1⟩ <;> rfl
      rw [hleft]
      simp only
      omega

lemma later_same (h : ∀ x ∈ s.tasks, x.InOrder last s.store) {u : Store}
    (hlast : u.lastId = s.store.lastId) (hrows : u.submissions = s.store.submissions) :
    ∀ x ∈ s.tasks, x.InOrder last u := by
  intro x hx
  refine (h x hx).later (Int64.le_of_eq hlast.symm) fun id _ => ?_
  have hrow : u.row? id = s.store.row? id := by unfold Store.row?; rw [hrows]
  rw [hrow]
  exact .same _

lemma Books.step (h : Books p last surplus s) (hs : s.Sound) (hi : s.store.HasIds)
    (hc : s.store.HasCounts p) {m : Move} (hm : m.spares p = true) (hf : m.isSmooth = true)
    (hd : m.beginsNoDiscard = true) :
    Books p last (surplus + leftBehind p (s.event? m).toList) (s.step m) := by
  cases m with
  | turn t =>
    have hf : t.fault = none := by simpa [Move.isSmooth] using hf
    exact h.turn hs hi hc hf
  | start d =>
    -- a task that begins is in order, and holds nothing yet
    have hnew : Task.InOrder last s.store ⟨d, d.work⟩ := by
      cases d with
      | submit c problem language code =>
        exact .submit (keeps_submit problem c language code) trivial
      | discard id => cases hd
      | _ => exact .judging rfl (asks_judging rfl)
    have hholds : Task.holds p ⟨d, d.work⟩ = false := by
      cases d with
      | submit c problem language code =>
        rw [holds_submit (keeps_submit problem c language code), SubmitPlace.isHolding,
          Bool.and_false]
      | discard id => cases hd
      | _ => rfl
    have hcount : (s.tasks ++ [Task.mk d d.work]).countP (Task.holds p) =
        s.tasks.countP (Task.holds p) := by
      rw [List.countP_append, List.countP_cons, hholds]
      rfl
    have hsurplus : surplus + leftBehind p (s.event? (.start d)).toList = surplus := Int.add_zero _
    obtain ⟨q, hq, hbalance⟩ := h.balance
    rw [hsurplus]
    refine ⟨fun x hx => ?_, h.last_le, q, hq, ?_⟩
    · rcases List.mem_append.1 hx with hx | hx
      · exact h.tasks x hx
      · rw [List.mem_singleton.1 hx]
        exact hnew
    · rw [← hcount] at hbalance
      exact hbalance
  | insertUser u =>
    have hsurplus : surplus + leftBehind p (s.event? (.insertUser u)).toList = surplus :=
      Int.add_zero _
    rw [hsurplus]
    exact ⟨later_same h.tasks rfl rfl, h.last_le, h.balance⟩
  | insertProblem r =>
    have hsurplus : surplus + leftBehind p (s.event? (.insertProblem r)).toList = surplus :=
      Int.add_zero _
    obtain ⟨q, hq, hbalance⟩ := h.balance
    rw [hsurplus]
    exact ⟨later_same h.tasks rfl rfl, h.last_le, q,
      (Table.find?_insert_of_ne _ (Move.ne_of_spares hm)).trans hq, hbalance⟩

/-- **The books over a run.** -/
lemma books_after (h : Books p last surplus s) (hs : s.Sound) {ms : List Move}
    (hi : s.Throughout Store.HasIds ms) (hc : s.Throughout (Store.HasCounts p) ms)
    (hm : ∀ m ∈ ms, m.spares p = true ∧ m.isSmooth = true ∧ m.beginsNoDiscard = true) :
    Books p last (surplus + leftBehind p (s.trace ms)) (s.after ms) := by
  induction ms generalizing s surplus with
  | nil => exact (Int.add_zero surplus).symm ▸ h
  | cons m ms ih =>
    obtain ⟨⟨hspares, hsmooth, hkeeps⟩, hms⟩ := List.forall_mem_cons.1 hm
    have hstep := h.step hs hi.1 hc.1 hspares hsmooth hkeeps
    have hrest := ih hstep (hs.step hi.1 m) hi.2 hc.2 hms
    have hsum : surplus + leftBehind p (s.trace (m :: ms)) =
        surplus + leftBehind p (s.event? m).toList + leftBehind p ((s.step m).trace ms) := by
      show surplus + (((s.event? m).toList ++ (s.step m).trace ms).countP _ : Nat) = _
      rw [List.countP_append, Int.natCast_add, Int.add_assoc]
      rfl
    rw [hsum]
    exact hrest

lemma books_opened {s : Store} (hs : s.Numbered) {q : Problem}
    (hq : s.problems.find? p = some q) : Books p s.lastId (-q.submitCount.toInt) (opened s) := by
  refine ⟨fun x hx => absurd hx List.not_mem_nil, Int64.le_refl _, q, hq, ?_⟩
  have hnone : s.tally (isNewOf p s.lastId) = 0 := by
    refine List.countP_eq_zero.2 fun y hy hnew => ?_
    have hle := hs.le_of_row? (Table.find?_of_mem hy)
    simp only [isNewOf, Bool.and_eq_true, decide_eq_true_eq] at hnew
    exact Int64.lt_irrefl (Int64.lt_of_lt_of_le hnew.2 hle)
  show (s.tally _ : Int) = _ + (0 : Nat)
  rw [hnone]
  omega

end Session

end Arbiter
