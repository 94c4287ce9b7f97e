import Arbiter.Proofs.Table.Count
import Arbiter.Store.Call

/-!
What one call may do to a store, apart from storing a new submission (`Effect`), and what this
means for the stored submission of one id (`Fate`): it stays as it is, or it was pending and gets
its verdict, or it was pending and is removed. A submission that is final stays, whatever follows
(`Fate.eq_of_isFinal`). New submissions come under ids that nothing is stored under, as long as
the ids do not run out (`Numbered`).
-/

namespace Arbiter

namespace Store

/-! ### Stored submissions -/

/-- The stored submission of an id, deleted or not. -/
def row? (s : Store) (id : SubmissionId) : Option Submission := s.submissions.find? id

lemma id_of_row? {s : Store} {id : SubmissionId} {x : Submission} (h : s.row? id = some x) :
    x.id = id :=
  Table.key_of_find? h

lemma find?_eq_some {s : Store} {id : SubmissionId} {x : Submission} :
    s.find? id = some x ↔ s.row? id = some x ∧ x.isDeleted = false := by
  unfold find? row?
  rw [Option.filter_eq_some_iff, Bool.not_eq_true']

/-- The store with `x` under its id. -/
def put (s : Store) (x : Submission) : Store := { s with submissions := s.submissions.insert x }

/-- The store without the submission of an id. -/
def drop (s : Store) (id : SubmissionId) : Store := { s with submissions := s.submissions.erase id }

lemma row?_put (s : Store) (x : Submission) (id : SubmissionId) :
    (s.put x).row? id = if id = x.id then some x else s.row? id :=
  Table.find?_insert s.submissions x id

lemma row?_drop (s : Store) (j id : SubmissionId) :
    (s.drop j).row? id = if id = j then none else s.row? id :=
  Table.find?_erase s.submissions j id

@[simp] lemma put_lastId (s : Store) (x : Submission) : (s.put x).lastId = s.lastId := rfl

@[simp] lemma put_problems (s : Store) (x : Submission) : (s.put x).problems = s.problems := rfl

@[simp] lemma countAccepted_submissions (s : Store) (p : ProblemId) :
    (s.countAccepted p).submissions = s.submissions := by
  unfold countAccepted; split <;> rfl

@[simp] lemma countAccepted_lastId (s : Store) (p : ProblemId) :
    (s.countAccepted p).lastId = s.lastId := by
  unfold countAccepted; split <;> rfl

@[simp] lemma row?_countAccepted (s : Store) (p : ProblemId) (id : SubmissionId) :
    (s.countAccepted p).row? id = s.row? id := by
  unfold row?; rw [countAccepted_submissions]

/-- The store with `x` under its id, and counted if it is accepted. -/
def settle (s : Store) (x : Submission) : Store :=
  if x.status = .accepted then (s.put x).countAccepted x.problemId else s.put x

@[simp] lemma row?_settle (s : Store) (x : Submission) (id : SubmissionId) :
    (s.settle x).row? id = if id = x.id then some x else s.row? id := by
  unfold settle
  split
  · rw [row?_countAccepted, row?_put]
  · rw [row?_put]

@[simp] lemma settle_lastId (s : Store) (x : Submission) : (s.settle x).lastId = s.lastId := by
  unfold settle; split <;> simp

lemma settle_submissions (s : Store) (x : Submission) :
    (s.settle x).submissions = s.submissions.insert x := by
  unfold settle put
  split
  · rw [countAccepted_submissions]
  · rfl

/-! ### What the changing calls do -/

lemma pending_or_not (r : Option Submission) :
    (∃ x, r = some x ∧ x.isPending = true) ∨ ∀ x, r = some x → x.isPending = false := by
  rcases r with _ | x
  · exact .inr fun x hx => by cases hx
  · cases hx : x.isPending
    · exact .inr fun y hy => by cases hy; exact hx
    · exact .inl ⟨x, rfl, hx⟩

theorem discard_cases (s : Store) (id : SubmissionId) :
    (∃ x, s.row? id = some x ∧ x.isPending = true ∧ s.discard id = (true, s.drop id)) ∨
      s.discard id = (false, s) := by
  unfold discard
  rcases pending_or_not (s.row? id) with ⟨x, hx, hp⟩ | h
  · refine .inl ⟨x, hx, hp, if_pos ?_⟩
    show (s.row? id).any _ = true
    rw [hx]
    exact hp
  · refine .inr (if_neg ?_)
    show ¬ (s.row? id).any _ = true
    rcases hx : s.row? id with _ | x
    · simp
    · simp [h x hx]

lemma complete_of_isPending {s : Store} {id : SubmissionId} {x : Submission}
    (hx : s.find? id = some x) (hp : x.isPending) (now : Instant) (v : Verdict) :
    s.complete now id v = (some (x.judged v now), s.settle (x.judged v now)) := by
  unfold complete settle
  rw [hx, Option.filter_some, if_pos hp]
  rfl

lemma complete_of_not_isPending {s : Store} {id : SubmissionId}
    (h : ∀ x, s.find? id = some x → x.isPending = false) (now : Instant) (v : Verdict) :
    s.complete now id v = (none, s) := by
  unfold complete
  have hn : (s.find? id).filter (·.isPending) = none := by
    rcases hx : s.find? id with _ | x
    · rfl
    · simp [h x hx]
  rw [hn]

end Store

/-! ### The effect of a call -/

namespace StoreCall

/-- A verdict is written with a final status only. -/
def IsFair : StoreCall → Prop
  | complete _ v => v.status.isFinal = true
  | _ => True

/-- The call looks something up, or writes a final verdict. -/
def IsJudging : StoreCall → Prop
  | complete _ v => v.status.isFinal = true
  | create _ | discard _ | countSubmit _ => False
  | _ => True

lemma IsJudging.isFair {c : StoreCall} (h : c.IsJudging) : c.IsFair := by
  cases c with
  | complete => exact h
  | _ => trivial

end StoreCall

namespace Store

/-- What a store may become by one fair call that stores nothing new. -/
inductive Effect (s : Store) : Store → Prop
  | nothing : Effect s s
  | discarded {id : SubmissionId} {x : Submission} (hx : s.row? id = some x)
      (hp : x.isPending = true) : Effect s (s.drop id)
  | judged {x : Submission} (hx : s.find? x.id = some x) (hp : x.isPending = true) (v : Verdict)
      (hv : v.status.isFinal = true) (now : Instant) : Effect s (s.settle (x.judged v now))
  | counted {p : Problem} (hp : s.problems.find? p.id = some p) :
      Effect s { s with problems := s.problems.insert { p with submitCount := p.submitCount + 1 } }

theorem run_of_isJudging (now : Instant) (s : Store) {c : StoreCall} (hc : c.IsJudging) :
    (s.run now c).2 = s ∨ ∃ x v, s.find? x.id = some x ∧ x.isPending = true ∧
      v.status.isFinal = true ∧ (s.run now c).2 = s.settle (x.judged v now) := by
  cases c with
  | complete id v =>
    rcases pending_or_not (s.find? id) with ⟨x, hx, hp⟩ | h
    · obtain rfl := id_of_row? (find?_eq_some.1 hx).1
      exact .inr ⟨x, v, hx, hp, hc, congrArg Prod.snd (complete_of_isPending hx hp now v)⟩
    · exact .inl (congrArg Prod.snd (complete_of_not_isPending h now v))
  | create | discard | countSubmit => exact hc.elim
  | _ => exact .inl rfl

lemma effect_discard (s : Store) (id : SubmissionId) : s.Effect (s.discard id).2 := by
  rcases s.discard_cases id with ⟨x, hx, hp, h⟩ | h
  · rw [h]; exact .discarded hx hp
  · rw [h]; exact .nothing

/-- **What one fair call does to a store.** -/
theorem effect_run (now : Instant) (s : Store) {c : StoreCall} (hc : c.IsFair) :
    (∃ d, c = .create d) ∨ s.Effect (s.run now c).2 := by
  have hjudging : c.IsJudging → s.Effect (s.run now c).2 := by
    intro hc
    rcases run_of_isJudging now s hc with h | ⟨x, v, hx, hp, hv, h⟩
    · rw [h]; exact .nothing
    · rw [h]; exact .judged hx hp v hv now
  cases c with
  | create d => exact .inl ⟨d, rfl⟩
  | discard id => exact .inr (s.effect_discard id)
  | countSubmit p =>
    right
    cases hp : s.problems.find? p with
    | none => simp only [run, countSubmit, hp, Option.map_none]; exact .nothing
    | some q =>
      obtain rfl := Table.key_of_find? hp
      simp only [run, countSubmit, hp, Option.map_some]
      exact .counted hp
  | complete => exact .inr (hjudging hc)
  | _ => exact .inr (hjudging trivial)

lemma settle_users (s : Store) (x : Submission) : (s.settle x).users = s.users := by
  unfold settle countAccepted
  split
  · split <;> rfl
  · rfl

lemma run_users (now : Instant) (s : Store) (c : StoreCall) :
    (s.run now c).2.users = s.users := by
  cases c with
  | discard id =>
    rcases s.discard_cases id with ⟨x, -, -, h⟩ | h
    · exact congrArg (·.2.users) h
    · exact congrArg (·.2.users) h
  | complete id v =>
    rcases pending_or_not (s.find? id) with ⟨x, hx, hp⟩ | h
    · exact (congrArg (·.2.users) (complete_of_isPending hx hp now v)).trans (settle_users s _)
    · exact congrArg (·.2.users) (complete_of_not_isPending h now v)
  | countSubmit p =>
    cases hp : s.countSubmit p with
    | none => simp only [run, hp]
    | some t =>
      simp only [run, hp]
      obtain ⟨q, -, rfl⟩ := Option.map_eq_some_iff.1 hp
      rfl
  | _ => rfl

lemma Effect.lastId_eq {s t : Store} (h : s.Effect t) : t.lastId = s.lastId := by
  cases h with
  | nothing | discarded | counted => rfl
  | judged => rw [settle_lastId]

end Store

/-! ### What becomes of one submission -/

lemma Submission.isPending_iff {x : Submission} : x.isPending = true ↔ x.status = .pending := by
  unfold isPending
  exact beq_iff_eq

lemma Submission.isPending_eq_false {x : Submission} :
    x.isPending = false ↔ x.status.isFinal = true := by
  simp [isPending, Status.isFinal]

/-- What may become of what is stored under an id. -/
inductive Fate : Option Submission → Option Submission → Prop
  | same (r : Option Submission) : Fate r r
  | judged {x : Submission} (hp : x.isPending = true) (v : Verdict)
      (hv : v.status.isFinal = true) (now : Instant) : Fate (some x) (some (x.judged v now))
  | removed {x : Submission} (hp : x.isPending = true) : Fate (some x) none

namespace Fate

lemma eq_of_isFinal {x : Submission} {r : Option Submission} (h : Fate (some x) r)
    (hx : x.isPending = false) : r = some x := by
  cases h with
  | same => rfl
  | judged hp => rw [hx] at hp; cases hp
  | removed hp => rw [hx] at hp; cases hp

lemma eq_none {r : Option Submission} (h : Fate none r) : r = none := by
  cases h; rfl

lemma isPending_judged {x : Submission} {v : Verdict} (hv : v.status.isFinal = true)
    (now : Instant) : (x.judged v now).isPending = false :=
  Submission.isPending_eq_false.2 hv

theorem trans {q r t : Option Submission} (h : Fate q r) (h' : Fate r t) : Fate q t := by
  cases h with
  | same => exact h'
  | judged hp v hv now =>
    rw [h'.eq_of_isFinal (isPending_judged hv now)]
    exact .judged hp v hv now
  | removed hp =>
    rw [h'.eq_none]
    exact .removed hp

end Fate

namespace Store

/-- **What one call does to what is stored under an id.** -/
theorem Effect.fate {s t : Store} (h : s.Effect t) (id : SubmissionId) :
    Fate (s.row? id) (t.row? id) := by
  cases h with
  | nothing | counted => exact .same _
  | @discarded j x hx hp =>
    rw [row?_drop]
    split
    · subst id; rw [hx]; exact .removed hp
    · exact .same _
  | @judged x hx hp v hv now =>
    obtain ⟨hx, -⟩ := find?_eq_some.1 hx
    rw [row?_settle]
    split
    · rename_i hid
      obtain rfl : id = x.id := hid
      rw [hx]; exact .judged hp v hv now
    · exact .same _

/-! ### Ids that are given out -/

/-- Nothing is stored under an id above the last one that was given out. This holds of a store that
was filled from the empty one (`numbered_empty`, `Numbered.insertSubmission`). -/
def Numbered (s : Store) : Prop := ∀ id, s.lastId < id → s.row? id = none

/-- The next id is a greater one. -/
def HasIds (s : Store) : Prop := s.lastId < Int64.maxValue

instance : DecidablePred HasIds := fun s =>
  inferInstanceAs (Decidable (s.lastId < Int64.maxValue))

lemma toInt_add_one {n : Int64} (h : n < Int64.maxValue) : (n + 1).toInt = n.toInt + 1 := by
  rw [Int64.lt_iff_toInt_lt, Int64.toInt_maxValue] at h
  have hl := Int64.le_toInt n
  rw [Int64.toInt_add, Int64.toInt_one, Int.bmod_eq_of_le] <;> omega

lemma lastId_lt_next {s : Store} (h : s.HasIds) : s.lastId < s.lastId + 1 := by
  rw [Int64.lt_iff_toInt_lt, toInt_add_one h]
  omega

lemma eq_next {s : Store} (h : s.HasIds) {id : SubmissionId} (hlt : s.lastId < id)
    (hle : id ≤ s.lastId + 1) : id = s.lastId + 1 := by
  rw [Int64.lt_iff_toInt_lt] at hlt
  rw [Int64.le_iff_toInt_le, toInt_add_one h] at hle
  apply Int64.toInt_inj.1
  rw [toInt_add_one h]
  omega

lemma Numbered.le_of_row? {s : Store} (hs : s.Numbered) {id : SubmissionId} {x : Submission}
    (hx : s.row? id = some x) : id ≤ s.lastId := by
  refine Int64.not_lt.1 fun h => ?_
  rw [hs id h] at hx
  cases hx

lemma row?_create (s : Store) (now : Instant) (d : Draft) (id : SubmissionId) :
    (s.create now d).2.row? id =
      if id = s.lastId + 1 then some (s.create now d).1 else s.row? id :=
  Table.find?_insert s.submissions _ id

theorem numbered_empty : empty.Numbered := fun _ _ => rfl

theorem Numbered.insertSubmission {s : Store} (hs : s.Numbered) (x : Submission) :
    (s.insertSubmission x).Numbered := by
  intro id hid
  have hmax : (if s.lastId ≤ x.id then x.id else s.lastId) < id := hid
  have h : s.lastId < id ∧ x.id < id := by
    split at hmax
    · rename_i hle; exact ⟨Int64.lt_of_le_of_lt hle hmax, hmax⟩
    · rename_i hle; exact ⟨hmax, Int64.lt_trans (Int64.not_le.1 hle) hmax⟩
  show (s.submissions.insert x).find? id = none
  rw [Table.find?_insert, if_neg]
  · exact hs id h.1
  · rintro rfl; exact Int64.lt_irrefl h.2

theorem Numbered.create {s : Store} (hs : s.Numbered) (hi : s.HasIds) (now : Instant)
    (d : Draft) : (s.create now d).2.Numbered := by
  intro id hid
  have hid : s.lastId + 1 < id := hid
  rw [row?_create, if_neg]
  · exact hs id (Int64.lt_trans (lastId_lt_next hi) hid)
  · rintro rfl; exact Int64.lt_irrefl hid

theorem Numbered.effect {s t : Store} (hs : s.Numbered) (h : s.Effect t) : t.Numbered := by
  intro id hid
  rw [h.lastId_eq] at hid
  have hf := h.fate id
  rw [hs id hid] at hf
  exact hf.eq_none

end Store

end Arbiter
