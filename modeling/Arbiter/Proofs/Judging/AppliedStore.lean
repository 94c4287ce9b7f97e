import Arbiter.Proofs.Judging.ApplyCourse
import Arbiter.Proofs.Store.Veil

/-!
Outcomes applied to a store with nobody else at work on it. A final outcome is written into a live
pending submission (`applied_of_isPending`), and nothing else is done by any outcome
(`applied_of_not_isPending`, `applied_of_not_isFinal`); what it comes to goes with that
(`told_of_isPending`, `told_of_isFinal`). So two outcomes whose verdicts look the same once they are
written make stores that look the same of such stores (`applied_masked`), and lists of such outcomes
do too (`appliedAll_veiled`).
-/

namespace Arbiter.Store

/-- A call at the time `now`, as a change of the store. -/
def calling (now : Instant) (c : StoreCall) : StateM Store (Except Failure c.Result) := fun s =>
  s.run now c

/-- The store after an outcome was applied to it. -/
def applied (scoring : Scoring) (now : Instant) (o : Outcome) (s : Store) : Store :=
  ((apply scoring o).run.interpret (calling now) s).2

/-- What applying an outcome to the store comes to. -/
def told (scoring : Scoring) (now : Instant) (o : Outcome) (s : Store) :
    Except ApplyFailure Applied :=
  ((apply scoring o).run.interpret (calling now) s).1

lemma interpret_calling_ask {α : Type} (now : Instant) (c : StoreCall)
    (next : Except Failure c.Result → Program StoreInterface α) (s : Store) :
    (Program.ask (I := StoreInterface) c next).interpret (calling now) s =
      (next (s.run now c).1).interpret (calling now) (s.run now c).2 := rfl

variable {scoring : Scoring} {now : Instant} {o : Outcome} {s : Store} {x : Submission}

/-! ### The ways through -/

lemma interpret_apply_of_none (hx : s.find? o.submissionId = none) :
    (apply scoring o).run.interpret (calling now) s =
      (.error (.notFound o.submissionId), s) := by
  rw [run_apply]
  simp only [interpret_calling_ask, run, hx]
  rfl

lemma interpret_apply_of_isFinal (hx : s.find? o.submissionId = some x)
    (hfinal : x.status.isFinal = true) :
    (apply scoring o).run.interpret (calling now) s = (.ok (.before x.status), s) := by
  rw [run_apply]
  simp only [interpret_calling_ask, run, hx, hfinal, if_true]
  rfl

lemma interpret_apply_of_not_mayBecome (hx : s.find? o.submissionId = some x)
    (hfinal : x.status.isFinal = false) (ho : x.status.mayBecome o.status = false) :
    (apply scoring o).run.interpret (calling now) s =
      (.error (.illegalTransition o.submissionId x.status o.status), s) := by
  rw [run_apply]
  simp only [interpret_calling_ask, run, hx, hfinal, ho, Bool.not_false, Bool.false_eq_true,
    if_false, if_true]
  rfl

lemma interpret_apply_of_isPending (hx : s.find? o.submissionId = some x)
    (hp : x.isPending = true) (ho : o.status.isFinal = true) {y : Submission}
    (hy : y = x.judged (Verdict.ofOutcome scoring o (s.problems.find? x.problemId)) now) :
    (apply scoring o).run.interpret (calling now) s = (.ok (.now y), s.settle y) := by
  have hstatus : x.status = .pending := Submission.isPending_iff.1 hp
  have hfinal : Status.pending.isFinal = false := rfl
  have hbecome : Status.pending.mayBecome o.status = true := by simp [Status.mayBecome, ho]
  rw [run_apply, hy]
  simp only [interpret_calling_ask, run, hx, hstatus, hfinal, hbecome, Bool.not_true,
    Bool.false_eq_true, if_false, complete_of_isPending hx hp]
  rfl

/-! ### What is stored, and what it comes to -/

lemma applied_of_isPending (hx : s.find? o.submissionId = some x)
    (hp : x.isPending = true) (ho : o.status.isFinal = true) :
    s.applied scoring now o =
      s.settle (x.judged (Verdict.ofOutcome scoring o (s.problems.find? x.problemId)) now) :=
  congrArg Prod.snd (interpret_apply_of_isPending hx hp ho rfl)

lemma applied_of_not_isPending (h : ∀ x, s.find? o.submissionId = some x → x.isPending = false) :
    s.applied scoring now o = s := by
  rcases hx : s.find? o.submissionId with _ | x
  · exact congrArg Prod.snd (interpret_apply_of_none hx)
  · have hfinal : x.status.isFinal = true := Submission.isPending_eq_false.1 (h x hx)
    exact congrArg Prod.snd (interpret_apply_of_isFinal hx hfinal)

lemma applied_of_not_isFinal (h : o.status.isFinal = false) : s.applied scoring now o = s := by
  rcases hx : s.find? o.submissionId with _ | x
  · exact congrArg Prod.snd (interpret_apply_of_none hx)
  · have hbecome : x.status.mayBecome o.status = false := by simp [Status.mayBecome, h]
    cases hfinal : x.status.isFinal with
    | true => exact congrArg Prod.snd (interpret_apply_of_isFinal hx hfinal)
    | false => exact congrArg Prod.snd (interpret_apply_of_not_mayBecome hx hfinal hbecome)

lemma told_of_none (hx : s.find? o.submissionId = none) :
    s.told scoring now o = .error (.notFound o.submissionId) :=
  congrArg Prod.fst (interpret_apply_of_none hx)

lemma told_of_isFinal (hx : s.find? o.submissionId = some x) (hfinal : x.status.isFinal = true) :
    s.told scoring now o = .ok (.before x.status) :=
  congrArg Prod.fst (interpret_apply_of_isFinal hx hfinal)

lemma told_of_not_mayBecome (hx : s.find? o.submissionId = some x)
    (hfinal : x.status.isFinal = false) (ho : x.status.mayBecome o.status = false) :
    s.told scoring now o = .error (.illegalTransition o.submissionId x.status o.status) :=
  congrArg Prod.fst (interpret_apply_of_not_mayBecome hx hfinal ho)

lemma told_of_isPending (hx : s.find? o.submissionId = some x) (hp : x.isPending = true)
    (ho : o.status.isFinal = true) : s.told scoring now o =
      .ok (.now (x.judged (Verdict.ofOutcome scoring o (s.problems.find? x.problemId)) now)) :=
  congrArg Prod.fst (interpret_apply_of_isPending hx hp ho rfl)

/-- **What an outcome does**: it writes its verdict into a live pending submission, or nothing. -/
theorem applied_cases (scoring : Scoring) (now : Instant) (o : Outcome) (s : Store) :
    s.applied scoring now o = s ∨ ∃ x v, s.find? o.submissionId = some x ∧
      s.applied scoring now o = s.settle (x.judged v now) := by
  cases ho : o.status.isFinal with
  | false => exact .inl (applied_of_not_isFinal ho)
  | true =>
    rcases pending_or_not (s.find? o.submissionId) with ⟨x, hx, hp⟩ | hn
    · exact .inr ⟨x, _, hx, applied_of_isPending hx hp ho⟩
    · exact .inl (applied_of_not_isPending hn)

lemma applied_users (scoring : Scoring) (now : Instant) (o : Outcome) (s : Store) :
    (s.applied scoring now o).users = s.users := by
  rcases applied_cases scoring now o s with h | ⟨x, v, -, h⟩
  · rw [h]
  · rw [h, settle_users]

/-- A submission that is stored afterwards was stored before, and may have its verdict since. -/
lemma row?_applied {id : SubmissionId} {y : Submission}
    (hy : (s.applied scoring now o).row? id = some y) :
    ∃ x, s.row? id = some x ∧ (y = x ∨ ∃ v, y = x.judged v now) := by
  rcases applied_cases scoring now o s with h | ⟨x, v, hx, h⟩
  · rw [h] at hy
    exact ⟨y, hy, .inl rfl⟩
  · rw [h, row?_settle] at hy
    split at hy
    · rename_i hid
      obtain rfl : id = x.id := hid
      obtain ⟨hx, -⟩ := find?_eq_some.1 hx
      have hid := id_of_row? hx
      cases hy
      exact ⟨x, hid ▸ hx, .inr ⟨v, rfl⟩⟩
    · exact ⟨y, hy, .inl rfl⟩

/-! ### Outcomes behind a mask -/

theorem applied_masked {m : Mask} {t : Store} (h : s.masked m = t.masked m) {now' : Instant}
    {o' : Outcome} (hid : o.submissionId = o'.submissionId) (hstatus : o.status = o'.status)
    (hv : ∀ x y p, s.find? o.submissionId = some x → m.hide x = m.hide y →
      m.hide (x.judged (Verdict.ofOutcome scoring o p) now) =
        m.hide (y.judged (Verdict.ofOutcome scoring o' p) now')) :
    (s.applied scoring now o).masked m = (t.applied scoring now' o').masked m := by
  cases ho : o.status.isFinal with
  | false => rw [applied_of_not_isFinal ho, applied_of_not_isFinal (hstatus ▸ ho), h]
  | true =>
    rcases pending_or_not (s.find? o.submissionId) with ⟨x, hx, hp⟩ | hn
    · obtain ⟨y, hy, hxy⟩ := exists_find?_of_masked h hx
      have hproblems : s.problems = t.problems := (congrArg Store.problems h :)
      rw [applied_of_isPending hx hp ho, applied_of_isPending (hid ▸ hy)
        (m.isPending_of_hide_eq x hxy ▸ hp) (hstatus ▸ ho), settle_masked, settle_masked, h,
        m.problemId_of_hide_eq x hxy, hproblems, hv x y _ hx hxy]
    · rw [applied_of_not_isPending hn,
        applied_of_not_isPending (hid ▸ not_isPending_of_masked h hn), h]

/-- The store after some outcomes were applied to it, each at its time. -/
def appliedAll (scoring : Scoring) (os : List (Instant × Outcome)) (s : Store) : Store :=
  os.foldl (fun s o => s.applied scoring o.1 o.2) s

lemma appliedAll_users (scoring : Scoring) (os : List (Instant × Outcome)) (s : Store) :
    (s.appliedAll scoring os).users = s.users := by
  induction os generalizing s with
  | nil => rfl
  | cons o os ih => exact (ih _).trans (applied_users scoring o.1 o.2 s)

/-- Applied to the submissions with a property, two outcomes make verdicts that look the same. -/
def LooksTheSame (v : Veil) (scoring : Scoring) (q : Submission → Prop) (o o' : Instant × Outcome) :
    Prop :=
  o.2.submissionId = o'.2.submissionId ∧ o.2.status = o'.2.status ∧
    ∀ x y p, q x → v.hide x = v.hide y →
      v.hide (x.judged (Verdict.ofOutcome scoring o.2 p) o.1) =
        v.hide (y.judged (Verdict.ofOutcome scoring o'.2 p) o'.1)

theorem appliedAll_veiled {v : Veil} {t : Store} {q : Submission → Prop}
    (hq : ∀ x w now, q x → q (x.judged w now)) {os os' : List (Instant × Outcome)}
    (hos : List.Forall₂ (LooksTheSame v scoring q) os os')
    (hs : ∀ o ∈ os, ∀ x, s.row? o.2.submissionId = some x → q x) (h : s.veiled v = t.veiled v) :
    (s.appliedAll scoring os).veiled v = (t.appliedAll scoring os').veiled v := by
  induction hos generalizing s t with
  | nil => exact h
  | @cons o o' os os' ho _ ih =>
    obtain ⟨hid, hstatus, hverdict⟩ := ho
    refine ih ?_ ?_
    -- what is stored under the ids of later outcomes has the property still
    · intro o₂ ho₂ y hy
      obtain ⟨x, hx, rfl | ⟨w, rfl⟩⟩ := row?_applied hy
      · exact hs o₂ (List.mem_cons_of_mem _ ho₂) _ hx
      · exact hq x w _ (hs o₂ (List.mem_cons_of_mem _ ho₂) x hx)
    · refine applied_masked (m := v.toMask) h hid hstatus ?_
      intro x y p hx hxy
      have hrow := (find?_eq_some.1 hx).1
      exact hverdict x y p (hs o List.mem_cons_self x hrow) hxy

lemma appliedAll_veiled_same {v : Veil} {t : Store} (h : s.veiled v = t.veiled v)
    (os : List (Instant × Outcome)) :
    (s.appliedAll scoring os).veiled v = (t.appliedAll scoring os).veiled v := by
  have hos : List.Forall₂ (LooksTheSame v scoring fun _ => True) os os := by
    rw [List.forall₂_same]
    intro o _
    exact ⟨rfl, rfl, fun x y p _ hxy => v.judged _ o.1 hxy⟩
  exact appliedAll_veiled (fun _ _ _ _ => trivial) hos (fun _ _ _ _ => trivial) h

end Arbiter.Store
