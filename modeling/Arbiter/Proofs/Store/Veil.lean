import Arbiter.Proofs.Store.Mask
import Mathlib.Data.List.Sort

/-!
Veils: functions that hide something of submissions, but nothing that a query of the store looks at
(`Veil`). Queries answer with the same submissions behind the veil, in the same order
(`page_veiled`, `best?_veiled`), and with the same numbers (`countByUser_veiled`, `solved_veiled`,
`standing_veiled`); changes come through it (`create_veiled`, `settle_veiled`, `discard_veiled`). So
of two stores that look the same behind a veil, each call makes two that look the same again, and
its answers look the same (`run_veiled`).
-/

namespace Arbiter

/-- The submission without what no query of a store looks at. -/
def Submission.bare (x : Submission) : Submission :=
  { x with
    code := ""
    memory := none
    judgeInfo := none
    errorMessage := none
    score := none
    updateTime := ⟨0, 0⟩ }

/-- Something of submissions is hidden, and a verdict brings nothing hidden to light. -/
structure Veil where
  hide : Submission → Submission
  bare_hide : ∀ x, (hide x).bare = x.bare
  judged : ∀ {x y : Submission} (v : Verdict) (now : Instant),
    hide x = hide y → hide (x.judged v now) = hide (y.judged v now)

namespace Veil

variable (v : Veil) (x : Submission)

@[simp] lemma id_hide : (v.hide x).id = x.id := (congrArg Submission.id (v.bare_hide x) :)

@[simp] lemma problemId_hide : (v.hide x).problemId = x.problemId :=
  (congrArg Submission.problemId (v.bare_hide x) :)

@[simp] lemma userId_hide : (v.hide x).userId = x.userId :=
  (congrArg Submission.userId (v.bare_hide x) :)

@[simp] lemma language_hide : (v.hide x).language = x.language :=
  (congrArg Submission.language (v.bare_hide x) :)

@[simp] lemma status_hide : (v.hide x).status = x.status :=
  (congrArg Submission.status (v.bare_hide x) :)

@[simp] lemma runTime_hide : (v.hide x).runTime = x.runTime :=
  (congrArg Submission.runTime (v.bare_hide x) :)

@[simp] lemma createTime_hide : (v.hide x).createTime = x.createTime :=
  (congrArg Submission.createTime (v.bare_hide x) :)

@[simp] lemma isDeleted_hide : (v.hide x).isDeleted = x.isDeleted :=
  (congrArg Submission.isDeleted (v.bare_hide x) :)

@[simp] lemma isPending_hide : (v.hide x).isPending = x.isPending := by
  unfold Submission.isPending
  rw [status_hide]

@[simp] lemma holds_hide (f : Filter) : f.holds (v.hide x) = f.holds x := by
  simp only [Filter.holds, isDeleted_hide, userId_hide, problemId_hide, language_hide, status_hide]

lemma newestFirst_hide (y : Submission) :
    Store.newestFirst (v.hide x) (v.hide y) = Store.newestFirst x y := by
  simp only [Store.newestFirst, createTime_hide, id_hide]

lemma oldestFirst_hide (y : Submission) :
    Store.oldestFirst (v.hide x) (v.hide y) = Store.oldestFirst x y := by
  simp only [Store.oldestFirst, createTime_hide]

lemma better_hide (y : Submission) :
    Store.better (v.hide x) (v.hide y) = Store.better x y := by
  simp only [Store.better, Store.better.olderFirst, runTime_hide, createTime_hide, id_hide]

lemma bestOf_hide (xs : List Submission) :
    Store.bestOf (xs.map v.hide) = (Store.bestOf xs).map v.hide := by
  induction xs with
  | nil => rfl
  | cons x xs ih =>
    simp only [List.map_cons, Store.bestOf, ih]
    cases Store.bestOf xs with
    | none => rfl
    | some y =>
      simp only [Option.map_some, better_hide]
      split <;> rfl

/-- The submissions that hold behind the veil are those that hold, behind the veil. -/
lemma filter_hide {p : Submission → Bool} (hp : ∀ x, p (v.hide x) = p x) (xs : List Submission) :
    (xs.map v.hide).filter p = (xs.filter p).map v.hide := by
  rw [List.filter_map]
  simp only [Function.comp_def, hp]

/-- What changes of the store look at is not hidden. -/
def toMask (v : Veil) : Mask :=
  ⟨v.hide, v.id_hide, v.problemId_hide, v.status_hide, v.isDeleted_hide⟩

end Veil

namespace Store

variable (v : Veil) (s : Store)

/-- The store with every submission behind the veil. -/
def veiled (v : Veil) (s : Store) : Store :=
  { s with submissions := s.submissions.mapRows v.hide v.id_hide }

/-! ### Queries behind a veil -/

lemma row?_veiled (id : SubmissionId) : (s.veiled v).row? id = (s.row? id).map v.hide :=
  s.row?_masked v.toMask id

lemma find?_veiled (id : SubmissionId) : (s.veiled v).find? id = (s.find? id).map v.hide :=
  s.find?_masked v.toMask id

lemma live_veiled : (s.veiled v).live = s.live.map v.hide :=
  v.filter_hide (fun x => by rw [Veil.isDeleted_hide]) s.submissions.rows

lemma matching_veiled (f : Filter) : (s.veiled v).matching f = (s.matching f).map v.hide :=
  v.filter_hide (fun x => v.holds_hide x f) s.submissions.rows

lemma page_veiled (f : Filter) : (s.veiled v).page f = (s.page f).map v.hide := by
  unfold page
  rw [matching_veiled, ← List.map_mergeSort fun x _ y _ => (v.newestFirst_hide x y).symm]
  dsimp only
  split
  · rw [List.take_nil, List.map_nil]
  · rw [← List.map_drop, ← List.map_take]

lemma attempts_veiled (user : UserId) (problem : ProblemId) :
    (s.veiled v).attempts user problem = (s.attempts user problem).map v.hide := by
  unfold attempts
  rw [live_veiled]
  exact v.filter_hide (fun x => by rw [Veil.userId_hide, Veil.problemId_hide]) s.live

lemma best?_veiled (user : UserId) (problem : ProblemId) :
    (s.veiled v).best? user problem = (s.best? user problem).map v.hide := by
  unfold best?
  rw [attempts_veiled, v.filter_hide fun x => by rw [Veil.status_hide], Veil.bestOf_hide]

lemma countByUser_veiled (user : UserId) : (s.veiled v).countByUser user = s.countByUser user := by
  unfold countByUser
  rw [live_veiled, v.filter_hide fun x => by rw [Veil.userId_hide], List.length_map]

lemma solved_veiled (user : UserId) : (s.veiled v).solved user = s.solved user := by
  unfold solved
  rw [live_veiled, v.filter_hide fun x => by rw [Veil.userId_hide, Veil.status_hide], List.map_map]
  simp only [Function.comp_def, Veil.problemId_hide]

lemma standing_veiled (user : UserId) (problem : ProblemId) :
    (s.veiled v).standing user problem = s.standing user problem := by
  unfold standing
  rw [attempts_veiled]
  simp only [List.any_map, Function.comp_def, Veil.status_hide, List.isEmpty_map]

lemma stale_veiled (cutoff : Instant) (limit : Nat) :
    (s.veiled v).stale cutoff limit = s.stale cutoff limit := by
  unfold stale
  rw [live_veiled, v.filter_hide fun x => by rw [Veil.isPending_hide, Veil.createTime_hide],
    ← List.map_mergeSort fun x _ y _ => (v.oldestFirst_hide x y).symm, ← List.map_take,
    List.map_map]
  simp only [Function.comp_def, Veil.id_hide]

/-! ### Changes behind a veil -/

lemma settle_veiled (x : Submission) :
    (s.settle x).veiled v = (s.veiled v).settle (v.hide x) :=
  s.settle_masked v.toMask x

lemma discard_veiled (id : SubmissionId) :
    (s.veiled v).discard id = ((s.discard id).1, (s.discard id).2.veiled v) :=
  s.discard_masked v.toMask id

lemma countSubmit_veiled (p : ProblemId) :
    (s.veiled v).countSubmit p = (s.countSubmit p).map (veiled v) :=
  s.countSubmit_masked v.toMask p

lemma create_veiled (now : Instant) (d : Draft) :
    (s.create now d).2.veiled v =
      { s.veiled v with
        submissions := (s.veiled v).submissions.insert
          (v.hide (.ofDraft ((s.veiled v).lastId + 1) now d))
        lastId := (s.veiled v).lastId + 1 } :=
  s.create_masked v.toMask now d

end Store

namespace StoreCall

/-- What is answered, with submissions behind the veil. -/
def veil (v : Veil) : (c : StoreCall) → c.Result → c.Result
  | create _, x => v.hide x
  | find _, x => x.map v.hide
  | list _, (xs, total) => (xs.map v.hide, total)
  | findBest _ _, x => x.map v.hide
  | complete _ _, x => x.map v.hide
  | _, r => r

/-- The call looks something up. -/
def IsReading : StoreCall → Prop
  | create _ | discard _ | complete _ _ | countSubmit _ => False
  | _ => True

end StoreCall

namespace Store

variable {v : Veil} {s t : Store}

lemma answer_veiled (s : Store) (now : Instant) {c : StoreCall} (hc : c.IsReading) :
    ((s.veiled v).run now c).1 = (s.run now c).1.map (c.veil v) := by
  cases c with
  | create | discard | complete | countSubmit => exact hc.elim
  | find id => exact congrArg Except.ok (s.find?_veiled v id)
  | list f =>
    simp only [run, page_veiled, matching_veiled, List.length_map]
    rfl
  | findBest user problem => exact congrArg Except.ok (s.best?_veiled v user problem)
  | countByUser user =>
    simp only [run, countByUser_veiled]
    rfl
  | countSolved user =>
    simp only [run, solved_veiled]
    rfl
  | standing user problem => exact congrArg Except.ok (s.standing_veiled v user problem)
  | findStale cutoff limit => exact congrArg Except.ok (s.stale_veiled v cutoff _)
  | findProblem | findUser => rfl

lemma run_of_isReading (s : Store) (now : Instant) {c : StoreCall} (hc : c.IsReading) :
    (s.run now c).2 = s := by
  cases c with
  | create | discard | complete | countSubmit => exact hc.elim
  | _ => rfl

lemma run_veiled_of_isReading (h : s.veiled v = t.veiled v) (now : Instant) {c : StoreCall}
    (hc : c.IsReading) : (s.run now c).1.map (c.veil v) = (t.run now c).1.map (c.veil v) ∧
      (s.run now c).2.veiled v = (t.run now c).2.veiled v := by
  rw [← answer_veiled s now hc, ← answer_veiled t now hc, run_of_isReading s now hc,
    run_of_isReading t now hc, h]
  exact ⟨rfl, rfl⟩

/-- **Stores that look the same answer alike and go on looking the same.** -/
theorem run_veiled (h : s.veiled v = t.veiled v) (now : Instant) (c : StoreCall) :
    (s.run now c).1.map (c.veil v) = (t.run now c).1.map (c.veil v) ∧
      (s.run now c).2.veiled v = (t.run now c).2.veiled v := by
  cases c with
  | create d =>
    have hid : s.lastId = t.lastId := (congrArg Store.lastId h :)
    refine ⟨by simp only [run, create, hid], ?_⟩
    show (s.create now d).2.veiled v = (t.create now d).2.veiled v
    rw [create_veiled, create_veiled, h]
  | discard id =>
    have hd : ((s.discard id).1, (s.discard id).2.veiled v) =
        ((t.discard id).1, (t.discard id).2.veiled v) := by
      rw [← discard_veiled, h, discard_veiled]
    obtain ⟨hanswer, hstore⟩ := Prod.mk.inj hd
    exact ⟨congrArg Except.ok hanswer, hstore⟩
  | complete id w =>
    have hc := complete_masked (m := v.toMask) h fun x y (_ : s.find? id = some x) hxy =>
      v.judged w now hxy
    exact ⟨congrArg Except.ok hc.1, hc.2⟩
  | countSubmit p =>
    have hp : (s.countSubmit p).map (veiled v) = (t.countSubmit p).map (veiled v) := by
      rw [← countSubmit_veiled, h, countSubmit_veiled]
    simp only [run]
    cases hs : s.countSubmit p <;> cases ht : t.countSubmit p <;> rw [hs, ht] at hp
    · exact ⟨rfl, h⟩
    · cases hp
    · cases hp
    · exact ⟨rfl, Option.some.inj hp⟩
  | _ => exact run_veiled_of_isReading h now trivial

end Store

end Arbiter
