import Arbiter.Proofs.Desk.Clearance
import Arbiter.Proofs.Judging.Redelivery
import Arbiter.Proofs.Submission.Age

/-!
The best submission of a user to a problem. Submissions are compared by run time, where any is
shorter than none, and those of one run time by age (`Submission.Outdoes`). This is a strict order,
and two submissions with different ids are never level in it, so the one that the store finds
outdoes every other one (`bestOf_eq_some`). It depends on nothing but what is stored under each id:
submissions and verdicts may be filed in any order, as long as those of one id keep theirs
(`row?_filedAll_undated`).
-/

namespace Arbiter

namespace Submission

/-- A shorter run time; any is shorter than none. -/
inductive RanShorter : Option Int32 → Option Int32 → Prop
  | timed {t u : Int32} (h : t < u) : RanShorter (some t) (some u)
  | untimed (t : Int32) : RanShorter (some t) none

/-- A shorter run time, or the same and the submission is older. -/
def Outdoes (x y : Submission) : Prop :=
  RanShorter x.runTime y.runTime ∨ x.runTime = y.runTime ∧ x.Older y

/-- The submission is an accepted one of the user to the problem, and not deleted. -/
structure Solves (x : Submission) (user : UserId) (problem : ProblemId) : Prop where
  live : x.isDeleted = false
  user : x.userId = user
  problem : x.problemId = problem
  accepted : x.status = .accepted

variable {x y z : Submission}

/-! ### The order -/

lemma RanShorter.trans {a b c : Option Int32} (hab : RanShorter a b) (hbc : RanShorter b c) :
    RanShorter a c := by
  cases hab with
  | timed h =>
    cases hbc with
    | timed h' => exact .timed (Int32.lt_trans h h')
    | untimed => exact .untimed _
  | untimed => cases hbc

lemma ranShorter_or_eq_or_ranShorter (a b : Option Int32) :
    RanShorter a b ∨ a = b ∨ RanShorter b a := by
  rcases a with _ | t <;> rcases b with _ | u
  · exact .inr (.inl rfl)
  · exact .inr (.inr (.untimed u))
  · exact .inl (.untimed t)
  · rcases Int32.lt_or_le t u with h | h
    · exact .inl (.timed h)
    · rcases Int32.lt_or_eq_of_le h with h | rfl
      · exact .inr (.inr (.timed h))
      · exact .inr (.inl rfl)

lemma ranShorter_some {t u : Int32} : RanShorter (some t) (some u) ↔ t < u := by
  refine ⟨fun h => ?_, .timed⟩
  cases h with
  | timed h => exact h

lemma not_ranShorter_none (b : Option Int32) : ¬ RanShorter none b := fun h => by cases h

lemma RanShorter.irrefl (a : Option Int32) : ¬ RanShorter a a := by
  cases a with
  | none => exact not_ranShorter_none none
  | some t => exact fun h => Int32.lt_irrefl (ranShorter_some.1 h)

lemma Outdoes.trans (hxy : x.Outdoes y) (hyz : y.Outdoes z) : x.Outdoes z := by
  unfold Outdoes at *
  rcases hxy with hxy | ⟨hxy, hage⟩ <;> rcases hyz with hyz | ⟨hyz, hage'⟩
  · exact .inl (hxy.trans hyz)
  · exact .inl (hyz ▸ hxy)
  · exact .inl (hxy ▸ hyz)
  · exact .inr ⟨hxy.trans hyz, hage.trans hage'⟩

lemma Outdoes.asymm (h : x.Outdoes y) : ¬ y.Outdoes x := by
  intro h'
  rcases h.trans h' with h | ⟨-, h⟩
  · exact RanShorter.irrefl _ h
  · exact Older.irrefl x h

lemma outdoes_or_outdoes (h : x.id ≠ y.id) : x.Outdoes y ∨ y.Outdoes x := by
  unfold Outdoes
  rcases ranShorter_or_eq_or_ranShorter x.runTime y.runTime with hr | hr | hr
  · exact .inl (.inl hr)
  · exact (older_or_older h).imp (fun ho => .inr ⟨hr, ho⟩) fun ho => .inr ⟨hr.symm, ho⟩
  · exact .inr (.inl hr)

end Submission

namespace Store

/-! ### The best of some -/

lemma better_iff {x y : Submission} : better x y = true ↔ x.Outdoes y := by
  have hage : better.olderFirst x y = true ↔ x.Older y := by
    simp [better.olderFirst, Submission.Older]
  unfold better Submission.Outdoes
  rcases x.runTime with _ | t <;> rcases y.runTime with _ | u
  · simp [hage, Submission.not_ranShorter_none]
  · simp [Submission.not_ranShorter_none]
  · simp [Submission.RanShorter.untimed]
  · simp [hage, Submission.ranShorter_some]

lemma bestOf_eq_none {xs : List Submission} : bestOf xs = none ↔ xs = [] := by
  cases xs with
  | nil => exact iff_of_true rfl rfl
  | cons x xs =>
    refine iff_of_false ?_ (List.cons_ne_nil x xs)
    unfold bestOf
    split
    · simp
    · split <;> simp

/-- The best of some submissions is one of them, and outdoes every other one. -/
lemma bestOf_eq_some {xs : List Submission} {b : Submission}
    (hids : xs.Pairwise fun x y => x.id ≠ y.id) (h : bestOf xs = some b) :
    b ∈ xs ∧ ∀ y ∈ xs, y ≠ b → b.Outdoes y := by
  induction xs generalizing b with
  | nil => cases h
  | cons x xs ih =>
    obtain ⟨hx, hxs⟩ := List.pairwise_cons.1 hids
    unfold bestOf at h
    cases hrest : bestOf xs with
    | none =>
      rw [hrest] at h
      obtain rfl : x = b := Option.some.inj h
      rw [bestOf_eq_none.1 hrest]
      simp
    | some c =>
      rw [hrest] at h
      obtain ⟨hc, hleast⟩ := ih hxs hrest
      dsimp only at h
      split at h
      · rename_i hbetter
        obtain rfl : c = b := Option.some.inj h
        refine ⟨List.mem_cons_of_mem x hc, fun y hy hne => ?_⟩
        rcases List.mem_cons.1 hy with rfl | hy
        · exact better_iff.1 hbetter
        · exact hleast y hy hne
      · rename_i hbetter
        obtain rfl : x = b := Option.some.inj h
        -- so the first one outdoes the best of the rest, and with it all of the rest
        have hxc : x.Outdoes c := (Submission.outdoes_or_outdoes (hx c hc)).resolve_right
          fun h => hbetter (better_iff.2 h)
        refine ⟨List.mem_cons_self, fun y hy hne => ?_⟩
        have hy : y ∈ xs := (List.mem_cons.1 hy).resolve_left hne
        by_cases hyc : y = c
        · exact hyc ▸ hxc
        · exact hxc.trans (hleast y hy hyc)

variable {s : Store} {user : UserId} {problem : ProblemId}

/-- The submissions that the best one is looked for among. -/
def solutions (s : Store) (user : UserId) (problem : ProblemId) : List Submission :=
  (s.attempts user problem).filter fun x => x.status == .accepted

lemma mem_solutions {x : Submission} : x ∈ s.solutions user problem ↔
    x ∈ s.submissions.rows ∧ x.Solves user problem := by
  unfold solutions attempts live
  simp only [List.mem_filter, Bool.not_eq_true', Bool.and_eq_true, beq_iff_eq]
  constructor
  · rintro ⟨⟨⟨hx, hlive⟩, huser, hproblem⟩, hstatus⟩
    exact ⟨hx, hlive, huser, hproblem, hstatus⟩
  · rintro ⟨hx, hlive, huser, hproblem, hstatus⟩
    exact ⟨⟨⟨hx, hlive⟩, huser, hproblem⟩, hstatus⟩

lemma pairwise_solutions :
    (s.solutions user problem).Pairwise fun x y => x.id ≠ y.id :=
  (((s.submissions.sorted.imp Int64.ne_of_lt).filter _).filter _).filter _

lemma best?_eq_none : s.best? user problem = none ↔
    ∀ x ∈ s.submissions.rows, ¬ x.Solves user problem := by
  show bestOf (s.solutions user problem) = none ↔ _
  rw [bestOf_eq_none, List.eq_nil_iff_forall_not_mem]
  simp only [mem_solutions, not_and]

lemma best?_eq_some {b : Submission} (h : s.best? user problem = some b) :
    b ∈ s.submissions.rows ∧ b.Solves user problem ∧
      ∀ y ∈ s.submissions.rows, y.Solves user problem → y ≠ b → b.Outdoes y := by
  obtain ⟨hb, hleast⟩ := bestOf_eq_some pairwise_solutions h
  obtain ⟨hrow, hsolves⟩ := mem_solutions.1 hb
  exact ⟨hrow, hsolves, fun y hy hys => hleast y (mem_solutions.2 ⟨hy, hys⟩)⟩

end Store

/-! ### What is filed, and in what order -/

/-- Something is filed: a submission as it is, or the verdict on one. -/
inductive Filing where
  | submission (x : Submission)
  | verdict (id : SubmissionId) (v : Verdict)

namespace Filing

/-- The submission that it is about. -/
def id : Filing → SubmissionId
  | submission x => x.id
  | verdict id _ => id

/-- What it makes of what is stored under its id, but for the time of the verdict. -/
def change : Filing → Option Submission → Option Submission
  | submission x, _ => some (Veil.undating.hide x)
  | verdict _ v, r => r.map fun x => if x.isOpen then x.judged v ⟨0, 0⟩ else x

/-- What is filed about one submission, first to last. -/
def about (id : SubmissionId) (fs : List (Instant × Filing)) : List Filing :=
  (fs.map (·.2)).filter fun f => f.id == id

end Filing

namespace Store

/-- The store with something filed in it. -/
def filed (s : Store) (now : Instant) : Filing → Store
  | .submission x => s.insertSubmission x
  | .verdict id v => (s.complete now id v).2

/-- The store with one thing after the other filed in it. -/
def filedAll (s : Store) (fs : List (Instant × Filing)) : Store :=
  fs.foldl (fun s f => s.filed f.1 f.2) s

lemma row?_insertSubmission_undated (s : Store) (x : Submission) (id : SubmissionId) :
    (s.insertSubmission x).undated.row? id =
      if id = x.id then some (Veil.undating.hide x) else s.undated.row? id := by
  have hrow : (s.insertSubmission x).row? id = if id = x.id then some x else s.row? id :=
    Table.find?_insert s.submissions x id
  rw [row?_undated, hrow, row?_undated]
  split <;> rfl

lemma row?_complete_undated (s : Store) (now : Instant) (j id : SubmissionId) (v : Verdict) :
    (s.complete now j v).2.undated.row? id =
      if id = j then (Filing.verdict j v).change (s.undated.row? id) else s.undated.row? id := by
  rcases pending_or_not (s.find? j) with ⟨x, hx, hp⟩ | hn
  · obtain ⟨hrow, -⟩ := find?_eq_some.1 hx
    obtain rfl := id_of_row? hrow
    rw [complete_of_isPending hx hp, row?_settle_undated]
    split
    · rename_i hid
      subst hid
      rw [row?_undated, hrow]
      exact congrArg some (if_pos (isOpen_of_isPending hx hp)).symm
    · rfl
  · rw [complete_of_not_isPending hn]
    split
    · rename_i hid
      subst hid
      rw [row?_undated]
      rcases hrow : s.row? id with _ | x
      · rfl
      · refine congrArg some (if_neg ?_).symm
        rw [isOpen_of_not_isPending hn hrow]
        exact Bool.false_ne_true
    · rfl

lemma row?_filed_undated (s : Store) (now : Instant) (f : Filing) (id : SubmissionId) :
    (s.filed now f).undated.row? id =
      if id = f.id then f.change (s.undated.row? id) else s.undated.row? id := by
  cases f with
  | submission x => exact row?_insertSubmission_undated s x id
  | verdict j v => exact row?_complete_undated s now j id v

/-- **What was filed about a submission decides what is stored under its id.** -/
theorem row?_filedAll_undated (s : Store) (fs : List (Instant × Filing)) (id : SubmissionId) :
    (s.filedAll fs).undated.row? id =
      (Filing.about id fs).foldl (fun r f => f.change r) (s.undated.row? id) := by
  induction fs generalizing s with
  | nil => rfl
  | cons f fs ih =>
    show ((s.filed f.1 f.2).filedAll fs).undated.row? id = _
    rw [ih, row?_filed_undated]
    unfold Filing.about
    rw [List.map_cons, List.filter_cons]
    split
    · rename_i hid
      rw [if_pos (by simpa using hid.symm), List.foldl_cons]
    · rename_i hid
      rw [if_neg (by simpa using fun h => hid h.symm)]

lemma best?_filedAll (s : Store) {fs fs' : List (Instant × Filing)}
    (h : ∀ id, Filing.about id fs = Filing.about id fs') (user : UserId) (problem : ProblemId) :
    ((s.filedAll fs).best? user problem).map Veil.undating.hide =
      ((s.filedAll fs').best? user problem).map Veil.undating.hide := by
  have hrows : (s.filedAll fs).undated.submissions = (s.filedAll fs').undated.submissions := by
    apply Table.eq_of_find?
    intro id
    show (s.filedAll fs).undated.row? id = (s.filedAll fs').undated.row? id
    rw [row?_filedAll_undated, row?_filedAll_undated, h]
  rw [← best?_veiled, ← best?_veiled]
  show bestOf ((s.filedAll fs).undated.solutions user problem) =
    bestOf ((s.filedAll fs').undated.solutions user problem)
  unfold solutions attempts live
  rw [hrows]

/-- **The best submission is the least.** The store finds none just in case no live accepted
submission of the user to the problem is stored, and otherwise one that every other one comes after
in the order of run times, where none is the last, and then of ages. The desk answers every caller
who is cleared with what that account sees of it. It does not matter in what order submissions and
verdicts were filed, as long as what is filed about one submission keeps its order: but for the time
of the verdict, the same one is found. -/
theorem best_is_least (s : Store) (user : UserId) (problem : ProblemId) :
    (s.best? user problem = none ↔ ∀ x ∈ s.submissions.rows, ¬ x.Solves user problem) ∧
    (∀ b, s.best? user problem = some b →
      b ∈ s.submissions.rows ∧ b.Solves user problem ∧
        ∀ y ∈ s.submissions.rows, y.Solves user problem → y ≠ b →
          b.Outdoes y ∧ ¬ y.Outdoes b) ∧
    (∀ (k : Circumstances) (c a : Caller), (∀ n, k.fault n = none) →
      s.clearance c.userId = some a →
      (k.run (Desk.best c user problem).run s).1 =
        .ok ((s.best? user problem).map (.ofSubmission a))) ∧
    ∀ fs fs' : List (Instant × Filing), (∀ id, Filing.about id fs = Filing.about id fs') →
      ((s.filedAll fs).best? user problem).map Veil.undating.hide =
        ((s.filedAll fs').best? user problem).map Veil.undating.hide := by
  refine ⟨best?_eq_none, ?_, ?_, fun fs fs' h => s.best?_filedAll h _ _⟩
  · intro b hb
    obtain ⟨hrow, hsolves, hleast⟩ := best?_eq_some hb
    refine ⟨hrow, hsolves, fun y hy hys hne => ?_⟩
    have houtdoes := hleast y hy hys hne
    exact ⟨houtdoes, houtdoes.asymm⟩
  · intro k c a hcalm hclear
    rw [run_best]
    unfold Circumstances.barring cleared
    rw [hcalm, hcalm, hclear]

/-- An accepted submission of the user 1 to the problem 10. -/
def acceptedOf (id : SubmissionId) (second : Int) (runTime : Option Int32) : Submission :=
  { Submission.ofDraft id ⟨second, 0⟩ ⟨10, 1, "cpp", "x"⟩ with status := .accepted, runTime }

/-- One submission is accepted at once and has no run time, and two have the greatest one. -/
def race : List (Instant × Filing) :=
  [(⟨9, 0⟩, .submission (acceptedOf 1 1 none)),
    (⟨9, 0⟩, .submission (.ofDraft 2 ⟨5, 0⟩ ⟨10, 1, "cpp", "x"⟩)),
    (⟨9, 0⟩, .verdict 2 ⟨.accepted, some 2147483647, none, none, none, none⟩),
    (⟨9, 0⟩, .submission (acceptedOf 3 4 (some 2147483647)))]

/-- The race, with the submissions in another order and at other times. -/
def rerun : List (Instant × Filing) :=
  [(⟨6, 0⟩, .submission (acceptedOf 3 4 (some 2147483647))),
    (⟨6, 0⟩, .submission (.ofDraft 2 ⟨5, 0⟩ ⟨10, 1, "cpp", "x"⟩)),
    (⟨7, 0⟩, .submission (acceptedOf 1 1 none)),
    (⟨8, 0⟩, .verdict 2 ⟨.accepted, some 2147483647, none, none, none, none⟩)]

lemma about_race (id : SubmissionId) : Filing.about id race = Filing.about id rerun := by
  by_cases h1 : id = 1
  · rw [h1]
    rfl
  by_cases h2 : id = 2
  · rw [h2]
    rfl
  by_cases h3 : id = 3
  · rw [h3]
    rfl
  simp [Filing.about, race, rerun, Filing.id, acceptedOf, Submission.ofDraft, Ne.symm h1,
    Ne.symm h2, Ne.symm h3]

theorem best_is_least_race :
    ∃ b, (empty.filedAll race).best? 1 10 = some b ∧ b.id = 3 ∧
      b.Outdoes (acceptedOf 1 1 none) ∧
      ((empty.filedAll rerun).best? 1 10).map Veil.undating.hide =
        some (Veil.undating.hide b) := by
  have hb : (empty.filedAll race).best? 1 10 = some (acceptedOf 3 4 (some 2147483647)) := by
    decide
  obtain ⟨-, hleast, -, -⟩ := best_is_least (empty.filedAll race) 1 10
  obtain ⟨-, -, -, horder⟩ := best_is_least empty 1 10
  obtain ⟨-, -, houtdoes⟩ := hleast _ hb
  refine ⟨_, hb, rfl, (houtdoes _ ?_ ⟨rfl, rfl, rfl, rfl⟩ (by decide)).1, ?_⟩
  · decide
  · rw [← horder race rerun about_race, hb]
    rfl

end Store

end Arbiter
