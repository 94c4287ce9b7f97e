import Arbiter.Proofs.Desk.Best
import Arbiter.Proofs.Store.Pages
import Mathlib.Data.Finset.Card

/-!
What a store tells about a user: the numbers of submissions and of solved problems, and for each
problem the standing, the best submission and how much a list of them finds (`Profile`). Each of
these has a scan of its own; all of them look at the same live submissions
(`length_matching_ofUser`, `matching_ofUser_some`, `standing_eq_accepted`, `mem_solved`), so they
are consistent with each other (`tells_profile`, `isConsistent_profile`).
-/

namespace Arbiter

/-- The store's answers to the questions about a user. -/
structure Profile where
  count : Int64
  solved : Int64
  standing : ProblemId → Standing
  best : ProblemId → Option Submission
  /-- How much the lists of the user's submissions find, to all problems or to one. -/
  total : Option ProblemId → Int64

/-- The answers agree with each other. -/
structure Profile.IsConsistent (p : Profile) : Prop where
  count : p.count = p.total none
  notAttempted : ∀ problem, p.standing problem = .notAttempted ↔ p.total (some problem) = 0
  accepted : ∀ problem, p.standing problem = .accepted ↔ (p.best problem).isSome = true
  solved : ∃ problems : Finset ProblemId,
    (∀ problem, problem ∈ problems ↔ p.standing problem = .accepted) ∧
      p.solved.toInt = problems.card
  solved_le : p.solved ≤ p.count

lemma Profile.IsConsistent.solved_mono {p q : Profile} (hp : p.IsConsistent) (hq : q.IsConsistent)
    (h : ∀ problem, p.standing problem = .accepted → q.standing problem = .accepted) :
    p.solved ≤ q.solved := by
  obtain ⟨ps, hps, hpcard⟩ := hp.solved
  obtain ⟨qs, hqs, hqcard⟩ := hq.solved
  have hsubset : ps ⊆ qs := fun problem hmem => (hqs _).2 (h _ ((hps _).1 hmem))
  rw [Int64.le_iff_toInt_le, hpcard, hqcard]
  exact Int.ofNat_le.2 (Finset.card_le_card hsubset)

namespace Filter

/-- A list of the submissions of a user, to all problems or to one. -/
def ofUser (user : UserId) (problem : Option ProblemId) (page pageSize : UInt32) : Filter :=
  ⟨some user, problem, none, none, page, pageSize⟩

lemma finds_ofUser {user : UserId} {problem : Option ProblemId} {page pageSize : UInt32}
    {x : Submission} : (ofUser user problem page pageSize).Finds x ↔
      x.isDeleted = false ∧ x.userId = user ∧ ∀ p ∈ problem, x.problemId = p := by
  constructor
  · intro h
    exact ⟨h.live, h.user _ rfl, h.problem⟩
  · rintro ⟨hlive, huser, hproblem⟩
    exact ⟨hlive, fun _ hu => huser.trans (Option.some.inj hu), hproblem, nofun, nofun⟩

end Filter

namespace Store

/-- The store answers a call with `r`, whatever the time, and stays as it is. -/
def Answers (s : Store) (c : StoreCall) (r : c.Result) : Prop := ∀ now, s.run now c = (.ok r, s)

lemma Answers.unique {s : Store} {c : StoreCall} {r r' : c.Result} (h : s.Answers c r)
    (h' : s.Answers c r') : r = r' :=
  Except.ok.inj (congrArg Prod.fst ((h ⟨0, 0⟩).symm.trans (h' ⟨0, 0⟩)))

/-- The profile is what the store answers to the questions about a user. -/
structure Tells (s : Store) (user : UserId) (p : Profile) : Prop where
  count : s.Answers (.countByUser user) p.count
  solved : s.Answers (.countSolved user) p.solved
  standing : ∀ problem, s.Answers (.standing user problem) (p.standing problem)
  best : ∀ problem, s.Answers (.findBest user problem) (p.best problem)
  /-- Whatever page of a list is asked for, its total is told. -/
  total : ∀ problem page pageSize, ∃ rows,
    s.Answers (.list (.ofUser user problem page pageSize)) (rows, p.total problem)
  /-- What is solved is solved by a stored submission. -/
  solution : ∀ problem,
    p.standing problem = .accepted ↔ ∃ x ∈ s.submissions.rows, x.Solves user problem
  /-- The desk gives the numbers out. -/
  stats : ∀ k : Circumstances, (∀ n, k.fault n = none) →
    (k.run (Desk.stats user).run s).1 = .ok ⟨user, p.count, p.solved⟩

/-- What a store tells about a user. -/
def profile (s : Store) (user : UserId) : Profile where
  count := .ofNat (s.countByUser user)
  solved := .ofNat (s.solved user).length
  standing := s.standing user
  best := s.best? user
  total problem := .ofNat (s.matching (.ofUser user problem 1 1)).length

variable {s : Store} {user : UserId} {problem : ProblemId}

/-! ### What the scans look at -/

lemma length_matching_ofUser (page pageSize : UInt32) :
    (s.matching (.ofUser user none page pageSize)).length = s.countByUser user := by
  unfold matching countByUser live
  rw [List.filter_filter]
  refine congrArg List.length (List.filter_congr fun x _ => ?_)
  rw [Bool.eq_iff_iff, Filter.holds_iff, Filter.finds_ofUser]
  simp [and_comm]

lemma matching_ofUser_some (page pageSize : UInt32) :
    s.matching (.ofUser user (some problem) page pageSize) = s.attempts user problem := by
  unfold matching attempts live
  rw [List.filter_filter]
  refine List.filter_congr fun x _ => ?_
  rw [Bool.eq_iff_iff, Filter.holds_iff, Filter.finds_ofUser]
  simp [and_comm]

lemma any_attempts : ((s.attempts user problem).any fun x => x.status == .accepted) = true ↔
    ∃ x ∈ s.submissions.rows, x.Solves user problem := by
  simp only [List.any_eq_true, ← mem_solutions, solutions, List.mem_filter]

lemma standing_eq_accepted : s.standing user problem = .accepted ↔
    ∃ x ∈ s.submissions.rows, x.Solves user problem := by
  rw [← any_attempts]
  unfold standing
  dsimp only
  split
  · rename_i hany
    exact iff_of_true rfl hany
  · rename_i hany
    refine iff_of_false ?_ hany
    split <;> simp

lemma standing_eq_notAttempted :
    s.standing user problem = .notAttempted ↔ s.attempts user problem = [] := by
  unfold standing
  dsimp only
  rcases s.attempts user problem with _ | ⟨x, xs⟩
  · exact iff_of_true rfl rfl
  · refine iff_of_false ?_ (List.cons_ne_nil x xs)
    split <;> simp

lemma mem_solved :
    problem ∈ s.solved user ↔ ∃ x ∈ s.submissions.rows, x.Solves user problem := by
  unfold solved live
  rw [List.mem_eraseDups, List.mem_map]
  simp only [List.mem_filter, Bool.and_eq_true, Bool.not_eq_true', beq_iff_eq]
  constructor
  · rintro ⟨x, ⟨⟨hx, hlive⟩, huser, hstatus⟩, hproblem⟩
    exact ⟨x, hx, hlive, huser, hproblem, hstatus⟩
  · rintro ⟨x, hx, hlive, huser, hproblem, hstatus⟩
    exact ⟨x, ⟨⟨hx, hlive⟩, huser, hstatus⟩, hproblem⟩

lemma nodup_eraseDups {α : Type} [DecidableEq α] (as : List α) : as.eraseDups.Nodup := by
  induction h : as.length using Nat.strong_induction_on generalizing as with
  | _ n ih =>
    subst h
    cases as with
    | nil => exact List.nodup_nil
    | cons a as =>
      rw [List.eraseDups_cons, List.nodup_cons]
      refine ⟨by simp, ih _ ?_ _ rfl⟩
      exact Nat.lt_succ_of_le (List.length_filter_le _ _)

lemma nodup_solved : (s.solved user).Nodup := nodup_eraseDups _

/-- Each solved problem has a submission of the user. -/
lemma length_solved_le : (s.solved user).length ≤ s.countByUser user := by
  have hsolutions : (s.solved user).length ≤
      (s.live.filter fun x => x.userId == user && x.status == .accepted).length := by
    rw [← List.length_map Submission.problemId]
    exact (List.subperm_of_subset nodup_solved fun _ => List.mem_eraseDups.1).length_le
  refine hsolutions.trans ?_
  unfold countByUser
  rw [← List.countP_eq_length_filter, ← List.countP_eq_length_filter]
  exact List.countP_mono_left fun x _ hx => (Bool.and_eq_true_iff.1 hx).1

/-! ### The profile -/

lemma run_stats {k : Circumstances} (hk : ∀ n, k.fault n = none) (s : Store) (user : UserId) :
    (k.run (Desk.stats user).run s).1 =
      .ok ⟨user, (s.profile user).count, (s.profile user).solved⟩ := by
  have hstats : (Desk.stats user).run = .ask (.store (.countByUser user)) fun
      | .error f => .done (.error f)
      | .ok count => .ask (.store (.countSolved user)) fun r =>
        .done (r.map fun solved => ⟨user, count, solved⟩) := by
    refine congrArg (Program.ask _) (funext fun r => ?_)
    rcases r with f | count
    · rfl
    refine congrArg (Program.ask _) (funext fun r => ?_)
    rcases r with f | solved <;> rfl
  unfold Circumstances.run
  rw [hstats, interpret_store, hk]
  simp only [run]
  rw [interpret_store, hk]
  rfl

lemma tells_profile (s : Store) (user : UserId) : s.Tells user (s.profile user) where
  count _ := rfl
  solved _ := rfl
  standing _ _ := rfl
  best _ _ := rfl
  total _ _ _ := ⟨_, fun _ => rfl⟩
  solution _ := standing_eq_accepted
  stats _ hk := run_stats hk s user

lemma ofNat_eq_zero {n : Nat} (h : n ≤ 2 ^ 61) : Int64.ofNat n = 0 ↔ n = 0 := by
  rw [← Int64.toInt_inj, Int64.toInt_ofNat_of_lt (by omega)]
  exact Int.natCast_eq_zero

lemma countByUser_le (hs : s.FitsInMemory) (user : UserId) : s.countByUser user ≤ 2 ^ 61 := by
  rw [← length_matching_ofUser 1 1]
  exact length_matching_le hs _

lemma toInt_count (hs : s.FitsInMemory) (user : UserId) :
    (s.profile user).count.toInt = s.countByUser user := by
  have hroom := countByUser_le hs user
  exact Int64.toInt_ofNat_of_lt (by omega)

lemma toInt_solved (hs : s.FitsInMemory) (user : UserId) :
    (s.profile user).solved.toInt = (s.solved user).length := by
  have hroom := countByUser_le hs user
  have hle : (s.solved user).length ≤ s.countByUser user := length_solved_le
  exact Int64.toInt_ofNat_of_lt (by omega)

theorem isConsistent_profile (hs : s.FitsInMemory) (user : UserId) :
    (s.profile user).IsConsistent := by
  refine {
    count := congrArg Int64.ofNat (length_matching_ofUser 1 1).symm
    notAttempted := fun problem => ?_
    accepted := fun problem => ?_
    solved := ⟨(s.solved user).toFinset, fun problem => ?_, ?_⟩
    solved_le := ?_ }
  · show s.standing user problem = _ ↔ Int64.ofNat (s.matching _).length = 0
    rw [standing_eq_notAttempted, ofNat_eq_zero (length_matching_le hs _), matching_ofUser_some,
      List.length_eq_zero_iff]
  · show s.standing user problem = _ ↔ (s.best? user problem).isSome = true
    rw [standing_eq_accepted, Option.isSome_iff_ne_none, Ne, best?_eq_none]
    simp
  · rw [List.mem_toFinset, mem_solved]
    exact standing_eq_accepted.symm
  · rw [toInt_solved hs, List.toFinset_card_of_nodup nodup_solved]
  · rw [Int64.le_iff_toInt_le, toInt_count hs, toInt_solved hs]
    exact Int.ofNat_le.2 length_solved_le

end Store

end Arbiter
