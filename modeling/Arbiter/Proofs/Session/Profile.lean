import Arbiter.Proofs.Session.Kept
import Arbiter.Proofs.Store.Profile

/-!
What is told about a user along a run. Accepted submissions are final, so they stay unless a new
submission takes the place of one; then a problem that is solved stays solved (`standing_after`),
and at every two moments of a run the later profile tells of no fewer solved problems
(`profiles_agree`). New submissions take the place of others only when the ids run out, as in
`wornStore`.
-/

namespace Arbiter

namespace Submission

/-- The submission is an accepted one of the user, to whatever problem, and not deleted. -/
def IsSolutionBy (user : UserId) (x : Submission) : Prop := ∃ problem, x.Solves user problem

lemma Solves.isPending {x : Submission} {user : UserId} {problem : ProblemId}
    (h : x.Solves user problem) : x.isPending = false := by
  rw [isPending_eq_false, h.accepted]
  rfl

end Submission

namespace Session

lemma standing_after {s : Session} (hs : s.IsFair) {user : UserId} {problem : ProblemId}
    {ms : List Move} (hspares : s.Spares (Submission.IsSolutionBy user) ms)
    (h : s.store.standing user problem = .accepted) :
    (s.after ms).store.standing user problem = .accepted := by
  obtain ⟨x, hx, hsolves⟩ := Store.standing_eq_accepted.1 h
  have hrow : s.store.row? x.id = some x := Table.find?_of_mem hx
  have hkept := row?_after_of_spared hs hspares hrow hsolves.isPending ⟨problem, hsolves⟩
  exact Store.standing_eq_accepted.2 ⟨x, Table.mem_of_find? hkept, hsolves⟩

/-- **The profiles of a user agree.** What a store tells about a user is consistent, at every two
moments of a run. If no submission that is created in between takes the place of a solution of the
user, then each problem that was solved is still solved and the number of solved problems is no
less. As long as the ids of a store that was filled from the empty one last, none takes a place. -/
theorem profiles_agree (s : Store) (user : UserId) (before rest : List Move)
    (hfits : ((opened s).after before).store.FitsInMemory)
    (hfits' : ((opened s).after (before ++ rest)).store.FitsInMemory) :
    ∃ p q : Profile,
      (((opened s).after before).store.Tells user p ∧ p.IsConsistent) ∧
      (((opened s).after (before ++ rest)).store.Tells user q ∧ q.IsConsistent) ∧
      (((opened s).after before).Spares (Submission.IsSolutionBy user) rest →
        (∀ problem, p.standing problem = .accepted → q.standing problem = .accepted) ∧
          p.solved ≤ q.solved) ∧
      (s.Numbered → (opened s).Throughout Store.HasIds (before ++ rest) →
        ((opened s).after before).Spares (Submission.IsSolutionBy user) rest) := by
  have hfair : ((opened s).after before).IsFair := (isFair_opened s).after before
  have hp := Store.isConsistent_profile hfits user
  have hq := Store.isConsistent_profile hfits' user
  refine ⟨_, _, ⟨Store.tells_profile _ user, hp⟩, ⟨Store.tells_profile _ user, hq⟩,
    fun hspares => ?_, fun hs hi => ?_⟩
  · have hstanding : ∀ problem,
        ((opened s).after before).store.standing user problem = .accepted →
          ((opened s).after (before ++ rest)).store.standing user problem = .accepted := by
      intro problem h
      rw [after_append]
      exact standing_after hfair hspares h
    exact ⟨hstanding, hp.solved_mono hq hstanding⟩
  · obtain ⟨hbefore, hrest⟩ := throughout_append.1 hi
    exact ((sound_opened hs).after hbefore).spares _ hrest

theorem profiles_agree_twice : ∃ p q : Profile,
    p.standing 10 = .accepted ∧ p.solved = 1 ∧ q.standing 10 = .accepted ∧ p.solved ≤ q.solved ∧
      q.count = 2 ∧ q.total (some 10) = 2 := by
  obtain ⟨p, q, ⟨hp, -⟩, ⟨hq, -⟩, hkept, hspares⟩ := profiles_agree smallStore 1
    (submitMoves ++ .turn (smoothTurn 0) :: judgeMoves)
    [.start (.submit ⟨1, .user⟩ 10 "lean" "example"), .turn (smoothTurn 2), .turn (smoothTurn 2),
      .turn (smoothTurn 2)] (by decide) (by decide)
  obtain ⟨hstanding, hsolved⟩ := hkept (hspares (fun _ _ => rfl) (by decide))
  have haccepted : p.standing 10 = .accepted := (hp.standing 10).unique fun _ => rfl
  obtain ⟨rows, htotal⟩ := hq.total (some 10) 1 1
  refine ⟨p, q, haccepted, hp.solved.unique fun _ => rfl, hstanding 10 haccepted, hsolved,
    hq.count.unique fun _ => rfl, ?_⟩
  exact congrArg Prod.snd (htotal.unique fun _ => rfl)

/-- A solution is stored under the least id, and another submission under the greatest. -/
def wornStore : Store :=
  (smallStore.insertSubmission (Store.acceptedOf Int64.minValue 1 (some 5))).insertSubmission
    (.ofDraft Int64.maxValue ⟨1, 0⟩ ⟨10, 1, "cpp", "x"⟩)

/-- **A solution is lost when the ids run out.** The next submission of the user is stored in its
place, and the problem is not solved any more. -/
theorem solution_replaced : wornStore.Numbered ∧ wornStore.FitsInMemory ∧
    wornStore.Answers (.standing 1 10) .accepted ∧ wornStore.Answers (.countSolved 1) 1 ∧
    ((opened wornStore).after (submitMoves ++ [.turn (smoothTurn 0)])).store.Answers
      (.standing 1 10) .attempted ∧
    ((opened wornStore).after (submitMoves ++ [.turn (smoothTurn 0)])).store.Answers
      (.countSolved 1) 0 := by
  have hsmall : smallStore.Numbered := fun _ _ => rfl
  exact ⟨(hsmall.insertSubmission _).insertSubmission _, by decide, fun _ => rfl, fun _ => rfl,
    fun _ => rfl, fun _ => rfl⟩

end Session

end Arbiter
