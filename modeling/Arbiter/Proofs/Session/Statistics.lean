import Arbiter.Proofs.Session.Calls
import Arbiter.Proofs.Session.Created
import Arbiter.Proofs.Store.Profile

/-!
The statistics of a user, which take two reads. Others are at work between them: what is solved at
the second was stored at the first already, or was created since (`origin_after`). So there are no
more solved problems than the submissions of the first read and the problems that are solved by new
ones (`length_solved_after_le`); with new ones, there may be more than submissions (`stats_outrun`).
-/

namespace Arbiter

lemma Fate.isDeleted_eq {x y : Submission} (h : Fate (some x) (some y)) :
    y.isDeleted = x.isDeleted := by
  cases h <;> rfl

namespace Session

/-- The problems that a user solved with submissions that are created in a run, each once. -/
def newlySolved (s : Session) (ms : List Move) (user : UserId) : List ProblemId :=
  (((s.created ms).filter fun x => x.userId == user &&
    ((s.after ms).store.find? x.id).any (·.status == .accepted)).map (·.problemId)).eraseDups

variable {s : Session} {m : Move} {ms : List Move} {user : UserId} {problem : ProblemId}

/-! ### Where stored submissions come from -/

lemma Stir.origin {x : Option Submission} {t : Store} (h : s.Stir m x t) {id : SubmissionId}
    {a : Submission} (ha : t.row? id = some a) :
    (∃ y ∈ x, y.id = id ∧ Fate (some y) (some a)) ∨
      ∃ y, s.store.row? id = some y ∧ Fate (some y) (some a) := by
  cases h with
  | effect h =>
    have hfate := h.fate id
    rcases hrow : s.store.row? id with _ | y
    · rw [hrow, ha] at hfate
      cases hfate
    · rw [hrow, ha] at hfate
      exact .inr ⟨y, rfl, hfate⟩
  | created now d =>
    rw [Store.row?_create] at ha
    split at ha
    · rename_i hid
      cases ha
      exact .inl ⟨_, rfl, hid.symm, .same _⟩
    · exact .inr ⟨a, ha, .same _⟩
  | user | problem => exact .inr ⟨a, ha, .same _⟩

/-- **What is stored after a run was created in it, or is what became of something stored before**,
even where new submissions take the place of others. -/
theorem origin_after (hs : s.IsFair) {id : SubmissionId} {a : Submission}
    (ha : (s.after ms).store.row? id = some a) :
    (∃ x ∈ s.created ms, x.id = id ∧ Fate (some x) (some a)) ∨
      ∃ y, s.store.row? id = some y ∧ Fate (some y) (some a) := by
  induction ms generalizing s with
  | nil => exact .inr ⟨a, ha, .same _⟩
  | cons m ms ih =>
    rw [created_cons]
    -- `z` is stored after the first move, and has its fate in the others
    rcases ih (hs.step m) ha with ⟨x, hx, hid, hfate⟩ | ⟨z, hz, hfate⟩
    · exact .inl ⟨x, List.mem_append_right _ hx, hid, hfate⟩
    rcases (hs.stir m).origin hz with ⟨x, hx, hid, hfirst⟩ | ⟨y, hy, hfirst⟩
    · exact .inl ⟨x, List.mem_append_left _ (Option.mem_toList.2 hx), hid, hfirst.trans hfate⟩
    · exact .inr ⟨y, hy, hfirst.trans hfate⟩

/-! ### Counting solved problems -/

/-- A problem that is solved after a run is newly solved, or was attempted before. -/
lemma mem_solved_after (hs : s.IsFair) (h : problem ∈ (s.after ms).store.solved user) :
    (∃ y ∈ s.store.live.filter fun y => y.userId == user, y.problemId = problem) ∨
      problem ∈ s.newlySolved ms user := by
  obtain ⟨a, hmem, hlive, huser, hproblem, hstatus⟩ := Store.mem_solved.1 h
  have ha : (s.after ms).store.row? a.id = some a := Table.find?_of_mem hmem
  rcases origin_after hs ha with ⟨x, hx, hid, hfate⟩ | ⟨y, hy, hfate⟩
  · right
    obtain ⟨horigin, -⟩ := hfate.sameOrigin
    unfold newlySolved
    rw [List.mem_eraseDups, List.mem_map]
    refine ⟨x, List.mem_filter.2 ⟨hx, ?_⟩, horigin.problemId.symm.trans hproblem⟩
    have hfind : (s.after ms).store.find? x.id = some a := by
      rw [hid]
      exact Store.find?_eq_some.2 ⟨ha, hlive⟩
    rw [hfind, Option.any_some, hstatus, ← horigin.userId, huser, beq_self_eq_true]
    rfl
  · left
    obtain ⟨horigin, -⟩ := hfate.sameOrigin
    refine ⟨y, ?_, horigin.problemId.symm.trans hproblem⟩
    unfold Store.live
    rw [List.mem_filter, List.mem_filter, ← hfate.isDeleted_eq, hlive, ← horigin.userId, huser]
    exact ⟨⟨Table.mem_of_find? hy, rfl⟩, beq_self_eq_true user⟩

theorem length_solved_after_le (hs : s.IsFair) (ms : List Move) (user : UserId) :
    ((s.after ms).store.solved user).length ≤
      s.store.countByUser user + (s.newlySolved ms user).length := by
  have hsubset : (s.after ms).store.solved user ⊆
      (s.store.live.filter fun y => y.userId == user).map (·.problemId) ++
        s.newlySolved ms user := by
    intro problem h
    rw [List.mem_append, List.mem_map]
    exact mem_solved_after hs h
  have hlength := (List.subperm_of_subset Store.nodup_solved hsubset).length_le
  rwa [List.length_append, List.length_map] at hlength

/-! ### The two reads -/

lemma log_of_stats {log : List (Exchange WorkInterface)} {st : UserStats}
    (h : (Duty.stats user).work.Leads log (.done (.counted (.ok st)))) :
    st.userId = user ∧ log = [⟨.store (.countByUser user), .ok st.submissionCount⟩,
      ⟨.store (.countSolved user), .ok st.acceptedProblemCount⟩] := by
  obtain ⟨r, rest, rfl, hcounted⟩ := Program.leads_ask_done.1 h
  rcases r with f | count
  · obtain ⟨-, hended⟩ := Program.leads_done.1 hcounted
    cases hended
  obtain ⟨r, rest, rfl, hsolved⟩ := Program.leads_ask_done.1 hcounted
  rcases r with f | solved
  · obtain ⟨-, hended⟩ := Program.leads_done.1 hsolved
    cases hended
  obtain ⟨rfl, hended⟩ := Program.leads_done.1 hsolved
  cases hended
  exact ⟨rfl, rfl⟩

section

variable {i : Nat} {before rest : List Move} {n : Int64}

lemma CallAt.told {c : StoreCall} {r : c.Result}
    (h : s.CallAt i ms before m rest ⟨.store c, .ok r⟩) :
    ∃ now, ((s.after before).store.run now c).1 = .ok r := by
  obtain ⟨t, d, next, hmakes⟩ := makes_of_exchange? h.call
  exact ⟨t.now, hmakes.run_of_ok.1⟩

lemma CallAt.toInt_count (h : s.CallAt i ms before m rest ⟨.store (.countByUser user), .ok n⟩)
    (hfits : s.Throughout Store.FitsInMemory ms) :
    n.toInt = (s.after before).store.countByUser user := by
  obtain ⟨now, hr⟩ := h.told
  rw [← Except.ok.inj hr]
  exact Store.toInt_count (h.holds hfits) user

lemma CallAt.toInt_solved (h : s.CallAt i ms before m rest ⟨.store (.countSolved user), .ok n⟩)
    (hfits : s.Throughout Store.FitsInMemory ms) :
    n.toInt = ((s.after before).store.solved user).length := by
  obtain ⟨now, hr⟩ := h.told
  rw [← Except.ok.inj hr]
  exact Store.toInt_solved (h.holds hfits) user

end

/-- **Statistics agree but for what is solved between their reads.** Whoever works on the store
before, between and after its two calls, the statistics of a user are the number of the user's
submissions at one moment and the number of solved problems at a later one, and the second is no
greater than the first and the number of problems that are solved by submissions created in between.
If there are none of these, it is no greater than the first. -/
theorem stats_agree_but_for_new (s : Store) (i : Nat) (ms : List Move)
    (hfits : (opened s).Throughout Store.FitsInMemory ms) {user : UserId} {st : UserStats}
    (hdone : ((opened s).after ms).tasks[i]? = some ⟨.stats user, .done (.counted (.ok st))⟩) :
    st.userId = user ∧ ∃ before m between m' rest,
      (opened s).CallAt i ms before m (between ++ m' :: rest)
        ⟨.store (.countByUser user), .ok st.submissionCount⟩ ∧
      (opened s).CallAt i ms (before ++ m :: between) m' rest
        ⟨.store (.countSolved user), .ok st.acceptedProblemCount⟩ ∧
      st.submissionCount.toInt = ((opened s).after before).store.countByUser user ∧
      st.acceptedProblemCount.toInt =
        (((opened s).after (before ++ m :: between)).store.solved user).length ∧
      st.acceptedProblemCount.toInt ≤ st.submissionCount.toInt +
        (((opened s).after before).newlySolved (m :: between) user).length ∧
      (((opened s).after before).newlySolved (m :: between) user = [] →
        st.acceptedProblemCount ≤ st.submissionCount) := by
  obtain ⟨huser, hlog⟩ := log_of_stats (leads_calls s i ms hdone)
  refine ⟨huser, ?_⟩
  -- the run is cut where each of the two reads is made
  obtain ⟨before, m, later, rfl, -, hcall, hlater⟩ := calls_eq_cons hlog
  obtain ⟨between, m', rest, rfl, -, hcall', -⟩ := calls_eq_cons hlater
  have hfirst : (opened s).CallAt i (before ++ m :: (between ++ m' :: rest)) before m
      (between ++ m' :: rest) ⟨.store (.countByUser user), .ok st.submissionCount⟩ := ⟨rfl, hcall⟩
  have hsecond : (opened s).CallAt i (before ++ m :: (between ++ m' :: rest))
      (before ++ m :: between) m' rest
      ⟨.store (.countSolved user), .ok st.acceptedProblemCount⟩ := by
    refine ⟨?_, ?_⟩
    · rw [List.append_assoc, List.cons_append]
    · rw [after_append]
      exact hcall'
  have hcount := hfirst.toInt_count hfits
  have hsolved := hsecond.toInt_solved hfits
  have hle := length_solved_after_le ((isFair_opened s).after before) (m :: between) user
  rw [← after_append] at hle
  refine ⟨before, m, between, m', rest, hfirst, hsecond, hcount, hsolved, ?_, fun hnone => ?_⟩
  · omega
  · rw [hnone, List.length_nil] at hle
    rw [Int64.le_iff_toInt_le]
    omega

/-- A submission is created and accepted between the two reads of a task. -/
def outrunMoves : List Move :=
  [.start (.stats 1), .turn (smoothTurn 0), .start (.submit ⟨1, .user⟩ 10 "lean" "example"),
    .turn (smoothTurn 1), .turn (smoothTurn 1), .turn (smoothTurn 1),
    .start (.apply reportedScore firstAccepted), .turn (smoothTurn 2), .turn (smoothTurn 2),
    .turn (smoothTurn 2), .turn (smoothTurn 0)]

theorem stats_agree_but_for_new_one : ∃ before m between m' rest,
    (opened smallStore).CallAt 0 outrunMoves before m (between ++ m' :: rest)
      ⟨.store (.countByUser 1), .ok 0⟩ ∧
    (opened smallStore).CallAt 0 outrunMoves (before ++ m :: between) m' rest
      ⟨.store (.countSolved 1), .ok 1⟩ ∧
    (1 : Int) ≤ 0 + (((opened smallStore).after before).newlySolved (m :: between) 1).length := by
  have hdone : ((opened smallStore).after outrunMoves).tasks[0]? =
      some ⟨.stats 1, .done (.counted (.ok ⟨1, 0, 1⟩))⟩ := rfl
  obtain ⟨-, before, m, between, m', rest, hfirst, hsecond, -, -, hle, -⟩ :=
    stats_agree_but_for_new smallStore 0 outrunMoves (by decide) hdone
  exact ⟨before, m, between, m', rest, hfirst, hsecond, hle⟩

/-- **Statistics do not agree by themselves.** More solved problems than submissions are told of,
when a submission is created and accepted between the two reads. -/
theorem stats_outrun : ∃ st,
    ((opened smallStore).after outrunMoves).tasks[0]? =
      some ⟨.stats 1, .done (.counted (.ok st))⟩ ∧
    ¬ st.acceptedProblemCount ≤ st.submissionCount :=
  ⟨_, rfl, by decide⟩

end Session

end Arbiter
