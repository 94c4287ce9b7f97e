import Arbiter.Proofs.Desk.Clearance

/-!
Which submits are taken in, and what becomes of them. A submit needs a language tag and a code that
are in order, an account that is in use, and a problem that is open to everyone or to the stored
account (`Admissible`); the first of these that is missing decides how it fails (`Refuses`), and one
of the two is always so (`admissible_or_refuses`). Where no call fails and the dispatcher takes
every job and leaves the store alone (`IsCalm`), a submit that is refused leaves everything as it is
(`run_submit_of_refuses`), and any other adds one submission, counts it for its problem and hands
its job over, and does nothing else (`run_submit_of_admissible`).
-/

namespace Arbiter

/-- No store call fails, and a dispatcher takes every job and leaves the store alone. -/
structure Circumstances.IsCalm (k : Circumstances) : Prop where
  fault : ∀ n, k.fault n = none
  dispatch : ∀ n id, k.dispatch n id = ([], .ok ())

/-- The problem is open to everyone, or to the account as its owner or for its stored role. -/
def User.MayEnter (u : User) (q : Problem) : Prop :=
  q.visibility = .everyone ∨ u.id = q.ownerId ∨ u.role = .admin ∨ u.role = .superAdmin

lemma mayEnter_iff {u : User} {q : Problem} :
    u.MayEnter q ↔ (!q.isPublic && !Caller.mayAccess ⟨u.id, u.role⟩ q.ownerId) = false := by
  obtain ⟨id, role, status⟩ := u
  cases role <;>
    simp [User.MayEnter, Problem.isPublic, Caller.mayAccess, Caller.isElevated, Role.isElevated]
  by_cases h : q.visibility = .everyone <;> simp [h]

lemma User.isActive_iff {u : User} : u.isActive = true ↔ u.status = .normal := by
  unfold isActive
  exact beq_iff_eq

namespace Store

variable (s : Store) (c : Caller) (problem : ProblemId) (language code : String)

/-- What a submit needs: texts that are in order, an account that is in use, and a problem that the
account may enter. -/
structure Admissible (u : User) (q : Problem) : Prop where
  language : checkLanguage language = .ok ()
  code : checkCode code = .ok ()
  user : s.users.find? c.userId = some u
  normal : u.status = .normal
  problem : s.problems.find? problem = some q
  access : u.MayEnter q

/-- The failure of the first need that is not met. -/
inductive Refuses : Failure → Prop
  | language {reason : String} (h : checkLanguage language = .error reason) :
      Refuses (.validation reason)
  | code (hlanguage : checkLanguage language = .ok ()) {reason : String}
      (h : checkCode code = .error reason) : Refuses (.validation reason)
  | account (hlanguage : checkLanguage language = .ok ()) (hcode : checkCode code = .ok ())
      (h : ∀ u, s.users.find? c.userId = some u → u.status ≠ .normal) : Refuses .unauthorized
  | problem (hlanguage : checkLanguage language = .ok ()) (hcode : checkCode code = .ok ())
      {u : User} (hu : s.users.find? c.userId = some u) (hnormal : u.status = .normal)
      (h : s.problems.find? problem = none) : Refuses (.notFound "Problem not found")
  | access (hlanguage : checkLanguage language = .ok ()) (hcode : checkCode code = .ok ())
      {u : User} (hu : s.users.find? c.userId = some u) (hnormal : u.status = .normal)
      {q : Problem} (hq : s.problems.find? problem = some q) (h : ¬ u.MayEnter q) :
      Refuses (.forbidden "You do not have access to this problem")

/-- The store with one submission more, made from a draft at some time under an id that is greater
than all ids before, and counted for its problem; all else is as it was. -/
structure TakesIn (d : Draft) (x : Submission) (t : Store) : Prop where
  made : ∃ now, x = .ofDraft x.id now d
  unused : ∀ y ∈ s.submissions.rows, y.id < x.id
  submissions : ∀ id, t.row? id = if id = x.id then some x else s.row? id
  counted : ∃ q r, s.problems.find? d.problemId = some q ∧ t.problems.find? d.problemId = some r ∧
    r.submitCount.toInt = q.submitCount.toInt + 1 ∧ r = { q with submitCount := r.submitCount }
  problems : ∀ p, p ≠ d.problemId → t.problems.find? p = s.problems.find? p
  users : t.users = s.users
  lastId : t.lastId = x.id

variable {s c problem language code}

lemma clearance_of_normal {u : User} (hu : s.users.find? c.userId = some u)
    (hnormal : u.status = .normal) : s.clearance c.userId = some ⟨u.id, u.role⟩ := by
  unfold clearance
  rw [hu, Option.filter_some, if_pos (User.isActive_iff.2 hnormal), Option.map_some]

theorem admissible_or_refuses : (∃ u q, s.Admissible c problem language code u q) ∨
    ∃ f, s.Refuses c problem language code f := by
  rcases hlanguage : checkLanguage language with reason | ⟨⟨⟩⟩
  · exact .inr ⟨_, .language hlanguage⟩
  rcases hcode : checkCode code with reason | ⟨⟨⟩⟩
  · exact .inr ⟨_, .code hlanguage hcode⟩
  by_cases haccount : ∃ u, s.users.find? c.userId = some u ∧ u.status = .normal
  · obtain ⟨u, hu, hnormal⟩ := haccount
    rcases hq : s.problems.find? problem with _ | q
    · exact .inr ⟨_, .problem hlanguage hcode hu hnormal hq⟩
    by_cases haccess : u.MayEnter q
    · exact .inl ⟨u, q, hlanguage, hcode, hu, hnormal, hq, haccess⟩
    · exact .inr ⟨_, .access hlanguage hcode hu hnormal hq haccess⟩
  · refine .inr ⟨_, .account hlanguage hcode fun u hu hnormal => ?_⟩
    exact haccount ⟨u, hu, hnormal⟩

end Store

/-! ### The work of a submit -/

section Submit

variable {k : Circumstances} (hk : k.IsCalm) {s : Store} {c : Caller} {problem : ProblemId}
  {language code : String}
include hk

lemma interpret_store_calm {α : Type} (call : StoreCall)
    (next : Except Failure call.Result → Program DeskInterface α) (d : DeskState) :
    (Program.ask (I := DeskInterface) (.store call) next).interpret k.answer d =
      (next (d.store.run (k.now d.calls) call).1).interpret k.answer
        { d with store := (d.store.run (k.now d.calls) call).2, calls := d.calls + 1 } := by
  rw [interpret_store, hk.fault]

lemma interpret_enqueue_calm {α : Type} (id : SubmissionId)
    (next : Except DispatchFailure Unit → Program DeskInterface α) (d : DeskState) :
    (Program.ask (I := DeskInterface) (.enqueue id) next).interpret k.answer d =
      (next (.ok ())).interpret k.answer ⟨d.store, d.calls + 1, d.jobs ++ [id]⟩ := by
  rw [interpret_enqueue, hk.dispatch]
  rfl

theorem run_submit_of_refuses {f : Failure} (h : s.Refuses c problem language code f) :
    ∃ n, k.run (Desk.submit c problem language code).run s = (.error f, ⟨s, n, []⟩) := by
  -- the needs before the one that fails are met, so the submit comes as far as its check
  cases h with
  | language h =>
    refine ⟨0, ?_⟩
    unfold Circumstances.run
    rw [run_submit, h]
    rfl
  | code hlanguage h =>
    refine ⟨0, ?_⟩
    unfold Circumstances.run
    rw [run_submit, hlanguage, h]
    rfl
  | account hlanguage hcode h =>
    refine ⟨1, ?_⟩
    unfold Circumstances.run
    rw [run_submit, hlanguage, hcode]
    dsimp only
    rw [interpret_store_calm hk]
    simp only [Store.run]
    rcases hu : s.users.find? c.userId with _ | u
    · rfl
    · have hactive : u.isActive ≠ true := fun hactive => h u hu (User.isActive_iff.1 hactive)
      dsimp only
      rw [if_neg hactive]
      rfl
  | problem hlanguage hcode hu hnormal h =>
    refine ⟨2, ?_⟩
    unfold Circumstances.run
    rw [run_submit, hlanguage, hcode]
    dsimp only
    rw [interpret_store_calm hk]
    simp only [Store.run, hu]
    rw [if_pos (User.isActive_iff.2 hnormal), interpret_store_calm hk]
    simp only [Store.run, h]
    rfl
  | access hlanguage hcode hu hnormal hq h =>
    refine ⟨2, ?_⟩
    rw [mayEnter_iff, Bool.not_eq_false] at h
    rw [run_submit_cleared hq hlanguage hcode, hk.fault, hk.fault,
      Store.clearance_of_normal hu hnormal]
    exact if_pos h

/-- The new submission is stored, handed over and counted. -/
lemma interpret_storing (d : Draft) {q : Problem} (hq : s.problems.find? d.problemId = some q)
    (n : Nat) : (storing d.problemId d).interpret k.answer ⟨s, n, []⟩ =
      (.ok (s.lastId + 1), ⟨{ (s.create (k.now n) d).2 with
        problems := s.problems.insert { q with submitCount := q.submitCount + 1 } },
        n + 3, [s.lastId + 1]⟩) := by
  unfold storing
  rw [interpret_store_calm hk]
  simp only [Store.run]
  rw [interpret_enqueue_calm hk]
  dsimp only
  rw [interpret_store_calm hk]
  have hcount : (s.create (k.now n) d).2.countSubmit d.problemId =
      some { (s.create (k.now n) d).2 with
        problems := s.problems.insert { q with submitCount := q.submitCount + 1 } } := by
    unfold Store.countSubmit
    show (s.problems.find? d.problemId).map _ = _
    rw [hq]
    rfl
  simp only [Store.run, hcount]
  rfl

theorem run_submit_of_admissible {u : User} {q : Problem}
    (h : s.Admissible c problem language code u q) :
    k.run (Desk.submit c problem language code).run s =
      (.ok (s.lastId + 1), ⟨{ (s.create (k.now 2) ⟨problem, u.id, language, code⟩).2 with
        problems := s.problems.insert { q with submitCount := q.submitCount + 1 } },
        5, [s.lastId + 1]⟩) := by
  have hclear := Store.clearance_of_normal h.user h.normal
  have haccess := mayEnter_iff.1 h.access
  rw [run_submit_cleared h.problem h.language h.code, hk.fault, hk.fault, hclear]
  dsimp only
  rw [haccess, if_neg Bool.false_ne_true]
  exact interpret_storing hk (d := ⟨problem, u.id, language, code⟩) h.problem 2

end Submit

namespace Store

variable {s : Store} {c : Caller} {problem : ProblemId} {language code : String}

lemma takesIn_create (hs : s.Numbered) (hi : s.HasIds) (now : Instant) (d : Draft) {q : Problem}
    (hq : s.problems.find? d.problemId = some q) (hcount : q.submitCount < Int64.maxValue) :
    s.TakesIn d (s.create now d).1 { (s.create now d).2 with
      problems := s.problems.insert { q with submitCount := q.submitCount + 1 } } where
  made := ⟨now, rfl⟩
  unused y hy := Int64.lt_of_le_of_lt (hs.le_of_row? (Table.find?_of_mem hy)) (lastId_lt_next hi)
  submissions := s.row?_create now d
  counted := by
    have hid : d.problemId = q.id := (Table.key_of_find? hq).symm
    refine ⟨q, { q with submitCount := q.submitCount + 1 }, hq, ?_, toInt_add_one hcount, rfl⟩
    show (s.problems.insert _).find? d.problemId = _
    rw [Table.find?_insert]
    exact if_pos hid
  problems p hp := by
    have hne : p ≠ q.id := fun h => hp (h.trans (Table.key_of_find? hq))
    exact Table.find?_insert_of_ne _ hne
  users := rfl
  lastId := rfl

end Store

/-- **Admission is exact.** On a store that was filled by its own calls, where no call fails, the
dispatcher takes every job and leaves the store alone, and ids and counters last, a submit comes to
an id just in case all its needs are met. Then one pending submission of the stored account is added
under that id, which is greater than all ids before, it is counted for its problem, its job is
handed over once, and nothing else changes. Otherwise the first need that is not met decides the
failure, no job is handed over, and nothing changes. -/
theorem admission_exact {k : Circumstances} (hk : k.IsCalm) {s : Store} (hs : s.Numbered)
    (hi : s.HasIds) {problem : ProblemId}
    (hcount : ∀ q ∈ s.problems.find? problem, q.submitCount < Int64.maxValue) (c : Caller)
    (language code : String) :
    let out := k.run (Desk.submit c problem language code).run s
    ((∃ id, out.1 = .ok id) ↔ ∃ u q, s.Admissible c problem language code u q) ∧
      (∀ u q, s.Admissible c problem language code u q → ∃ x, out.1 = .ok x.id ∧
        x.status = .pending ∧ s.TakesIn ⟨problem, u.id, language, code⟩ x out.2.store ∧
        out.2.jobs = [x.id]) ∧
      ((¬ ∃ u q, s.Admissible c problem language code u q) → ∃ f,
        s.Refuses c problem language code f ∧ out.1 = .error f ∧ out.2.store = s ∧
        out.2.jobs = []) := by
  intro out
  have htaken : ∀ u q, s.Admissible c problem language code u q → ∃ x, out.1 = .ok x.id ∧
      x.status = .pending ∧ s.TakesIn ⟨problem, u.id, language, code⟩ x out.2.store ∧
      out.2.jobs = [x.id] := by
    intro u q h
    have hout := run_submit_of_admissible hk h
    refine ⟨(s.create (k.now 2) ⟨problem, u.id, language, code⟩).1, ?_, rfl, ?_, ?_⟩
    · exact congrArg Prod.fst hout
    · rw [show out.2.store = _ from congrArg (·.2.store) hout]
      exact Store.takesIn_create hs hi _ ⟨problem, u.id, language, code⟩ h.problem
        (hcount q h.problem)
    · exact congrArg (·.2.jobs) hout
  have hrefused : ∀ f, s.Refuses c problem language code f →
      out.1 = .error f ∧ out.2.store = s ∧ out.2.jobs = [] := by
    intro f h
    obtain ⟨n, hout⟩ := run_submit_of_refuses hk h
    exact ⟨congrArg Prod.fst hout, congrArg (·.2.store) hout, congrArg (·.2.jobs) hout⟩
  -- each submit is one of the two, and their answers differ
  refine ⟨⟨?_, ?_⟩, htaken, ?_⟩
  · rintro ⟨id, hid⟩
    rcases s.admissible_or_refuses with h | ⟨f, hf⟩
    · exact h
    · cases (hrefused f hf).1.symm.trans hid
  · rintro ⟨u, q, h⟩
    obtain ⟨x, hx, -⟩ := htaken u q h
    exact ⟨x.id, hx⟩
  · intro h
    rcases s.admissible_or_refuses with hadmissible | ⟨f, hf⟩
    · exact absurd hadmissible h
    · exact ⟨f, hf, hrefused f hf⟩

/-- A restricted problem, with its owner and another user. -/
def closedRoom : Store :=
  ((Store.empty.insertProblem ⟨10, .restricted, 1, 1000, 256, .passFail, 100, 7, 3⟩).insertUser
    ⟨1, .user, .normal⟩).insertUser ⟨2, .user, .normal⟩

/-- Nothing goes wrong, at one time. -/
def calmDay : Circumstances :=
  ⟨fun _ => ⟨5, 0⟩, fun _ => none, fun _ _ => ([], .ok ()), reportedScore⟩

theorem admission_exact_owner :
    (∃ x, (calmDay.run (Desk.submit ⟨1, .user⟩ 10 "cpp" "x").run closedRoom).1 = .ok x.id ∧
      x.status = .pending ∧ closedRoom.TakesIn ⟨10, 1, "cpp", "x"⟩ x
        (calmDay.run (Desk.submit ⟨1, .user⟩ 10 "cpp" "x").run closedRoom).2.store ∧
      (calmDay.run (Desk.submit ⟨1, .user⟩ 10 "cpp" "x").run closedRoom).2.jobs = [x.id]) ∧
    ∃ f, closedRoom.Refuses ⟨2, .superAdmin⟩ 10 "cpp" "x" f ∧
      (calmDay.run (Desk.submit ⟨2, .superAdmin⟩ 10 "cpp" "x").run closedRoom).1 = .error f ∧
      (calmDay.run (Desk.submit ⟨2, .superAdmin⟩ 10 "cpp" "x").run closedRoom).2.store =
        closedRoom ∧
      (calmDay.run (Desk.submit ⟨2, .superAdmin⟩ 10 "cpp" "x").run closedRoom).2.jobs = [] := by
  have hcalm : calmDay.IsCalm := ⟨fun _ => rfl, fun _ _ => rfl⟩
  have hnumbered : closedRoom.Numbered := fun _ _ => rfl
  have hcount : ∀ q ∈ closedRoom.problems.find? 10, q.submitCount < Int64.maxValue := by
    intro q hq
    cases hq
    decide
  have hexact := admission_exact hcalm hnumbered (by decide) hcount
  obtain ⟨-, hin, -⟩ := hexact ⟨1, .user⟩ "cpp" "x"
  obtain ⟨-, -, hout⟩ := hexact ⟨2, .superAdmin⟩ "cpp" "x"
  refine ⟨hin ⟨1, .user, .normal⟩ ⟨10, .restricted, 1, 1000, 256, .passFail, 100, 7, 3⟩ ?_, hout ?_⟩
  · exact ⟨by decide, by decide, rfl, rfl, rfl, .inr (.inl rfl)⟩
  · rintro ⟨u, q, -, -, hu, -, hq, haccess⟩
    cases hu
    cases hq
    rcases haccess with h | h | h | h <;> cases h

end Arbiter
