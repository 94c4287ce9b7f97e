import Arbiter.Proofs.Desk.Circumstances
import Arbiter.Proofs.Desk.SubmitCourse

/-!
What decides at the desk. A caller is taken for the user whom the store knows under the caller's id,
in the stored role, if the account is in use (`Store.clearance`), and nothing else of the caller
counts: where the store does not fail, whether a submission to a problem is taken in, whether a list
may be asked for and what is shown of submissions are functions of that (`decidesByAccount`).
-/

namespace Arbiter

namespace Store

/-- The user in the stored role, if the account is in use. -/
def clearance (s : Store) (u : UserId) : Option Caller :=
  ((s.users.find? u).filter (·.isActive)).map fun a => ⟨a.id, a.role⟩

/-- What is decided about a user who is cleared; others are turned away. -/
def cleared {α : Type} (s : Store) (u : UserId) (f : Caller → Except Failure α) :
    Except Failure α :=
  match s.clearance u with
  | some a => f a
  | none => .error .unauthorized

/-- The user is cleared, and the problem is open to everyone or to the user. -/
def admits (s : Store) (u : UserId) (q : Problem) : Bool :=
  (s.clearance u).any fun a => q.isPublic || a.mayAccess q.ownerId

end Store

/-- How an account is shown what is stored under an id. -/
def Caller.sees (a : Caller) : Option Submission → Except Failure View
  | some x => .ok (.ofSubmission a x)
  | none => .error (.notFound "Submission not found")

/-- What is answered with the help of the store call of that number, which may fail. -/
def Circumstances.barring {α : Type} (k : Circumstances) (n : Nat) (r : Except Failure α) :
    Except Failure α :=
  match k.fault n with
  | some f => .error f
  | none => r

/-- **What the desk decides about a caller** is decided by the account that is stored for the
caller's id. -/
structure DecidesByAccount (k : Circumstances) (s : Store) (c : Caller) : Prop where
  /-- Where no call before it fails, a job is handed over just in case the problem is open to the
  stored account. -/
  admitted : ∀ {problem : ProblemId} {q : Problem} {language code : String},
    s.problems.find? problem = some q → checkLanguage language = .ok () → checkCode code = .ok () →
    (k.run (Desk.submit c problem language code).run s).2.jobs =
      if s.admits c.userId q ∧ k.fault 0 = none ∧ k.fault 1 = none ∧ k.fault 2 = none then
        [s.lastId + 1]
      else []
  /-- Where the problem is not open to the stored account, nothing is stored. -/
  refused : ∀ {problem : ProblemId} {q : Problem} {language code : String},
    s.problems.find? problem = some q → checkLanguage language = .ok () → checkCode code = .ok () →
    s.admits c.userId q = false →
    (k.run (Desk.submit c problem language code).run s).2.store = s ∧
      (k.run (Desk.submit c problem language code).run s).1 =
        k.barring 0 (s.cleared c.userId fun _ =>
          k.barring 1 (.error (.forbidden "You do not have access to this problem")))
  list : ∀ f : Filter, (k.run (Desk.list c f).run s).1 = k.barring 0 (s.cleared c.userId fun a =>
    if f.userId.any fun id => !a.mayAccess id then
      .error (.forbidden "You can only filter by your own submissions")
    else
      k.barring 1 (.ok (.ofRecords ((s.page f).map (.ofSubmission a))
        (Int64.ofNat (s.matching f).length) f.page f.pageSize)))
  view : ∀ id : SubmissionId,
    (k.run (Desk.view c id).run s).1 = k.barring 0 (s.cleared c.userId fun a =>
      k.barring 1 (a.sees (s.find? id)))
  best : ∀ (user : UserId) (problem : ProblemId), (k.run (Desk.best c user problem).run s).1 =
    k.barring 0 (s.cleared c.userId fun a =>
      k.barring 1 (.ok ((s.best? user problem).map (.ofSubmission a))))

lemma run_resolve_bind {α : Type} (c : Caller) (f : Caller → Desk α) :
    (Desk.resolve c >>= f).run = .ask (.store (.findUser c.userId)) fun
      | .error e => .done (.error e)
      | .ok none => .done (.error .unauthorized)
      | .ok (some u) =>
        if u.isActive then (f ⟨u.id, u.role⟩).run else .done (.error .unauthorized) := by
  refine congrArg (Program.ask _) (funext fun r => ?_)
  rcases r with e | _ | u
  · rfl
  · rfl
  show Program.bind (ExceptT.run (ite _ _ _)) _ = _
  dsimp only
  split <;> rfl

section Decisions

variable {k : Circumstances} {α : Type}

lemma interpret_store (c : StoreCall) (next : Except Failure c.Result → Program DeskInterface α)
    (d : DeskState) :
    (Program.ask (I := DeskInterface) (.store c) next).interpret k.answer d =
      match k.fault d.calls with
      | some e => (next (.error e)).interpret k.answer { d with calls := d.calls + 1 }
      | none => (next (d.store.run (k.now d.calls) c).1).interpret k.answer
          { d with store := (d.store.run (k.now d.calls) c).2, calls := d.calls + 1 } := by
  show (next (k.answer (.store c) d).1).interpret k.answer (k.answer (.store c) d).2 = _
  simp only [Circumstances.answer]
  rcases k.fault d.calls with _ | e <;> rfl

/-- The outcomes that come while a job is handed over are applied before the dispatcher answers. -/
lemma interpret_enqueue (id : SubmissionId)
    (next : Except DispatchFailure Unit → Program DeskInterface α) (d : DeskState) :
    (Program.ask (I := DeskInterface) (.enqueue id) next).interpret k.answer d =
      (next (k.dispatch d.calls id).2).interpret k.answer
        ⟨d.store.appliedAll k.scoring (k.dispatch d.calls id).1, d.calls + 1, d.jobs ++ [id]⟩ :=
  rfl

lemma run_resolve (c : Caller) (f : Caller → Desk α) (s : Store) :
    k.run (Desk.resolve c >>= f).run s =
      match k.fault 0, s.clearance c.userId with
      | some e, _ => (.error e, ⟨s, 1, []⟩)
      | none, some a => (f a).run.interpret k.answer ⟨s, 1, []⟩
      | none, none => (.error .unauthorized, ⟨s, 1, []⟩) := by
  unfold Circumstances.run
  rw [run_resolve_bind, interpret_store]
  dsimp only
  cases k.fault 0 with
  | some e => rfl
  | none =>
    simp only [Store.run, Store.clearance]
    rcases s.users.find? c.userId with _ | u
    · rfl
    · cases hu : u.isActive with
      | false =>
        simp only [Option.filter_some, hu, Bool.false_eq_true, if_false]
        rfl
      | true =>
        simp only [Option.filter_some, hu, if_true]
        rfl

/-- Work for a caller comes to what it comes to for the stored account. -/
lemma run_resolve_fst {c : Caller} {f : Caller → Desk α} {s : Store}
    {g : Caller → Except Failure α}
    (hf : ∀ a, ((f a).run.interpret k.answer ⟨s, 1, []⟩).1 = g a) :
    (k.run (Desk.resolve c >>= f).run s).1 = k.barring 0 (s.cleared c.userId g) := by
  rw [run_resolve]
  unfold Circumstances.barring Store.cleared
  rcases k.fault 0 with _ | e
  · rcases s.clearance c.userId with _ | a
    · rfl
    · exact hf a
  · rfl

lemma interpret_lookUp {c : StoreCall} {f : c.Result → Except Failure α}
    {w : Program DeskInterface (Except Failure α)}
    (hw : w = .ask (.store c) fun r => .done (r.bind f)) (d : DeskState) :
    (w.interpret k.answer d).1 =
      k.barring d.calls ((d.store.run (k.now d.calls) c).1.bind f) := by
  rw [hw, interpret_store]
  unfold Circumstances.barring
  split <;> rfl

lemma run_view (c : Caller) (id : SubmissionId) (s : Store) :
    (k.run (Desk.view c id).run s).1 = k.barring 0 (s.cleared c.userId fun a =>
      k.barring 1 (a.sees (s.find? id))) := by
  refine run_resolve_fst fun a => ?_
  refine (interpret_lookUp (c := .find id) (f := a.sees) ?_ _).trans rfl
  refine congrArg (Program.ask _) (funext fun r => ?_)
  rcases r with e | _ | x <;> rfl

lemma run_list (c : Caller) (f : Filter) (s : Store) :
    (k.run (Desk.list c f).run s).1 = k.barring 0 (s.cleared c.userId fun a =>
      if f.userId.any fun id => !a.mayAccess id then
        .error (.forbidden "You can only filter by your own submissions")
      else
        k.barring 1 (.ok (.ofRecords ((s.page f).map (.ofSubmission a))
          (Int64.ofNat (s.matching f).length) f.page f.pageSize))) := by
  refine run_resolve_fst fun a => ?_
  dsimp only
  split
  · rfl
  · refine (interpret_lookUp (c := .list f) (f := fun r => .ok (.ofRecords
      (r.1.map (.ofSubmission a)) r.2 f.page f.pageSize)) ?_ _).trans rfl
    refine congrArg (Program.ask _) (funext fun r => ?_)
    rcases r with e | r <;> rfl

lemma run_best (c : Caller) (user : UserId) (problem : ProblemId) (s : Store) :
    (k.run (Desk.best c user problem).run s).1 = k.barring 0 (s.cleared c.userId fun a =>
      k.barring 1 (.ok ((s.best? user problem).map (.ofSubmission a)))) := by
  refine run_resolve_fst fun a => ?_
  refine (interpret_lookUp (c := .findBest user problem) (f := fun r => .ok
    (r.map (.ofSubmission a))) ?_ _).trans rfl
  refine congrArg (Program.ask _) (funext fun r => ?_)
  rcases r with e | r <;> rfl

section Submit

/-- The last part of a submit: the submission is stored and its job handed over. -/
def storing (problem : ProblemId) (d : Draft) :
    Program DeskInterface (Except Failure SubmissionId) :=
  .ask (.store (.create d)) fun
    | .error f => .done (.error f)
    | .ok x => .ask (.enqueue x.id) fun
      | .error f => .ask (.store (.discard x.id)) fun _ => .done (.error (.dispatch f))
      | .ok () => .ask (.store (.countSubmit problem)) fun _ => .done (.ok x.id)

/-- One job is handed over, that of the new submission, if it could be stored. -/
lemma jobs_storing (problem : ProblemId) (d : Draft) (s : Store) (n : Nat) :
    ((storing problem d).interpret k.answer ⟨s, n, []⟩).2.jobs =
      if k.fault n = none then [s.lastId + 1] else [] := by
  unfold storing
  rw [interpret_store]
  dsimp only
  rcases k.fault n with _ | e
  · simp only [Store.run]
    rw [interpret_enqueue]
    -- what follows on the dispatcher's answer is one more call to the store
    rcases (k.dispatch (n + 1) (s.create (k.now n) d).1.id).2 with f | ⟨⟨⟩⟩
    · rw [interpret_store]
      split <;> rfl
    · rw [interpret_store]
      split <;> rfl
  · rfl

variable {c : Caller} {problem : ProblemId} {q : Problem} {language code : String} {s : Store}
  (hq : s.problems.find? problem = some q) (hlanguage : checkLanguage language = .ok ())
  (hcode : checkCode code = .ok ())
include hq hlanguage hcode

lemma run_submit_cleared : k.run (Desk.submit c problem language code).run s =
    match k.fault 0, s.clearance c.userId, k.fault 1 with
    | some e, _, _ => (.error e, ⟨s, 1, []⟩)
    | none, none, _ => (.error .unauthorized, ⟨s, 1, []⟩)
    | none, some _, some e => (.error e, ⟨s, 2, []⟩)
    | none, some a, none =>
      if !q.isPublic && !a.mayAccess q.ownerId then
        (.error (.forbidden "You do not have access to this problem"), ⟨s, 2, []⟩)
      else (storing problem ⟨problem, a.userId, language, code⟩).interpret k.answer ⟨s, 2, []⟩ := by
  unfold Circumstances.run
  rw [run_submit, hlanguage, hcode]
  dsimp only
  rw [interpret_store]
  dsimp only
  rcases k.fault 0 with _ | e
  case some => rfl
  simp only [Store.run, Store.clearance]
  rcases s.users.find? c.userId with _ | u
  · rfl
  cases hu : u.isActive with
  | false =>
    simp only [Option.filter_some, hu, Bool.false_eq_true, if_false]
    rfl
  | true =>
    simp only [Option.filter_some, hu, if_true, Option.map_some]
    rw [interpret_store]
    dsimp only
    rcases k.fault 1 with _ | e
    case some => rfl
    simp only [Store.run, hq]
    split
    · rfl
    refine congrArg (fun w : Program DeskInterface _ => w.interpret k.answer ⟨s, 2, []⟩) ?_
    refine congrArg (Program.ask _) (funext fun r => ?_)
    rcases r with f | x
    · rfl
    refine congrArg (Program.ask _) (funext fun r => ?_)
    rcases r with f | ⟨⟨⟩⟩ <;> rfl

end Submit

/-- **The stored account decides**, whatever the caller claims to be. -/
theorem decidesByAccount (k : Circumstances) (s : Store) (c : Caller) : DecidesByAccount k s c where
  admitted {problem q language code} hq hlanguage hcode := by
    rw [run_submit_cleared hq hlanguage hcode]
    unfold Store.admits
    rcases k.fault 0 with _ | e
    case some => simp
    rcases s.clearance c.userId with _ | a
    · simp
    rcases k.fault 1 with _ | e
    case some => simp
    dsimp only
    rw [Option.any_some, ← Bool.not_or]
    cases q.isPublic || a.mayAccess q.ownerId with
    | false => rfl
    | true =>
      refine (jobs_storing problem _ s 2).trans ?_
      simp
  refused {problem q language code} hq hlanguage hcode h := by
    rw [run_submit_cleared hq hlanguage hcode]
    unfold Store.admits at h
    unfold Store.cleared Circumstances.barring
    rcases k.fault 0 with _ | e
    case some => exact ⟨rfl, rfl⟩
    rcases hclear : s.clearance c.userId with _ | a
    · exact ⟨rfl, rfl⟩
    rcases k.fault 1 with _ | e
    case some => exact ⟨rfl, rfl⟩
    rw [hclear, Option.any_some] at h
    dsimp only
    rw [← Bool.not_or, h]
    exact ⟨rfl, rfl⟩
  list f := run_list c f s
  view id := run_view c id s
  best user problem := run_best c user problem s

end Decisions

end Arbiter
