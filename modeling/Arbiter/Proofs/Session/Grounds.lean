import Arbiter.Proofs.Desk.SubmitCourse
import Arbiter.Proofs.Judging.ApplyCourse
import Arbiter.Proofs.Session.Work

/-!
What the service knows when it writes into a store. A submission is stored right after its problem
was found, and a verdict is written right after the submission was found and then its problem
looked up, and is the verdict of a final outcome with that problem. All of it is said of single
programs (`Grounded`), goes through sequencing and through the spelling out of operations, and so
holds of the work of every duty (`grounded_work`).
-/

namespace Arbiter

/-- What the last answers told. -/
inductive Grounds where
  | none
  /-- There is a problem. -/
  | problem (p : ProblemId)
  /-- There is a submission, to a problem. -/
  | found (id : SubmissionId) (p : ProblemId)
  /-- There was a submission, and then its problem was looked up. -/
  | informed (id : SubmissionId) (p : Option Problem)

/-- What is told by the answer to a call. -/
def Grounds.told : Grounds → (op : WorkCall) → WorkInterface.Answer op → Grounds
  | _, .store (.find id), .ok (some x) => .found id x.problemId
  | .found id p, .store (.findProblem p'), .ok q => if p' = p then .informed id q else .none
  | _, .store (.findProblem p), .ok (some _) => .problem p
  | _, _, _ => .none

/-- The grounds bear the call out. -/
def Grounds.Bear : Grounds → WorkCall → Prop
  | g, .store (.create d) => g = .problem d.problemId
  | g, .store (.complete id v) => ∃ p scoring o, g = .informed id p ∧
      o.status.isFinal = true ∧ v = Verdict.ofOutcome scoring o p
  | _, _ => True

/-- The course of all work on a store. -/
def groundedCourse : Course WorkInterface Grounds := ⟨Grounds.Bear, Grounds.told⟩

namespace Program

variable {α β : Type}

/-- Whatever was told before, the program makes no call without grounds. -/
def Grounded (w : Work α) : Prop := ∀ g, w.Keeps groundedCourse (fun _ _ => True) g

lemma grounded_done (a : α) : (done a : Work α).Grounded := fun _ => trivial

lemma Grounded.bind {w : Work α} {f : α → Work β} (h : w.Grounded) (hf : ∀ a, (f a).Grounded) :
    (w.bind f).Grounded := fun g => Keeps.bind (fun q a _ => hf a q) (h g)

lemma Grounded.expand {I : Interface} {spell : (op : I.Op) → Work (I.Answer op)}
    (h : ∀ op, (spell op).Grounded) (w : Program I α) : (w.expand spell).Grounded := by
  induction w with
  | done a => exact grounded_done a
  | ask op rest ih => exact (h op).bind ih

/-- A call that writes nothing needs no grounds. -/
lemma grounded_call {op : WorkCall} (h : ∀ g : Grounds, g.Bear op) :
    (call (I := WorkInterface) op).Grounded := fun g => ⟨h g, fun _ => trivial⟩

end Program

lemma grounded_outer (c : OuterCall) : (Work.outer c).Grounded :=
  Program.grounded_call fun _ => trivial

/-- Calls to the store that need no grounds. -/
def StoreCall.WritesNothing : StoreCall → Prop
  | create _ | complete _ _ => False
  | _ => True

lemma grounded_store {c : StoreCall} (hc : c.WritesNothing) : (Work.store c).Grounded := by
  refine Program.grounded_call fun g => ?_
  cases c with
  | create | complete => exact hc.elim
  | _ => trivial

lemma grounded_workApply (scoring : Scoring) (o : Outcome) :
    (Work.apply scoring o).Grounded := by
  intro g
  unfold Work.apply
  rw [run_apply]
  refine ⟨trivial, fun r => ?_⟩
  rcases r with f | _ | x
  · trivial
  · trivial
  show (Program.expand _ (ite _ _ _)).Keeps _ _ _
  split
  · trivial
  show (Program.expand _ (ite _ _ _)).Keeps _ _ _
  split
  · trivial
  rename_i hbecome
  have ho : o.status.isFinal = true := by
    rw [Bool.not_eq_true', Bool.not_eq_false] at hbecome
    unfold Status.mayBecome at hbecome
    exact (Bool.and_eq_true_iff.1 hbecome).2
  refine ⟨trivial, fun r => ?_⟩
  rcases r with f | p
  · trivial
  -- now the submission was found, and then its problem was looked up
  have htold : (Grounds.told (.found o.submissionId x.problemId)
      (.store (.findProblem x.problemId)) (.ok p)) = .informed o.submissionId p := if_pos rfl
  refine ⟨⟨p, scoring, o, htold, ho, rfl⟩, fun r => ?_⟩
  rcases r with f | _ | y
  · trivial
  · refine ⟨trivial, fun r => ?_⟩
    rcases r with f | _ | y <;> trivial
  · trivial

lemma grounded_submit (c : Caller) (problem : ProblemId) (language code : String) :
    ((Desk.submit c problem language code).run.expand Work.ofDesk).Grounded := by
  intro g
  rw [run_submit]
  rcases checkLanguage language with reason | _
  · trivial
  rcases checkCode code with reason | _
  · trivial
  refine ⟨trivial, fun r => ?_⟩
  rcases r with f | _ | u
  · trivial
  · trivial
  show (Program.expand _ (ite _ _ _)).Keeps _ _ _
  split
  · refine ⟨trivial, fun r => ?_⟩
    rcases r with f | _ | p
    · trivial
    · trivial
    show (Program.expand _ (ite _ _ _)).Keeps _ _ _
    split
    · trivial
    · refine ⟨rfl, fun r => ?_⟩
      rcases r with f | x
      · trivial
      refine ⟨trivial, fun r => ?_⟩
      rcases r with f | _
      · exact ⟨trivial, fun _ => trivial⟩
      · exact ⟨trivial, fun _ => trivial⟩
  · trivial

lemma expand_applying {α : Type} (w : Program StoreInterface α) :
    (Sweep.applying w).expand Work.ofSweep = w.expand Work.store := by
  induction w with
  | done a => rfl
  | ask c next ih => exact congrArg (Program.ask _) (funext ih)

lemma grounded_timeOut (scoring : Scoring) (timeoutSeconds : Nat) (ids : List SubmissionId) :
    ((Sweep.timeOut scoring timeoutSeconds ids).expand Work.ofSweep).Grounded := by
  induction ids with
  | nil => exact Program.grounded_done 0
  | cons id ids ih =>
    unfold Sweep.timeOut
    rw [Program.bind_eq, Program.expand_bind, expand_applying]
    refine (grounded_workApply scoring _).bind fun r => ?_
    rw [Program.bind_eq, Program.expand_bind]
    refine ih.bind fun moved => ?_
    rcases r with f | _ | _ <;> exact Program.grounded_done _

lemma grounded_sweep (scoring : Scoring) (timeoutSeconds : Nat) :
    ((Sweep.once scoring timeoutSeconds).expand Work.ofSweep).Grounded := by
  refine (grounded_outer .now).bind fun now => ?_
  refine (grounded_store (c := .findStale _ _) trivial).bind fun r => ?_
  rcases r with f | ids
  · exact Program.grounded_done _
  · show (Program.expand _ ((Sweep.timeOut scoring timeoutSeconds ids).bind _)).Grounded
    rw [Program.expand_bind]
    exact (grounded_timeOut scoring timeoutSeconds ids).bind fun _ => Program.grounded_done _

/-- **No duty writes into a store without grounds.** -/
theorem grounded_work (d : Duty) : d.work.Grounded := by
  cases d with
  | submit c problem language code =>
    exact (grounded_submit c problem language code).bind fun _ => Program.grounded_done _
  | apply scoring o => exact (grounded_workApply scoring o).bind fun _ => Program.grounded_done _
  | discard id =>
    exact (grounded_store (c := .discard id) trivial).bind fun _ => Program.grounded_done _
  | sweep scoring timeoutSeconds =>
    exact (grounded_sweep scoring timeoutSeconds).bind fun _ => Program.grounded_done _
  | consume scoring c batches =>
    refine (Program.Grounded.expand (fun op => ?_) _).bind fun _ => Program.grounded_done _
    cases op with
    | apply o => exact grounded_workApply scoring o
    | command | pause | stopping => exact grounded_outer _
  | judge scoring delay o =>
    refine (Program.Grounded.expand (fun op => ?_) _).bind fun _ => Program.grounded_done _
    cases op with
    | apply o => exact grounded_workApply scoring o
    | pause milliseconds => exact grounded_outer _
  | stats user =>
    refine Program.Grounded.bind ?_ fun _ => Program.grounded_done _
    refine (grounded_store (c := .countByUser user) trivial).bind fun r => ?_
    rcases r with f | n
    · exact Program.grounded_done _
    refine (grounded_store (c := .countSolved user) trivial).bind fun r => ?_
    rcases r with f | n <;> exact Program.grounded_done _

end Arbiter
