import Arbiter.Admission
import Arbiter.Desk.View
import Arbiter.Store.Call

/-!
# The desk

What callers may ask for: to submit, to see submissions, and to see how users stand. The desk takes
a caller's role from the store and not from the caller, and turns missing and disabled accounts
away. A submission whose job cannot be handed over is taken back.
-/

namespace Arbiter

/-- What the desk asks for: calls to the store, and that a job be handed over. -/
inductive DeskCall where
  | store (c : StoreCall)
  | enqueue (id : SubmissionId)

abbrev DeskInterface : Interface :=
  ⟨DeskCall, fun
    | .store c => Except Failure c.Result
    | .enqueue _ => Except DispatchFailure Unit⟩

/-- Work at the desk, which a failure breaks off. -/
abbrev Desk := ExceptT Failure (Program DeskInterface)

/-- How much a user has submitted and solved. -/
structure UserStats where
  userId : UserId
  submissionCount : Int64
  acceptedProblemCount : Int64
  deriving DecidableEq, Repr

def UserStats.json (s : UserStats) : Json :=
  .obj
    [("userId", .ofInt64 s.userId), ("submissionCount", .ofInt64 s.submissionCount),
      ("acceptedProblemCount", .ofInt64 s.acceptedProblemCount)]

namespace Desk

/-- A store call whose failure breaks the work off. -/
def store (c : StoreCall) : Desk c.Result :=
  ExceptT.mk (Program.call (I := DeskInterface) (.store c))

/-- A store call whose failure is told. -/
def tryStore (c : StoreCall) : Desk (Except Failure c.Result) :=
  ExceptT.lift (Program.call (I := DeskInterface) (.store c))

/-- Asks that a job be handed over, and is told whether it was. -/
def tryEnqueue (id : SubmissionId) : Desk (Except DispatchFailure Unit) :=
  ExceptT.lift (Program.call (I := DeskInterface) (.enqueue id))

/-- A check that fails with a reason. -/
def validate : Except String Unit → Desk Unit
  | .ok () => return ()
  | .error reason => throw (.validation reason)

/-- The caller with the stored role. -/
def resolve (c : Caller) : Desk Caller := do
  match ← store (.findUser c.userId) with
  | some u => if u.isActive then return ⟨u.id, u.role⟩ else throw .unauthorized
  | none => throw .unauthorized

/-- Stores a submission and hands its job over; answers its id. -/
def submit (c : Caller) (problemId : ProblemId) (language code : String) : Desk SubmissionId := do
  validate (checkLanguage language)
  validate (checkCode code)
  let c ← resolve c
  match ← store (.findProblem problemId) with
  | none => throw (.notFound "Problem not found")
  | some p =>
    if !p.isPublic && !c.mayAccess p.ownerId then
      throw (.forbidden "You do not have access to this problem")
    let s ← store (.create ⟨problemId, c.userId, language, code⟩)
    match ← tryEnqueue s.id with
    | .error f => do
      let _ ← tryStore (.discard s.id)
      throw (.dispatch f)
    | .ok () => do
      -- the job is out, so a counter that fails must not fail the submit
      let _ ← tryStore (.countSubmit problemId)
      return s.id

/-- One submission. -/
def view (c : Caller) (id : SubmissionId) : Desk View := do
  let c ← resolve c
  match ← store (.find id) with
  | some s => return .ofSubmission c s
  | none => throw (.notFound "Submission not found")

/-- A page of submissions, newest first; others' submissions may not be asked for by user. -/
def list (c : Caller) (f : Filter) : Desk (Page View) := do
  let c ← resolve c
  if f.userId.any fun id => !c.mayAccess id then
    throw (.forbidden "You can only filter by your own submissions")
  let (rows, total) ← store (.list f)
  return .ofRecords (rows.map (.ofSubmission c)) total f.page f.pageSize

/-- The best accepted submission of a user to a problem. -/
def best (c : Caller) (user : UserId) (problem : ProblemId) : Desk (Option View) := do
  let c ← resolve c
  return (← store (.findBest user problem)).map (.ofSubmission c)

def stats (user : UserId) : Desk UserStats := do
  let submissionCount ← store (.countByUser user)
  let acceptedProblemCount ← store (.countSolved user)
  return ⟨user, submissionCount, acceptedProblemCount⟩

def standing (user : UserId) (problem : ProblemId) : Desk Standing :=
  store (.standing user problem)

end Desk

end Arbiter
