import Arbiter.Problem

/-!
# Judge outcomes

What a judge reports for a submission, and the strategies by which a simulated judge makes reports.
-/

namespace Arbiter

/-- A judge's report. -/
structure Outcome where
  submissionId : SubmissionId
  status : Status
  runTime : Option Int32
  memory : Option Int32
  errorMessage : Option String
  score : Option Int32
  judgeInfo : Option String
  deriving DecidableEq, Repr, Inhabited

namespace Outcome

/-- A report of a status and nothing else. -/
def ofStatus (id : SubmissionId) (status : Status) : Outcome :=
  ⟨id, status, none, none, none, none, none⟩

/-- The report that a simulated judge gives every submission, under the submission's id. -/
def fixed (template : Outcome) (id : SubmissionId) : Outcome := { template with submissionId := id }

/-- The statuses that a judge reporting at random chooses from. -/
def randomStatuses : List Status :=
  [.accepted, .compileError, .wrongAnswer, .timeLimitExceeded, .memoryLimitExceeded, .runtimeError]

/-- A number of a range, ends included, chosen by `seed`. -/
def pick (least greatest seed : Nat) : Int32 := .ofNat (least + seed % (greatest + 1 - least))

/-- The report chosen by a run of random numbers: one of `randomStatuses`, and except for compile
errors a run time of 1 to 1000, a memory of 1024 to 65536 and a score of 0 to 100. -/
def random (id : SubmissionId) (choose : Nat → Nat) : Outcome :=
  let status := randomStatuses.getD (choose 0 % randomStatuses.length) .accepted
  if status = .compileError then ofStatus id status
  else
    { ofStatus id status with
      runTime := some (pick 1 1000 (choose 1))
      memory := some (pick 1024 65536 (choose 2))
      score := some (pick 0 100 (choose 3)) }

/-- What holds of every report made at random. -/
def isPlausible (id : SubmissionId) (o : Outcome) : Bool :=
  o.submissionId == id && o.status.isFinal && o.status != .systemError &&
    if o.status = .compileError then o.runTime.isNone && o.memory.isNone && o.score.isNone
    else o.runTime.any (fun t => 1 ≤ t && t ≤ 1000) && o.memory.any (fun m => 1024 ≤ m && m ≤ 65536)
      && o.score.any fun s => 0 ≤ s && s ≤ 100

end Outcome

end Arbiter
