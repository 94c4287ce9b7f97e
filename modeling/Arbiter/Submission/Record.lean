import Arbiter.Submission.Status
import Arbiter.Table
import Arbiter.Time.Instant

/-!
# Submissions

A submission as it is stored, the draft it is created from, the verdict that judging writes, and
the filters it is listed by.
-/

namespace Arbiter

abbrev SubmissionId := Int64
abbrev ProblemId := Int64
abbrev UserId := Int64

/-- A stored submission. Times are in milliseconds, memory in kilobytes. -/
structure Submission where
  id : SubmissionId
  problemId : ProblemId
  userId : UserId
  language : String
  code : String
  status : Status
  runTime : Option Int32
  memory : Option Int32
  judgeInfo : Option String
  errorMessage : Option String
  score : Option Int32
  createTime : Instant
  updateTime : Instant
  isDeleted : Bool
  deriving DecidableEq, Repr, Inhabited

instance : Keyed Submission := ⟨Submission.id⟩

/-- What a submission is created from. -/
structure Draft where
  problemId : ProblemId
  userId : UserId
  language : String
  code : String
  deriving DecidableEq, Repr

/-- What judging writes. -/
structure Verdict where
  status : Status
  runTime : Option Int32
  memory : Option Int32
  judgeInfo : Option String
  errorMessage : Option String
  score : Option Int32
  deriving DecidableEq, Repr

namespace Submission

def isPending (s : Submission) : Bool := s.status == .pending

/-- The pending submission made from a draft. -/
def ofDraft (id : SubmissionId) (now : Instant) (d : Draft) : Submission :=
  { id
    problemId := d.problemId
    userId := d.userId
    language := d.language
    code := d.code
    status := .pending
    runTime := none
    memory := none
    judgeInfo := none
    errorMessage := none
    score := none
    createTime := now
    updateTime := now
    isDeleted := false }

/-- The submission with a verdict written into it. -/
def judged (s : Submission) (v : Verdict) (now : Instant) : Submission :=
  { s with
    status := v.status
    runTime := v.runTime
    memory := v.memory
    judgeInfo := v.judgeInfo
    errorMessage := v.errorMessage
    score := v.score
    updateTime := now }

end Submission

/-- What submissions are listed by; an absent condition holds of all. Pages are counted from 1. -/
structure Filter where
  userId : Option UserId
  problemId : Option ProblemId
  language : Option String
  status : Option Status
  page : UInt32
  pageSize : UInt32
  deriving DecidableEq, Repr

namespace Filter

/-- How many matching submissions lie before the page. -/
def offset (f : Filter) : Int64 :=
  Int64.ofNat (f.page.toNat - 1) * Int64.ofNat f.pageSize.toNat

/-- A condition holds of a value, or is absent. -/
def admits {α : Type} [DecidableEq α] (condition : Option α) (a : α) : Bool :=
  condition.all fun c => c == a

/-- The submission is not deleted and meets every condition. -/
def holds (f : Filter) (s : Submission) : Bool :=
  !s.isDeleted && admits f.userId s.userId && admits f.problemId s.problemId
    && admits f.language s.language && admits f.status s.status

end Filter

end Arbiter
