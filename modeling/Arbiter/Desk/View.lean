import Arbiter.Wire.Record

/-!
# What callers see of submissions

The source code and what the judge says about it are shown to the owner and to elevated roles only.
-/

namespace Arbiter

/-- A submission as a caller sees it. -/
structure View where
  id : SubmissionId
  problemId : ProblemId
  userId : UserId
  language : String
  status : Status
  statusText : String
  runTime : Option Int32
  memory : Option Int32
  score : Option Int32
  code : Option String
  errorMessage : Option String
  judgeInfo : Option String
  createTime : Instant
  deriving DecidableEq, Repr

namespace View

/-- A value that is shown or held back. -/
def shown {α : Type} (visible : Bool) (a : Option α) : Option α := if visible then a else none

/-- The view that a caller has of a submission. -/
def ofSubmission (c : Caller) (s : Submission) : View :=
  let visible := c.mayAccess s.userId
  { id := s.id
    problemId := s.problemId
    userId := s.userId
    language := s.language
    status := s.status
    statusText := s.status.description
    runTime := s.runTime
    memory := s.memory
    score := s.score
    code := shown visible (some s.code)
    errorMessage := shown visible s.errorMessage
    judgeInfo := shown visible s.judgeInfo
    createTime := s.createTime }

open Json in
def json (v : View) : Json :=
  .obj
    [("id", ofInt64 v.id), ("problemId", ofInt64 v.problemId), ("userId", ofInt64 v.userId),
      ("language", .str v.language), ("status", v.status.json), ("statusText", .str v.statusText),
      ("runTime", ofOption ofInt32 v.runTime), ("memory", ofOption ofInt32 v.memory),
      ("score", ofOption ofInt32 v.score), ("code", ofOption .str v.code),
      ("errorMessage", ofOption .str v.errorMessage), ("judgeInfo", ofOption .str v.judgeInfo),
      ("createTime", v.createTime.json)]

end View

end Arbiter
