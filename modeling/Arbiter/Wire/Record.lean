import Arbiter.Account
import Arbiter.Json.Record
import Arbiter.Outcome
import Arbiter.Time.Stamp

/-!
# Records on the wire

How problems, users, submissions and judge outcomes are written as JSON and read back. Members are
named in camel case, absent values are null, and times are RFC 3339.
-/

namespace Arbiter

open Json Decoder Member

namespace Status

def json (s : Status) : Json := .str s.name

def decoder : Decoder Status := choice ofName?

end Status

namespace Visibility

def json (v : Visibility) : Json := .str v.name

def decoder : Decoder Visibility := choice ofName?

end Visibility

namespace JudgeMode

def json (m : JudgeMode) : Json := .str m.name

def decoder : Decoder JudgeMode := choice ofName?

end JudgeMode

namespace Role

def json (r : Role) : Json := .str r.name

def decoder : Decoder Role := choice ofName?

end Role

namespace AccountStatus

def json (s : AccountStatus) : Json := .str s.name

def decoder : Decoder AccountStatus := choice ofName?

end AccountStatus

namespace Instant

def json (i : Instant) : Json := .str (Stamp.text i)

def decoder : Decoder Instant := parsed Stamp.read?

end Instant

namespace User

def json (u : User) : Json :=
  .obj [("id", ofInt64 u.id), ("role", u.role.json), ("status", u.status.json)]

def fields : List (Member User) :=
  [required "id" int64 fun u v => { u with id := v },
    required "role" Role.decoder fun u v => { u with role := v },
    required "status" AccountStatus.decoder fun u v => { u with status := v }]

def decoder : Decoder User := record default fields

end User

namespace Caller

def json (c : Caller) : Json := .obj [("user_id", ofInt64 c.userId), ("role", c.role.json)]

def fields : List (Member Caller) :=
  [required "user_id" int64 fun c v => { c with userId := v },
    required "role" Role.decoder fun c v => { c with role := v }]

def decoder : Decoder Caller := record default fields

end Caller

namespace Problem

def json (p : Problem) : Json :=
  .obj
    [("id", ofInt64 p.id), ("visibility", p.visibility.json), ("ownerId", ofInt64 p.ownerId),
      ("timeLimit", ofInt32 p.timeLimit), ("memoryLimit", ofInt32 p.memoryLimit),
      ("judgeMode", p.judgeMode.json), ("totalScore", ofInt32 p.totalScore),
      ("submitCount", ofInt64 p.submitCount), ("acceptedCount", ofInt64 p.acceptedCount)]

def fields : List (Member Problem) :=
  [required "id" int64 fun p v => { p with id := v },
    required "visibility" Visibility.decoder fun p v => { p with visibility := v },
    required "ownerId" int64 fun p v => { p with ownerId := v },
    required "timeLimit" int32 fun p v => { p with timeLimit := v },
    required "memoryLimit" int32 fun p v => { p with memoryLimit := v },
    required "judgeMode" JudgeMode.decoder fun p v => { p with judgeMode := v },
    required "totalScore" int32 fun p v => { p with totalScore := v },
    required "submitCount" int64 fun p v => { p with submitCount := v },
    required "acceptedCount" int64 fun p v => { p with acceptedCount := v }]

def decoder : Decoder Problem := record default fields

end Problem

namespace Submission

def json (s : Submission) : Json :=
  .obj
    [("id", ofInt64 s.id), ("problemId", ofInt64 s.problemId), ("userId", ofInt64 s.userId),
      ("language", .str s.language), ("code", .str s.code), ("status", s.status.json),
      ("runTime", ofOption ofInt32 s.runTime), ("memory", ofOption ofInt32 s.memory),
      ("judgeInfo", ofOption .str s.judgeInfo), ("errorMessage", ofOption .str s.errorMessage),
      ("score", ofOption ofInt32 s.score), ("createTime", s.createTime.json),
      ("updateTime", s.updateTime.json), ("isDeleted", .bool s.isDeleted)]

def fields : List (Member Submission) :=
  [required "id" int64 fun s v => { s with id := v },
    required "problemId" int64 fun s v => { s with problemId := v },
    required "userId" int64 fun s v => { s with userId := v },
    required "language" string fun s v => { s with language := v },
    required "code" string fun s v => { s with code := v },
    required "status" Status.decoder fun s v => { s with status := v },
    nullable "runTime" int32 fun s v => { s with runTime := v },
    nullable "memory" int32 fun s v => { s with memory := v },
    nullable "judgeInfo" string fun s v => { s with judgeInfo := v },
    nullable "errorMessage" string fun s v => { s with errorMessage := v },
    nullable "score" int32 fun s v => { s with score := v },
    required "createTime" Instant.decoder fun s v => { s with createTime := v },
    required "updateTime" Instant.decoder fun s v => { s with updateTime := v },
    required "isDeleted" bool fun s v => { s with isDeleted := v }]

def decoder : Decoder Submission := record default fields

end Submission

namespace Outcome

def json (o : Outcome) : Json :=
  .obj
    [("submissionId", ofInt64 o.submissionId), ("status", o.status.json),
      ("runTime", ofOption ofInt32 o.runTime), ("memory", ofOption ofInt32 o.memory),
      ("errorMessage", ofOption .str o.errorMessage), ("score", ofOption ofInt32 o.score),
      ("judgeInfo", ofOption .str o.judgeInfo)]

def fields : List (Member Outcome) :=
  [required "submissionId" int64 fun o v => { o with submissionId := v },
    required "status" Status.decoder fun o v => { o with status := v },
    trailing "runTime" int32 fun o v => { o with runTime := v },
    trailing "memory" int32 fun o v => { o with memory := v },
    trailing "errorMessage" string fun o v => { o with errorMessage := v },
    trailing "score" int32 fun o v => { o with score := v },
    trailing "judgeInfo" string fun o v => { o with judgeInfo := v }]

def decoder : Decoder Outcome := record default fields

end Outcome

/-- What is queued for the judges: they fetch everything else themselves. -/
structure Job where
  submissionId : SubmissionId
  deriving DecidableEq, Repr, Inhabited

namespace Job

def json (j : Job) : Json := .obj [("submissionId", ofInt64 j.submissionId)]

def decoder : Decoder Job :=
  record default [required "submissionId" int64 fun _ v => ⟨v⟩]

end Job

end Arbiter
