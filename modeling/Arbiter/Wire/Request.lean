import Arbiter.Admission
import Arbiter.Wire.Record

/-!
# Request bodies

The bodies that clients send, and what is checked of them before anything else is done: lengths
first, then the page that is asked for.
-/

namespace Arbiter

open Json Decoder Member

/-- The members whose length is out of range, by name in order. -/
abbrev LengthFaults := List String

/-- Refuses a body with members of a wrong length. -/
def LengthFaults.check (faults : LengthFaults) : Except Failure Unit :=
  if faults.isEmpty then .ok ()
  else
    .error (.validation
      ("\n".intercalate (faults.map fun name => name ++ ": Validation error: length")))

/-- The body of a submit. -/
structure SubmitRequest where
  problemId : ProblemId
  language : String
  code : String
  deriving DecidableEq, Repr, Inhabited

namespace SubmitRequest

def fields : List (Member SubmitRequest) :=
  [required "problemId" int64 fun r v => { r with problemId := v },
    required "language" string fun r v => { r with language := v },
    required "code" string fun r v => { r with code := v }]

def decoder : Decoder SubmitRequest := record default fields

def json (r : SubmitRequest) : Json :=
  .obj [("problemId", ofInt64 r.problemId), ("language", .str r.language), ("code", .str r.code)]

def lengthFaults (r : SubmitRequest) : LengthFaults :=
  (if 1 ≤ r.code.length ∧ r.code.length ≤ maxCodeLength then [] else ["code"])
    ++ if 1 ≤ r.language.length ∧ r.language.length ≤ maxLanguageLength then [] else ["language"]

end SubmitRequest

/-- The body of a list request; the page is `current`. -/
structure ListRequest where
  userId : Option UserId
  problemId : Option ProblemId
  language : Option String
  status : Option Status
  current : Option UInt32
  size : Option UInt32
  deriving DecidableEq, Repr, Inhabited

namespace ListRequest

def decoder : Decoder ListRequest :=
  record default
    [nullable "userId" int64 fun r v => { r with userId := v },
      nullable "problemId" int64 fun r v => { r with problemId := v },
      nullable "language" string fun r v => { r with language := v },
      nullable "status" Status.decoder fun r v => { r with status := v },
      nullable "current" uint32 fun r v => { r with current := v },
      nullable "size" uint32 fun r v => { r with size := v }]

def lengthFaults (r : ListRequest) : LengthFaults :=
  if r.language.all fun l => l.length ≤ maxLanguageLength then [] else ["language"]

/-- The filter that is meant; an empty language is no condition. -/
def filter (r : ListRequest) : Except Failure Filter :=
  match checkPaging r.current r.size with
  | .error reason => .error (.validation reason)
  | .ok (page, pageSize) =>
    .ok ⟨r.userId, r.problemId, r.language.filter fun l => !l.isEmpty, r.status, page, pageSize⟩

end ListRequest

/-- A query for one problem. -/
structure ProblemQuery where
  problemId : ProblemId
  deriving DecidableEq, Repr, Inhabited

namespace ProblemQuery

def decoder : Decoder ProblemQuery :=
  record default [required "problemId" int64 fun _ v => ⟨v⟩]

end ProblemQuery

end Arbiter
