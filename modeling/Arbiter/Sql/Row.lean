import Arbiter.Account
import Arbiter.Problem
import Arbiter.Sql.Statement

/-!
# Reading rows

How a row of each table is read: the columns first, each of its type, and then the codes, which must
be known.
-/

namespace Arbiter

namespace Row

variable {α : Type}

def value (r : Row) (name : String) : SqlValue :=
  ((r.find? fun c => c.1 == name).map (·.2)).getD .null

/-- A value of a type at a place. -/
def typed (place : ColumnPlace) (read? : SqlValue → Option α) : SqlValue → Except SqlFault α
  | .null => .error (.unexpectedNull place)
  | v =>
    match read? v with
    | some a => .ok a
    | none => .error (.wrongType place)

/-- A column that may not be null. -/
def column (r : Row) (name : String) (read? : SqlValue → Option α) : Except SqlFault α :=
  typed (.name name) read? (r.value name)

/-- A column that may be null. -/
def nullable (r : Row) (name : String) (read? : SqlValue → Option α) : Except SqlFault (Option α) :=
  match r.value name with
  | .null => .ok none
  | v => some <$> typed (.name name) read? v

/-- The only column of a row, or the first of several, which is named but read by its place. -/
def first (r : Row) (name : String) (read? : SqlValue → Option α) : Except SqlFault α :=
  typed (.position 0) read? (r.value name)

def int64? : SqlValue → Option Int64
  | .int n => if Span.int64.holds n then some (.ofInt n) else none
  | _ => none

def int32? : SqlValue → Option Int32
  | .int n => if Span.int32.holds n then some (.ofInt n) else none
  | _ => none

def int16? : SqlValue → Option Int16
  | .int n => if -32768 ≤ n ∧ n ≤ 32767 then some (.ofInt n) else none
  | _ => none

def text? : SqlValue → Option String
  | .text s => some s
  | _ => none

def bool? : SqlValue → Option Bool
  | .bool b => some b
  | _ => none

def time? : SqlValue → Option Instant
  | .time i => some i
  | _ => none

end Row

/-- A submission whose status is a code. -/
structure SubmissionRow where
  record : Submission
  status : Int16
  deriving DecidableEq, Repr

namespace SubmissionRow

open Row in
def ofRow (r : Row) : Except SqlFault SubmissionRow := do
  let id ← r.column "id" int64?
  let problemId ← r.column "problem_id" int64?
  let userId ← r.column "user_id" int64?
  let language ← r.column "language" text?
  let code ← r.column "code" text?
  let status ← r.column "status" int16?
  let runTime ← r.nullable "run_time" int32?
  let memory ← r.nullable "memory" int32?
  let judgeInfo ← r.nullable "judge_info" text?
  let score ← r.nullable "score" int32?
  let errorMessage ← r.nullable "error_message" text?
  let createTime ← r.column "create_time" time?
  let updateTime ← r.column "update_time" time?
  let isDeleted ← r.column "is_deleted" bool?
  return ⟨⟨id, problemId, userId, language, code, .pending, runTime, memory, judgeInfo,
    errorMessage, score, createTime, updateTime, isDeleted⟩, status⟩

/-- The submission, if its status is known. -/
def submission (r : SubmissionRow) : Except Failure Submission :=
  match Status.ofCode? r.status with
  | some status => .ok { r.record with status }
  | none =>
    .error (.database ("submission " ++ Numeral.text r.record.id.toInt
      ++ " has unknown status code " ++ Numeral.text r.status.toInt))

end SubmissionRow

/-- A problem whose visibility and mode are codes. -/
structure ProblemRow where
  record : Problem
  visibility : Int16
  judgeMode : Int16
  deriving DecidableEq, Repr

namespace ProblemRow

open Row in
def ofRow (r : Row) : Except SqlFault ProblemRow := do
  let id ← r.column "id" int64?
  let visibility ← r.column "status" int16?
  let ownerId ← r.column "create_user_id" int64?
  let timeLimit ← r.column "time_limit" int32?
  let memoryLimit ← r.column "memory_limit" int32?
  let judgeMode ← r.column "judge_mode" int16?
  let totalScore ← r.column "total_score" int32?
  let submitCount ← r.column "submit_count" int64?
  let acceptedCount ← r.column "accepted_count" int64?
  return ⟨⟨id, default, ownerId, timeLimit, memoryLimit, default, totalScore, submitCount,
    acceptedCount⟩, visibility, judgeMode⟩

/-- The problem, if its codes are known. -/
def problem (r : ProblemRow) : Except Failure Problem :=
  let id := Numeral.text r.record.id.toInt
  match Visibility.ofCode? r.visibility, JudgeMode.ofCode? r.judgeMode with
  | some visibility, some judgeMode => .ok { r.record with visibility, judgeMode }
  | none, _ =>
    .error (.database ("problem " ++ id ++ " has unknown visibility code "
      ++ Numeral.text r.visibility.toInt))
  | _, none =>
    .error (.database ("problem " ++ id ++ " has unknown judge mode "
      ++ Numeral.text r.judgeMode.toInt))

end ProblemRow

/-- A user whose role and status are codes. -/
structure UserRow where
  id : UserId
  role : Int16
  status : Int16
  deriving DecidableEq, Repr

namespace UserRow

open Row in
def ofRow (r : Row) : Except SqlFault UserRow := do
  return ⟨← r.column "id" int64?, ← r.column "role" int16?, ← r.column "status" int16?⟩

/-- The user, if the codes are known. -/
def user (r : UserRow) : Except Failure User :=
  let id := Numeral.text r.id.toInt
  match Role.ofCode? r.role, AccountStatus.ofCode? r.status with
  | some role, some status => .ok ⟨r.id, role, status⟩
  | none, _ =>
    .error (.database ("user " ++ id ++ " has unknown role " ++ Numeral.text r.role.toInt))
  | _, none =>
    .error (.database ("user " ++ id ++ " has unknown status " ++ Numeral.text r.status.toInt))

end UserRow

end Arbiter
