import Arbiter.Sql.Row
import Arbiter.Store.Call

/-!
# The store in a database

Each call to a store as statements to a database. A verdict is written by one update that matches
pending submissions only, in one transaction with the count of an accepted one.
-/

namespace Arbiter.Repository

open SqlValue

/-- Repository work: faults of the database are failures like others. -/
abbrev Work := ExceptT Failure (Program SqlInterface)

variable {α : Type}

def sql (w : SqlWork α) : Work α := ExceptT.mk (Except.mapError SqlFault.failure <$> w.run)

/-- Goes on with a reading of rows. -/
def readRow (r : Except SqlFault α) : SqlWork α := ExceptT.mk (pure r)

/-- Goes on with a reading of codes. -/
def known (r : Except Failure α) : Work α := ExceptT.mk (pure r)

/-! ### Submissions -/

def insertion (d : Draft) : Statement :=
  ⟨"INSERT INTO t_submission (problem_id, user_id, language, code, status)"
      ++ " VALUES ($1, $2, $3, $4, $5) RETURNING *",
    [ofInt64 d.problemId, ofInt64 d.userId, .text d.language, .text d.code,
      ofInt16 Status.pending.code]⟩

def create (d : Draft) : Work Submission := do
  let r ← sql do readRow (SubmissionRow.ofRow (← SqlWork.fetchOne (insertion d)))
  known r.submission

def deletion (id : SubmissionId) : Statement :=
  ⟨"DELETE FROM t_submission WHERE id = $1 AND status = $2",
    [ofInt64 id, ofInt16 Status.pending.code]⟩

def discard (id : SubmissionId) : Work Bool := do
  return 0 < (← sql (SqlWork.execute (deletion id)))

/-- The submission of a statement's first row. -/
def firstSubmission (s : Statement) : Work (Option Submission) := do
  let r ← sql do
    match ← SqlWork.fetchFirst s with
    | some row => some <$> readRow (SubmissionRow.ofRow row)
    | none => return none
  match r with
  | some r => some <$> known r.submission
  | none => return none

def find (id : SubmissionId) : Work (Option Submission) :=
  firstSubmission ⟨"SELECT * FROM t_submission WHERE id = $1 AND is_deleted = FALSE", [ofInt64 id]⟩

/-- The conditions of a filter, as parameters. -/
def conditions (f : Filter) : List SqlValue :=
  [ofOption ofInt64 f.userId, ofOption ofInt64 f.problemId, ofOption .text f.language,
    ofOption (fun s => ofInt16 s.code) f.status]

/-- The submissions that are not deleted and meet the conditions; a null one holds of all. -/
def matching : String :=
  "FROM t_submission WHERE is_deleted = FALSE"
    ++ " AND ($1::bigint IS NULL OR user_id = $1)"
    ++ " AND ($2::bigint IS NULL OR problem_id = $2)"
    ++ " AND ($3::text IS NULL OR language = $3)"
    ++ " AND ($4::smallint IS NULL OR status = $4)"

def pageQuery (f : Filter) : Statement :=
  ⟨"SELECT * " ++ matching ++ " ORDER BY create_time DESC, id DESC OFFSET $5 LIMIT $6",
    conditions f ++ [ofInt64 f.offset, .int f.pageSize.toNat]⟩

def countQuery (f : Filter) : Statement :=
  ⟨"SELECT COUNT(*) " ++ matching, conditions f⟩

/-- The count that a statement answers. -/
def count (s : Statement) : SqlWork Int64 := do
  readRow ((← SqlWork.fetchOne s).first "count" Row.int64?)

def list (f : Filter) : Work (List Submission × Int64) := do
  let rows ← sql do (← SqlWork.fetchAll (pageQuery f)).mapM fun r => readRow (SubmissionRow.ofRow r)
  let total ← sql (count (countQuery f))
  return (← rows.mapM fun r => known r.submission, total)

def bestQuery (user : UserId) (problem : ProblemId) : Statement :=
  ⟨"SELECT * FROM t_submission WHERE user_id = $1 AND problem_id = $2 AND status = $3"
      ++ " AND is_deleted = FALSE ORDER BY run_time ASC NULLS LAST, create_time ASC, id ASC"
      ++ " LIMIT 1",
    [ofInt64 user, ofInt64 problem, ofInt16 Status.accepted.code]⟩

def findBest (user : UserId) (problem : ProblemId) : Work (Option Submission) :=
  firstSubmission (bestQuery user problem)

def userCountQuery (user : UserId) : Statement :=
  ⟨"SELECT COUNT(*) FROM t_submission WHERE user_id = $1 AND is_deleted = FALSE", [ofInt64 user]⟩

def countByUser (user : UserId) : Work Int64 := sql (count (userCountQuery user))

def solvedCountQuery (user : UserId) : Statement :=
  ⟨"SELECT COUNT(DISTINCT problem_id) FROM t_submission WHERE user_id = $1 AND status = $2"
      ++ " AND is_deleted = FALSE",
    [ofInt64 user, ofInt16 Status.accepted.code]⟩

def countSolved (user : UserId) : Work Int64 := sql (count (solvedCountQuery user))

def standingQuery (user : UserId) (problem : ProblemId) : Statement :=
  ⟨"SELECT COUNT(*), BOOL_OR(status = $3) FROM t_submission"
      ++ " WHERE user_id = $1 AND problem_id = $2 AND is_deleted = FALSE",
    [ofInt64 user, ofInt64 problem, ofInt16 Status.accepted.code]⟩

def standing (user : UserId) (problem : ProblemId) : Work Standing := sql do
  let r ← SqlWork.fetchOne (standingQuery user problem)
  let attempts ← readRow (r.first "count" Row.int64?)
  let accepted ← readRow (r.nullable "bool_or" Row.bool?)
  if attempts = 0 then return .notAttempted
  else if accepted = some true then return .accepted
  else return .attempted

def judgement (id : SubmissionId) (v : Verdict) : Statement :=
  ⟨"UPDATE t_submission SET status = $3, run_time = $4, memory = $5, judge_info = $6,"
      ++ " error_message = $7, score = $8, update_time = NOW()"
      ++ " WHERE id = $1 AND status = $2 AND is_deleted = FALSE RETURNING *",
    [ofInt64 id, ofInt16 Status.pending.code, ofInt16 v.status.code, ofOption ofInt32 v.runTime,
      ofOption ofInt32 v.memory, ofOption .text v.judgeInfo, ofOption .text v.errorMessage,
      ofOption ofInt32 v.score]⟩

def acceptance (problem : ProblemId) : Statement :=
  ⟨"UPDATE t_problem SET accepted_count = accepted_count + 1 WHERE id = $1", [ofInt64 problem]⟩

/-- Writes a verdict and counts an accepted one in the open transaction, and closes it: with the
submission's row when it was pending, and without effect when it was not. -/
def completeOpen (id : SubmissionId) (v : Verdict) : SqlWork (Option SubmissionRow) := do
  match ← SqlWork.fetchFirst (judgement id v) with
  | none => do
    let _ ← SqlWork.call .rollback
    return none
  | some row => do
    let r ← readRow (SubmissionRow.ofRow row)
    if v.status = .accepted then
      let _ ← SqlWork.execute (acceptance r.record.problemId)
    let _ ← SqlWork.call .commit
    return some r

def complete (id : SubmissionId) (v : Verdict) : Work (Option Submission) := do
  let r ← sql do
    let _ ← SqlWork.call .start
    SqlWork.orRollback (completeOpen id v)
  match r with
  | some r => some <$> known r.submission
  | none => return none

def staleQuery (cutoff : Instant) (limit : Int64) : Statement :=
  ⟨"SELECT id FROM t_submission WHERE status = $1 AND is_deleted = FALSE AND create_time < $2"
      ++ " ORDER BY create_time LIMIT $3",
    [ofInt16 Status.pending.code, ofInstant cutoff, ofInt64 limit]⟩

def findStale (cutoff : Instant) (limit : Int64) : Work (List SubmissionId) := sql do
  (← SqlWork.fetchAll (staleQuery cutoff limit)).mapM fun r => readRow (r.first "id" Row.int64?)

/-! ### Problems and users -/

def problemQuery (id : ProblemId) : Statement :=
  ⟨"SELECT id, status, create_user_id, time_limit, memory_limit, judge_mode, total_score,"
      ++ " submit_count, accepted_count FROM t_problem WHERE id = $1 AND is_deleted = FALSE",
    [ofInt64 id]⟩

def findProblem (id : ProblemId) : Work (Option Problem) := do
  let r ← sql do
    match ← SqlWork.fetchFirst (problemQuery id) with
    | some row => some <$> readRow (ProblemRow.ofRow row)
    | none => return none
  match r with
  | some r => some <$> known r.problem
  | none => return none

def countSubmit (id : ProblemId) : Work Unit := do
  let n ← sql (SqlWork.execute
    ⟨"UPDATE t_problem SET submit_count = submit_count + 1 WHERE id = $1", [ofInt64 id]⟩)
  if n = 0 then throw (.notFound ("Problem " ++ Numeral.text id.toInt ++ " not found"))

def userQuery (id : UserId) : Statement :=
  ⟨"SELECT id, role, status FROM t_user WHERE id = $1 AND is_deleted = FALSE", [ofInt64 id]⟩

def findUser (id : UserId) : Work (Option User) := do
  let r ← sql do
    match ← SqlWork.fetchFirst (userQuery id) with
    | some row => some <$> readRow (UserRow.ofRow row)
    | none => return none
  match r with
  | some r => some <$> known r.user
  | none => return none

/-! ### All calls -/

/-- Answers a store call from the database. -/
def run : (c : StoreCall) → Work c.Result
  | .create d => create d
  | .discard id => discard id
  | .find id => find id
  | .list f => list f
  | .findBest user problem => findBest user problem
  | .countByUser user => countByUser user
  | .countSolved user => countSolved user
  | .standing user problem => standing user problem
  | .complete id v => complete id v
  | .findStale cutoff limit => findStale cutoff limit
  | .findProblem id => findProblem id
  | .countSubmit id => countSubmit id
  | .findUser id => findUser id

/-- Asks the database for nothing, to see whether it answers. -/
def ping : Work Unit := sql do
  let _ ← SqlWork.execute ⟨"SELECT 1", []⟩

end Arbiter.Repository
