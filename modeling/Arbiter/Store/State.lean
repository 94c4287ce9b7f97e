import Arbiter.Account
import Arbiter.Page
import Arbiter.Problem

/-!
# The store

Submissions, problems and users, with the last id given to a submission. Deleted submissions stay
in the store, and no query shows them.
-/

namespace Arbiter

structure Store where
  submissions : Table Submission
  problems : Table Problem
  users : Table User
  lastId : SubmissionId
  deriving Inhabited

/-- How a user stands with a problem. -/
inductive Standing where
  | notAttempted
  | accepted
  | attempted
  deriving DecidableEq, Repr

def Standing.name : Standing → String
  | .notAttempted => "NOT_ATTEMPTED"
  | .accepted => "ACCEPTED"
  | .attempted => "ATTEMPTED"

namespace Store

def empty : Store := ⟨∅, ∅, ∅, 0⟩

variable (s : Store)

/-! ### Seeding -/

def insertUser (u : User) : Store := { s with users := s.users.insert u }

def insertProblem (p : Problem) : Store := { s with problems := s.problems.insert p }

/-- A submission put in as it is; new ids stay above its id. -/
def insertSubmission (x : Submission) : Store :=
  { s with
    submissions := s.submissions.insert x
    lastId := max s.lastId x.id }

/-! ### Queries -/

/-- The submissions that are not deleted, by id. -/
def live : List Submission := s.submissions.rows.filter fun x => !x.isDeleted

def find? (id : SubmissionId) : Option Submission :=
  (s.submissions.find? id).filter fun x => !x.isDeleted

/-- Newest first, and of one time the greater id first. -/
def newestFirst (x y : Submission) : Bool :=
  y.createTime.before x.createTime || (x.createTime == y.createTime && y.id ≤ x.id)

def matching (f : Filter) : List Submission := s.submissions.rows.filter f.holds

/-- The submissions of a filter's page, newest first. -/
def page (f : Filter) : List Submission :=
  let sorted := (s.matching f).mergeSort newestFirst
  let rest := if f.offset < 0 then [] else sorted.drop f.offset.toInt.toNat
  rest.take f.pageSize.toNat

/-- Shorter run time first, none last; then created earlier; then the lower id. -/
def better (x y : Submission) : Bool :=
  match x.runTime, y.runTime with
  | some _, none => true
  | none, some _ => false
  | some s, some t => s < t || (s == t && olderFirst)
  | none, none => olderFirst
where
  /-- Created earlier, or at one time under a lower id. -/
  olderFirst : Bool :=
    x.createTime.before y.createTime || (x.createTime == y.createTime && x.id < y.id)

/-- The first of the rows that no other row is better than. -/
def bestOf : List Submission → Option Submission
  | [] => none
  | x :: xs =>
    match bestOf xs with
    | none => some x
    | some y => if better y x then some y else some x

/-- The live submissions of a user to a problem. -/
def attempts (user : UserId) (problem : ProblemId) : List Submission :=
  s.live.filter fun x => x.userId == user && x.problemId == problem

def best? (user : UserId) (problem : ProblemId) : Option Submission :=
  bestOf ((s.attempts user problem).filter fun x => x.status == .accepted)

def countByUser (user : UserId) : Nat := (s.live.filter fun x => x.userId == user).length

/-- The problems that a user has solved, each once. -/
def solved (user : UserId) : List ProblemId :=
  ((s.live.filter fun x => x.userId == user && x.status == .accepted).map (·.problemId)).eraseDups

def standing (user : UserId) (problem : ProblemId) : Standing :=
  let xs := s.attempts user problem
  if xs.any fun x => x.status == .accepted then .accepted
  else if xs.isEmpty then .notAttempted
  else .attempted

/-- Older first, in the order of ids within one time. -/
def oldestFirst (x y : Submission) : Bool := x.createTime.atMost y.createTime

/-- The oldest live pending submissions created before `cutoff`, `limit` of them. -/
def stale (cutoff : Instant) (limit : Nat) : List SubmissionId :=
  (((s.live.filter fun x => x.isPending && x.createTime.before cutoff).mergeSort
    oldestFirst).take limit).map (·.id)

/-! ### Changes -/

/-- A new pending submission, under the next id. -/
def create (now : Instant) (d : Draft) : Submission × Store :=
  let x := Submission.ofDraft (s.lastId + 1) now d
  (x, { s with submissions := s.submissions.insert x, lastId := x.id })

/-- Removes a pending submission, and says whether it did. -/
def discard (id : SubmissionId) : Bool × Store :=
  if (s.submissions.find? id).any (·.isPending) then
    (true, { s with submissions := s.submissions.erase id })
  else (false, s)

/-- One more accepted submission of a problem, if the problem is there. -/
def countAccepted (problem : ProblemId) : Store :=
  match s.problems.find? problem with
  | some p =>
    { s with problems := s.problems.insert { p with acceptedCount := p.acceptedCount + 1 } }
  | none => s

/-- Writes a verdict into a live pending submission, and counts it when it is accepted, as one
step; nothing happens to any other submission. -/
def complete (now : Instant) (id : SubmissionId) (v : Verdict) : Option Submission × Store :=
  match (s.find? id).filter (·.isPending) with
  | none => (none, s)
  | some x =>
    let x := x.judged v now
    let s := { s with submissions := s.submissions.insert x }
    (some x, if v.status = .accepted then s.countAccepted x.problemId else s)

/-- One more submit to a problem; none if the problem is not there. -/
def countSubmit (problem : ProblemId) : Option Store :=
  (s.problems.find? problem).map fun p =>
    { s with problems := s.problems.insert { p with submitCount := p.submitCount + 1 } }

end Store

end Arbiter
