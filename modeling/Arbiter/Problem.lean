import Arbiter.Submission.Record
import Arbiter.Text.Numeral

/-!
# Problems

What judging and admission need to know of a problem, and its two counters.
-/

namespace Arbiter

/-- Who may submit to a problem. -/
inductive Visibility where
  | everyone
  | restricted
  /-- Kept for a running contest. -/
  | contest
  deriving DecidableEq, Repr, Inhabited

namespace Visibility

def all : List Visibility := [.everyone, .restricted, .contest]

def code : Visibility → Int16
  | .everyone => 0
  | .restricted => 1
  | .contest => 2

def name : Visibility → String
  | .everyone => "PUBLIC"
  | .restricted => "PRIVATE"
  | .contest => "CONTEST"

def ofCode? (c : Int16) : Option Visibility := all.find? fun v => v.code == c

def ofName? (n : String) : Option Visibility := all.find? fun v => v.name == n

end Visibility

/-- Whether a problem is passed or failed, or scored. -/
inductive JudgeMode where
  | passFail
  | scored
  deriving DecidableEq, Repr, Inhabited

namespace JudgeMode

def all : List JudgeMode := [.passFail, .scored]

def code : JudgeMode → Int16
  | .passFail => 0
  | .scored => 1

def name : JudgeMode → String
  | .passFail => "ACM"
  | .scored => "OI"

def ofCode? (c : Int16) : Option JudgeMode := all.find? fun m => m.code == c

def ofName? (n : String) : Option JudgeMode := all.find? fun m => m.name == n

end JudgeMode

/-- A problem. The time limit is in milliseconds, the memory limit in megabytes, and the total
score counts in scored mode only. -/
structure Problem where
  id : ProblemId
  visibility : Visibility
  ownerId : UserId
  timeLimit : Int32
  memoryLimit : Int32
  judgeMode : JudgeMode
  totalScore : Int32
  submitCount : Int64
  acceptedCount : Int64
  deriving DecidableEq, Repr, Inhabited

instance : Keyed Problem := ⟨Problem.id⟩

/-- The nearest number of 32 bits. -/
def nearestInt32 (n : Int) : Int32 := .ofInt (max Span.int32.least (min Span.int32.greatest n))

namespace Problem

def isPublic (p : Problem) : Bool := p.visibility == .everyone

def isScored (p : Problem) : Bool := p.judgeMode == .scored

/-- The memory limit in kilobytes, or the greatest number there is. -/
def memoryLimitKilobytes (p : Problem) : Int32 := nearestInt32 (p.memoryLimit.toInt * 1024)

end Problem

end Arbiter
