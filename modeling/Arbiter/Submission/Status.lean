/-!
# The states of a submission

A submission is pending until it is judged, and every other status is final. A status has a storage
code, a wire name and a description.
-/

namespace Arbiter

inductive Status where
  | pending
  | accepted
  | compileError
  | wrongAnswer
  | timeLimitExceeded
  | memoryLimitExceeded
  | runtimeError
  | systemError
  deriving DecidableEq, Repr, Inhabited

namespace Status

/-- All statuses in the order of their codes. -/
def all : List Status :=
  [.pending, .accepted, .compileError, .wrongAnswer, .timeLimitExceeded, .memoryLimitExceeded,
    .runtimeError, .systemError]

def code : Status → Int16
  | .pending => 0
  | .accepted => 1
  | .compileError => 2
  | .wrongAnswer => 3
  | .timeLimitExceeded => 4
  | .memoryLimitExceeded => 5
  | .runtimeError => 6
  | .systemError => 7

def name : Status → String
  | .pending => "PENDING"
  | .accepted => "ACCEPTED"
  | .compileError => "COMPILE_ERROR"
  | .wrongAnswer => "WRONG_ANSWER"
  | .timeLimitExceeded => "TIME_LIMIT_EXCEEDED"
  | .memoryLimitExceeded => "MEMORY_LIMIT_EXCEEDED"
  | .runtimeError => "RUNTIME_ERROR"
  | .systemError => "SYSTEM_ERROR"

/-- What users are shown. -/
def description : Status → String
  | .pending => "Pending"
  | .accepted => "Accepted"
  | .compileError => "Compile Error"
  | .wrongAnswer => "Wrong Answer"
  | .timeLimitExceeded => "Time Limit Exceeded"
  | .memoryLimitExceeded => "Memory Limit Exceeded"
  | .runtimeError => "Runtime Error"
  | .systemError => "System Error"

def ofCode? (c : Int16) : Option Status := all.find? fun s => s.code == c

def ofName? (n : String) : Option Status := all.find? fun s => s.name == n

/-- Nothing follows this status. -/
def isFinal (s : Status) : Bool := s != .pending

/-- A submission with this status may move to `next`. -/
def mayBecome (s next : Status) : Bool := s == .pending && next.isFinal

end Status

end Arbiter
