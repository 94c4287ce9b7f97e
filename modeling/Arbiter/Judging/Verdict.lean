import Arbiter.Outcome
import Arbiter.Text.Blank
import Arbiter.Wire.Record

/-!
# From outcome to verdict

What is written into a submission when an outcome is applied to it: figures that really exceed an
exceeded limit, a message unless it was accepted, a score within the problem's total in scored
mode, and the judge's information or else a summary of the verdict.
-/

namespace Arbiter

/-- The score of an outcome that is neither accepted nor a compile error, before it is kept within
the problem's total. -/
abbrev Scoring := Outcome → Problem → Int32

/-- The score that the judge reports, or zero. -/
def reportedScore : Scoring := fun o _ => o.score.getD 0

namespace Verdict

/-- A figure above the limit: the reported one if it is larger, else one more than the limit. With
the limit unknown, the reported figure. -/
def exceed (reported limit : Option Int32) : Option Int32 :=
  match reported, limit.map fun l => nearestInt32 (l.toInt + 1) with
  | some r, some s => some (max r s)
  | some r, none => some r
  | none, s => s

/-- Run time and memory. -/
def usage (o : Outcome) (p : Option Problem) : Option Int32 × Option Int32 :=
  match o.status with
  | .accepted | .wrongAnswer | .runtimeError => (o.runTime, o.memory)
  | .timeLimitExceeded => (exceed o.runTime (p.map (·.timeLimit)), o.memory)
  | .memoryLimitExceeded => (o.runTime, exceed o.memory (p.map (·.memoryLimitKilobytes)))
  | .compileError | .systemError | .pending => (none, none)

/-- The message of a status for which the judge gives none. -/
def defaultMessage (status : Status) (p : Option Problem) : String :=
  match status with
  | .compileError => "Compilation failed"
  | .wrongAnswer => "Output does not match the expected answer"
  | .timeLimitExceeded =>
    match p with
    | some p => "Time limit of " ++ Numeral.text p.timeLimit.toInt ++ " ms exceeded"
    | none => "Time limit exceeded"
  | .memoryLimitExceeded =>
    match p with
    | some p => "Memory limit of " ++ Numeral.text p.memoryLimit.toInt ++ " MB exceeded"
    | none => "Memory limit exceeded"
  | .runtimeError => "Program terminated abnormally"
  | .systemError => "Judging could not be completed"
  | .accepted | .pending => ""

/-- The judge's message unless it is blank, or else the default one; none when accepted. -/
def message (o : Outcome) (p : Option Problem) : Option String :=
  match o.status with
  | .accepted | .pending => none
  | status =>
    some ((o.errorMessage.filter fun m => !isBlankText m).getD (defaultMessage status p))

/-- All of the total when accepted, nothing for a compile error, else what the policy gives, kept
between zero and the total. -/
def scoreOf (scoring : Scoring) (o : Outcome) (p : Problem) : Int32 :=
  let total := max p.totalScore 0
  match o.status with
  | .accepted => total
  | .compileError => 0
  | _ => max 0 (min total (scoring o p))

/-- A verdict's status and figures, written in the order of their names. -/
def summary (status : Status) (runTime memory score : Option Int32) : Json :=
  .obj
    [("memory", .ofOption .ofInt32 memory), ("runTime", .ofOption .ofInt32 runTime),
      ("score", .ofOption .ofInt32 score), ("status", status.json)]

/-- The verdict of an outcome, with the problem if it is known. -/
def ofOutcome (scoring : Scoring) (o : Outcome) (p : Option Problem) : Verdict :=
  let (runTime, memory) := usage o p
  let score := (p.filter (·.isScored)).map (scoreOf scoring o)
  { status := o.status
    runTime
    memory
    judgeInfo := some (o.judgeInfo.getD (summary o.status runTime memory score).text)
    errorMessage := message o p
    score }

end Verdict

end Arbiter
