import Arbiter.Judging.Apply

/-!
# Timing out

A sweep gives up on the oldest submissions that have been pending for longer than a timeout, a
batch at a time: it applies a system error to each, so that a judge's result that comes meanwhile
is not overwritten.
-/

namespace Arbiter

/-- What a sweep asks for: the time, and calls to the store. -/
inductive SweepCall where
  | now
  | store (c : StoreCall)

abbrev SweepInterface : Interface :=
  ⟨SweepCall, fun
    | .now => Instant
    | .store c => Except Failure c.Result⟩

namespace Sweep

/-- Submissions in a batch. -/
def batch : Int64 := 100

/-- What is applied to a submission that waited too long. -/
def outcome (timeoutSeconds : Nat) (id : SubmissionId) : Outcome :=
  { Outcome.ofStatus id .systemError with
    errorMessage :=
      some ("Judging timed out after " ++ Numeral.text timeoutSeconds ++ " seconds") }

def applying {α : Type} (p : Program StoreInterface α) : Program SweepInterface α :=
  p.expand fun c => Program.call (I := SweepInterface) (.store c)

/-- Times submissions out one after the other; failures are passed over. Answers how many moved. -/
def timeOut (scoring : Scoring) (timeoutSeconds : Nat) :
    List SubmissionId → Program SweepInterface Nat
  | [] => return 0
  | id :: ids => do
    let r ← applying (apply scoring (outcome timeoutSeconds id)).run
    let moved ← timeOut scoring timeoutSeconds ids
    match r with
    | .ok (.now _) => return moved + 1
    | _ => return moved

/-- Times out one batch, and answers how many submissions moved. -/
def once (scoring : Scoring) (timeoutSeconds : Nat) :
    Program SweepInterface (Except Failure Nat) := do
  let now : Instant ← Program.call (I := SweepInterface) .now
  let stale : Except Failure (List SubmissionId) ←
    Program.call (I := SweepInterface) (.store (.findStale (now.minusSeconds timeoutSeconds) batch))
  match stale with
  | .error f => return .error f
  | .ok ids => return .ok (← timeOut scoring timeoutSeconds ids)

end Sweep

end Arbiter
