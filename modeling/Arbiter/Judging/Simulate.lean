import Arbiter.Judging.Apply

/-!
# Simulated judging

A simulated judge waits, then applies its outcome, and again after longer and longer pauses while
the store fails, five times at most.
-/

namespace Arbiter

/-- What a simulated judge asks for. -/
inductive SimulationCall where
  | apply (o : Outcome)
  | pause (milliseconds : Nat)

abbrev SimulationInterface : Interface :=
  ⟨SimulationCall, fun
    | .apply _ => Except ApplyFailure Applied
    | .pause _ => Unit⟩

namespace Simulation

/-- Attempts at applying one outcome. -/
def maxAttempts : Nat := 5

/-- The first pause after a failure; each pause is twice as long as the one before. -/
def firstPause : Nat := 500

/-- Applies an outcome, and again up to `more` times after pauses while that may help. -/
def attempts (o : Outcome) : (more pause : Nat) → Program SimulationInterface Unit
  | more, pause => do
    let r : Except ApplyFailure Applied ← Program.call (I := SimulationInterface) (.apply o)
    match more, r with
    | more + 1, .error f =>
      if f.isRetryable then
        let _ : Unit ← Program.call (I := SimulationInterface) (.pause pause)
        attempts o more (2 * pause)
      else return ()
    | _, _ => return ()

/-- Judges one submission after a delay. -/
def judge (delay : Nat) (o : Outcome) : Program SimulationInterface Unit := do
  let _ : Unit ← Program.call (I := SimulationInterface) (.pause delay)
  attempts o (maxAttempts - 1) firstPause

/-- The delays of a judge, in milliseconds; a least delay above the greatest counts as it. -/
structure Delays where
  least : Nat
  greatest : Nat
  ordered : least ≤ greatest

def Delays.of (least greatest : Nat) : Delays := ⟨min least greatest, greatest, Nat.min_le_right ..⟩

end Simulation

end Arbiter
