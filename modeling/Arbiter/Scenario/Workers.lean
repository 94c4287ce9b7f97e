import Arbiter.Judging.Sweep
import Arbiter.Scenario.World

/-!
# Workers beside the steps

The steps of a scenario and the judges and sweepers beside them take turns. A step keeps its turn
until it waits: for time to pass, for the reply of a server or for a sweeper to end. Then every
worker that is ready has a turn, in order, and keeps it until it sleeps or ends. Time passes only
while nobody is ready; of all that wake at one time the step goes on first.
-/

namespace Arbiter.Scene

/-- Changes the time line. -/
def onTimeLine (f : TimeLine Worker → TimeLine Worker) : Scene Unit :=
  modify fun w => { w with workers := f w.workers }

def spawn (a : Worker) : Scene Unit := onTimeLine (·.spawn a)

/-- Runs a simulated judge until it sleeps or ends; an empty pause is no sleep. -/
def judge : Program SimulationInterface Unit → Scene Unit
  | .done () => return ()
  | .ask (.pause milliseconds) next =>
    if milliseconds = 0 then judge (next ())
    else onTimeLine (·.sleep milliseconds (.judge (next ())))
  | .ask (.apply o) next => do judge (next (← applied o))

def sweepAnswer : (op : SweepCall) → Scene (SweepInterface.Answer op)
  | .now => readClock
  | .store c => call c

/-- Sweeps once. -/
def sweep (timeoutSeconds : Nat) : Scene (Except Failure Nat) := do
  (Sweep.once (← get).scoring timeoutSeconds).interpret sweepAnswer

/-- Runs a worker until it sleeps or ends. A sweeper looks whether to stop after each sweep. -/
def runWorker : Worker → Scene Unit
  | .judge rest => judge rest
  | .sweeper timeoutSeconds interval => do
    let _ ← sweep timeoutSeconds
    if !(← get).sweeperStops then
      onTimeLine (·.sleep interval (.sweeper timeoutSeconds interval))

/-- Gives every worker that is ready its turn. -/
def runReady : Scene Unit := do
  let ready := (← get).workers.ready
  onTimeLine fun l => { l with ready := [] }
  ready.forM runWorker

/-- Waits until a time, in at most `n` rounds. Workers that wake at that very time are ready then,
and have not had their turn. -/
def waitUntil (time : Nat) : Nat → Scene Unit
  | 0 => return ()
  | n + 1 => do
    runReady
    let next := (← get).workers.nextTime time
    onTimeLine (·.moveTo next)
    if next < time then waitUntil time n

/-- Waits for some milliseconds; each round takes one of them at least. -/
def wait (milliseconds : Nat) : Scene Unit := do
  let l := (← get).workers
  let time := l.endOf milliseconds
  waitUntil time (time - l.now)

def isSweeper : Worker → Bool
  | .sweeper _ _ => true
  | .judge _ => false

/-- Tells the sweeper to stop, if there is one, and waits for its end: it still makes the sweep that
it sleeps before. -/
def stopSweeper : Scene Unit := do
  modify fun w => { w with sweeperStops := true }
  runReady
  let l := (← get).workers
  if let some s := l.sleepers.find? fun s => isSweeper s.task then
    wait (s.wake - l.now)
    runReady

end Arbiter.Scene
