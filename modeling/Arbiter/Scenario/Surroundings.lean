import Arbiter.Desk.Service
import Arbiter.Dispatch.Queue
import Arbiter.Scenario.Workers
import Arbiter.Stream.Consumer

/-!
# Surroundings of the programs

What the programs of the service are answered in a world: commands to a server, jobs handed over,
calls from the desk, and what a consumer asks for.
-/

namespace Arbiter.Scene

/-- Sends a command to a scripted server; whoever is ready has a turn before the reply. -/
def send (words : Command) : StateT StreamScript Scene Answered := do
  logged (.command words)
  runReady
  let (a, script) := (← get).answer words
  set script
  return a

/-! ### Dispatchers -/

def setLeaf (i : Nat) (l : Leaf) : Scene Unit :=
  modify fun w => { w with leaves := w.leaves.set i l }

/-- One leaf hands over a job. -/
def dispatched (i : Nat) (id : SubmissionId) : Scene (Except DispatchFailure Unit) := do
  match (← get).leaves[i]? with
  | none => return .error (.unavailable "")
  | some (.record label outcome failures message) => do
    logged (.dispatched label id)
    if let some o := outcome then
      let _ ← applied (o.fixed id)
    if failures = 0 then return .ok ()
    if 0 < failures then setLeaf i (.record label outcome (failures - 1) message)
    return .error (.unavailable message)
  | some (.simulate template delays) => do
    spawn (.judge (Simulation.judge delays.least (template.fixed id)))
    return .ok ()
  | some (.queue stream script) => do
    let (r, script) ← ((Job.publish stream ⟨id⟩).interpret send).run script
    setLeaf i (.queue stream script)
    return r

def leafAnswer (op : Nat × SubmissionId) : Scene ((LeafInterface Nat).Answer op) :=
  dispatched op.1 op.2

/-- Hands over a job. -/
def enqueue (id : SubmissionId) : Scene (Except DispatchFailure Unit) := do
  ((← get).dispatcher.enqueue id).interpret leafAnswer

/-! ### The desk -/

def deskAnswer : (op : DeskCall) → Scene (DeskInterface.Answer op)
  | .store c => call c
  | .enqueue id => enqueue id

/-- Does work at the desk. -/
def desk {α : Type} (p : Program DeskInterface α) : Scene α := p.interpret deskAnswer

/-! ### Consumers -/

def consumerAnswer (stopped : Bool) :
    (op : ConsumerCall) → StateT StreamScript Scene (ConsumerInterface.Answer op)
  | .command words => send words
  | .apply o => applied o
  | .pause milliseconds => wait milliseconds
  | .stopping => return stopped || (← get).isDrained

/-- Consumes with a server of its own until the server has nothing more to read. -/
def consume (c : Consumer) (script : StreamScript) (stopped : Bool) :
    Scene (Except String Unit) := do
  let batches := script.remaining "XREADGROUP" + 2
  return (← ((c.run batches).interpret (consumerAnswer stopped)).run script).1

end Arbiter.Scene
