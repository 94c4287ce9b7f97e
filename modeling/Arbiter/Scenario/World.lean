import Arbiter.Dispatch.Tree
import Arbiter.Judging.Simulate
import Arbiter.Scenario.StreamScript
import Arbiter.Scenario.TimeLine

/-!
# Worlds

Surroundings in which all programs of the service can be run: a store whose calls can be disturbed,
dispatchers of several kinds, scripted stream servers, a clock that moves on with every reading, and
a time line of milliseconds for the judges and the sweeper that work beside the steps of a scenario.
What dispatchers and servers are asked is logged, and scores may be given by other policies than the
reported one.
-/

namespace Arbiter

namespace StoreCall

/-- The name by which calls are disturbed. -/
def name : StoreCall → String
  | create _ => "create"
  | discard _ => "discard"
  | find _ => "find_by_id"
  | list _ => "list"
  | findBest _ _ => "find_best"
  | countByUser _ => "count_by_user"
  | countSolved _ => "count_accepted_problems"
  | standing _ _ => "user_problem_status"
  | complete _ _ => "complete"
  | findStale _ _ => "find_stale_pending"
  | findProblem _ => "find_problem"
  | countSubmit _ => "increment_submit_count"
  | findUser _ => "find_user"

end StoreCall

/-- What happens to one call to the store. -/
inductive Disturbance where
  | nothing
  /-- The call fails and has no effect. -/
  | fail (f : Failure)
  /-- Somebody else writes a verdict just before. -/
  | complete (id : SubmissionId) (v : Verdict)
  /-- Somebody else discards a submission just before. -/
  | discard (id : SubmissionId)
  deriving Repr

/-- A dispatcher that hands jobs over by itself. -/
inductive Leaf where
  /-- Logs its label and the job, applies an outcome if it has one, and fails as often as it is
  told; with a negative number always. -/
  | record (label : String) (outcome : Option Outcome) (failures : Int) (message : String)
  /-- Judges by simulation. -/
  | simulate (template : Outcome) (delays : Simulation.Delays)
  /-- Publishes to a stream. -/
  | queue (stream : String) (script : StreamScript)

/-- What is logged. -/
inductive Logged where
  | dispatched (label : String) (id : SubmissionId)
  | command (words : Command)
  deriving Repr

/-- The same score for every outcome. -/
def fixedScore (n : Int32) : Scoring := fun _ _ => n

/-- A part of the problem's total. -/
def partOfTotal (divisor : Int32) : Scoring := fun _ p => p.totalScore / divisor

/-- Who works beside the steps of a scenario. -/
inductive Worker where
  /-- A simulated judge. -/
  | judge (rest : Program SimulationInterface Unit)
  /-- A sweeper before its next sweep; it sleeps for `interval` milliseconds after each. -/
  | sweeper (timeoutSeconds interval : Nat)

structure World where
  store : Store
  scoring : Scoring
  secret : String
  /-- Disturbances by the name of the call. -/
  disturbances : List (String × List Disturbance)
  dispatcher : DispatchTree Nat
  leaves : List Leaf
  /-- The next reading of the clock. -/
  clock : Instant
  workers : TimeLine Worker
  /-- Whether a sweeper is told to stop. -/
  sweeperStops : Bool
  /-- What was logged, last first. -/
  log : List Logged

abbrev Scene := StateM World

namespace Scene

/-- Reads the clock, which then moves on by a microsecond. -/
def readClock : Scene Instant := do
  let w ← get
  let next : Instant :=
    if w.clock.nano + 1000 < 1000000000 then ⟨w.clock.second, w.clock.nano + 1000⟩
    else ⟨w.clock.second + 1, w.clock.nano + 1000 - 1000000000⟩
  set { w with clock := next }
  return w.clock

def logged (l : Logged) : Scene Unit := modify fun w => { w with log := l :: w.log }

/-- A call that nothing disturbs. -/
def undisturbed (c : StoreCall) : Scene (Except Failure c.Result) := do
  let now ← readClock
  let w ← get
  let (r, store) := w.store.run now c
  set { w with store }
  return r

/-- The next disturbance of a call. -/
def disturbance (c : StoreCall) : Scene Disturbance := do
  let w ← get
  match w.disturbances.find? fun d => d.1 == c.name with
  | some (_, d :: ds) =>
    let disturbances := w.disturbances.map fun p => if p.1 == c.name then (p.1, ds) else p
    set { w with disturbances }
    return d
  | _ => return .nothing

/-- A call to the store. -/
def call (c : StoreCall) : Scene (Except Failure c.Result) := do
  match ← disturbance c with
  | .nothing => undisturbed c
  | .fail f => return .error f
  | .complete id v => do
    let _ ← undisturbed (.complete id v)
    undisturbed c
  | .discard id => do
    let _ ← undisturbed (.discard id)
    undisturbed c

/-- Applies an outcome. -/
def applied (o : Outcome) : Scene (Except ApplyFailure Applied) := do
  (apply (← get).scoring o).run.interpret call

end Scene

end Arbiter
