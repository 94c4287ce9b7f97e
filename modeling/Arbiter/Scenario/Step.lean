import Arbiter.Http.Server
import Arbiter.Scenario.Surroundings

/-!
# Steps of a scenario

What is done in a scenario, step by step, and what each step is told.
-/

namespace Arbiter

inductive Step where
  | insertUser (u : User)
  | insertProblem (p : Problem)
  | insertSubmission (s : Submission)
  | disturb (name : String) (ds : List Disturbance)
  | store (c : StoreCall)
  | submit (c : Caller) (problem : ProblemId) (language code : String)
  | view (c : Caller) (id : SubmissionId)
  | list (c : Caller) (f : Filter)
  | best (c : Caller) (user : UserId) (problem : ProblemId)
  | stats (user : UserId)
  | standing (user : UserId) (problem : ProblemId)
  | apply (o : Outcome)
  | applyAll (os : List Outcome)
  | enqueue (id : SubmissionId)
  | sleep (milliseconds : Nat)
  | sweep (timeoutSeconds : Nat)
  | runSweeper (timeoutSeconds interval duration : Nat)
  | consume (c : Consumer) (script : StreamScript) (stopped : Bool)
  | http (r : Request)

/-- What can be seen of a store. -/
structure Snapshot where
  submissions : List Submission
  /-- Submissions with the deleted ones. -/
  stored : Nat
  problems : List Problem

def Store.snapshot (s : Store) : Snapshot := ⟨s.live, s.submissions.size, s.problems.rows⟩

/-- What a step is told. -/
inductive Told where
  | nothing
  | stored {c : StoreCall} (r : c.Result)
  | id (id : SubmissionId)
  | view (v : View)
  | page (p : Page View)
  | best (v : Option View)
  | stats (s : UserStats)
  | standing (s : Standing)
  | applied (r : Except ApplyFailure Applied)
  | appliedAll (rs : List (Except ApplyFailure Applied))
  | count (n : Nat)
  | during (s : Snapshot)
  | response (r : Response)
  | failure (f : Failure)
  | dispatchFailure (f : DispatchFailure)
  /-- The consumer could not start. -/
  | notConsuming

namespace Scene

def seed (f : Store → Store) : Scene Told := do
  modify fun w => { w with store := f w.store }
  return .nothing

/-- What a result comes to. -/
def told {α : Type} (f : α → Told) : Except Failure α → Told
  | .ok a => f a
  | .error e => .failure e

/-- Work at the desk, and what it comes to. -/
def deskTold {α : Type} (work : Desk α) (f : α → Told) : Scene Told :=
  return told f (← desk work.run)

/-- Runs a sweeper beside others for some time, and shows the store before it is told to stop. One
that has no time to begin, or no interval, does not sweep. -/
def runSweeper (timeoutSeconds interval duration : Nat) : Scene Told := do
  if 0 < duration && 0 < interval then
    modify fun w => { w with sweeperStops := false }
    spawn (.sweeper timeoutSeconds interval)
  wait duration
  let during := (← get).store.snapshot
  stopSweeper
  return .during during

/-- Does a step. -/
def step : Step → Scene Told
  | .insertUser u => seed (·.insertUser u)
  | .insertProblem p => seed (·.insertProblem p)
  | .insertSubmission s => seed (·.insertSubmission s)
  | .disturb name ds => do
    modify fun w =>
      { w with disturbances := (name, ds) :: w.disturbances.filter fun d => d.1 != name }
    return .nothing
  | .store c => return told (fun r => .stored (c := c) r) (← call c)
  | .submit c problem language code => deskTold (Desk.submit c problem language code) .id
  | .view c id => deskTold (Desk.view c id) .view
  | .list c f => deskTold (Desk.list c f) .page
  | .best c user problem => deskTold (Desk.best c user problem) .best
  | .stats user => deskTold (Desk.stats user) .stats
  | .standing user problem => deskTold (Desk.standing user problem) .standing
  | .apply o => return .applied (← applied o)
  | .applyAll os => return .appliedAll (← os.mapM applied)
  | .enqueue id => do
    match ← enqueue id with
    | .ok () => return .nothing
    | .error f => return .dispatchFailure f
  | .sleep milliseconds => do
    wait milliseconds
    return .nothing
  | .sweep timeoutSeconds => return told .count (← sweep timeoutSeconds)
  | .runSweeper timeoutSeconds interval duration => runSweeper timeoutSeconds interval duration
  | .consume c script stopped => do
    match ← consume c script stopped with
    | .ok () => return .nothing
    | .error _ => return .notConsuming
  | .http r => do
    let now ← readClock
    return .response (← desk (Server.respond (← get).secret now r))

/-- Does a step, and shows what was logged meanwhile. -/
def observe (s : Step) : Scene (Told × List Logged) := do
  modify fun w => { w with log := [] }
  let t ← step s
  return (t, (← get).log.reverse)

end Scene

end Arbiter
