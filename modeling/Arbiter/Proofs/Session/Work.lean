import Arbiter.Desk.Service
import Arbiter.Judging.Simulate
import Arbiter.Judging.Sweep
import Arbiter.Stream.Consumer

/-!
The work of the service over one interface. Submits, applied outcomes, discards, sweeps, consumers
of results, simulated judges and statistics all come down to calls to the store, one at a time,
and to calls to others whose answers are not the store's. Each duty is a program over these calls.
-/

namespace Arbiter

/-- What work asks of others than the store. -/
inductive OuterCall where
  | enqueue (id : SubmissionId)
  | command (words : Command)
  | pause (milliseconds : Nat)
  | now
  | stopping

abbrev OuterCall.Answer : OuterCall → Type
  | enqueue _ => Except DispatchFailure Unit
  | command _ => Answered
  | pause _ => Unit
  | now => Instant
  | stopping => Bool

/-- What work asks for. -/
inductive WorkCall where
  | store (c : StoreCall)
  | outer (c : OuterCall)

abbrev WorkInterface : Interface :=
  ⟨WorkCall, fun
    | .store c => Except Failure c.Result
    | .outer c => c.Answer⟩

/-- Work that answers with an `α`. -/
abbrev Work := Program WorkInterface

namespace Work

def store (c : StoreCall) : Work (Except Failure c.Result) :=
  Program.call (I := WorkInterface) (.store c)

def outer (c : OuterCall) : Work c.Answer := Program.call (I := WorkInterface) (.outer c)

/-- Applies an outcome, store call by store call. -/
def apply (scoring : Scoring) (o : Outcome) : Work (Except ApplyFailure Applied) :=
  (Arbiter.apply scoring o).run.expand store

/-- A request of the desk. -/
def ofDesk : (op : DeskCall) → Work (DeskInterface.Answer op)
  | .store c => store c
  | .enqueue id => outer (.enqueue id)

/-- A request of a sweep. -/
def ofSweep : (op : SweepCall) → Work (SweepInterface.Answer op)
  | .now => outer .now
  | .store c => store c

/-- A request of a simulated judge. -/
def ofSimulation (scoring : Scoring) : (op : SimulationCall) → Work (SimulationInterface.Answer op)
  | .apply o => apply scoring o
  | .pause milliseconds => outer (.pause milliseconds)

/-- A request of a consumer of results. -/
def ofConsumer (scoring : Scoring) : (op : ConsumerCall) → Work (ConsumerInterface.Answer op)
  | .command words => outer (.command words)
  | .apply o => apply scoring o
  | .pause milliseconds => outer (.pause milliseconds)
  | .stopping => outer .stopping

end Work

/-- A piece of work that can be taken on. -/
inductive Duty where
  | submit (c : Caller) (problem : ProblemId) (language code : String)
  | apply (scoring : Scoring) (o : Outcome)
  | discard (id : SubmissionId)
  | sweep (scoring : Scoring) (timeoutSeconds : Nat)
  /-- A consumer that reads up to some number of batches. -/
  | consume (scoring : Scoring) (c : Consumer) (batches : Nat)
  | judge (scoring : Scoring) (delay : Nat) (o : Outcome)
  | stats (user : UserId)

/-- What a duty comes to. -/
inductive Ended where
  | submitted (r : Except Failure SubmissionId)
  | applied (r : Except ApplyFailure Applied)
  | discarded (r : Except Failure Bool)
  | swept (r : Except Failure Nat)
  | consumed (r : Except String Unit)
  | judged
  | counted (r : Except Failure UserStats)

/-- The work of a duty. -/
def Duty.work : Duty → Work Ended
  | submit c problem language code =>
    ((Desk.submit c problem language code).run.expand Work.ofDesk).bind fun r =>
      .done (.submitted r)
  | apply scoring o => (Work.apply scoring o).bind fun r => .done (.applied r)
  | discard id => (Work.store (.discard id)).bind fun r => .done (.discarded r)
  | sweep scoring timeoutSeconds =>
    ((Sweep.once scoring timeoutSeconds).expand Work.ofSweep).bind fun r => .done (.swept r)
  | consume scoring c batches =>
    ((c.run batches).expand (Work.ofConsumer scoring)).bind fun r => .done (.consumed r)
  | judge scoring delay o =>
    ((Simulation.judge delay o).expand (Work.ofSimulation scoring)).bind fun _ => .done .judged
  | stats user => ((Desk.stats user).run.expand Work.ofDesk).bind fun r => .done (.counted r)

end Arbiter
