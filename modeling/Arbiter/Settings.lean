import Arbiter.Submission.Record
import Arbiter.Text.Numeral

/-!
# Settings

What the service is told by its environment: named values, each with a default but one. A value that
cannot be read is refused by its name, and the first fault in the order of the settings decides.
-/

namespace Arbiter

/-- How jobs leave the service. -/
inductive DispatchMode where
  | queue
  | simulate
  deriving DecidableEq, Repr

namespace DispatchMode

def name : DispatchMode → String
  | queue => "Queue"
  | simulate => "Simulate"

/-- The mode of a name in any case. -/
def read? (s : String) : Option DispatchMode :=
  if s.toLower = "queue" then some queue
  else if s.toLower = "simulate" then some simulate
  else none

end DispatchMode

/-- What becomes of a submit whose job cannot be queued. -/
inductive FailurePolicy where
  /-- It fails. -/
  | reject
  /-- It is judged by simulation. -/
  | simulate
  deriving DecidableEq, Repr

namespace FailurePolicy

def name : FailurePolicy → String
  | reject => "Reject"
  | simulate => "Simulate"

/-- The policy of a name in any case. -/
def read? (s : String) : Option FailurePolicy :=
  if s.toLower = "reject" then some reject
  else if s.toLower = "simulate" then some simulate
  else none

end FailurePolicy

/-- Why settings are refused. -/
inductive SettingsFault where
  | missing (name : String)
  | invalid (what : String)
  deriving DecidableEq, Repr

def SettingsFault.text : SettingsFault → String
  | missing name => "Missing required environment variable: " ++ name
  | invalid what => "Invalid value for environment variable: " ++ what

structure ServerSettings where
  host : String
  port : Nat
  log : String
  deriving DecidableEq, Repr

structure DatabaseSettings where
  /-- None runs the service on the store in memory. -/
  url : Option String
  maxConnections : Nat
  deriving DecidableEq, Repr

structure JudgeSettings where
  mode : DispatchMode
  policy : FailurePolicy
  queueStream : String
  resultStream : String
  resultGroup : String
  consumerName : String
  leastDelay : Nat
  greatestDelay : Nat
  /-- Seconds a submission may be pending; none bounds it when this is zero. -/
  timeout : Nat
  deriving DecidableEq, Repr

structure Settings where
  server : ServerSettings
  database : DatabaseSettings
  streamUrl : String
  jwtSecret : String
  judge : JudgeSettings
  deriving DecidableEq, Repr

/-- Named values; a name without a value is not set. -/
structure Environment where
  value? : String → Option String

namespace Environment

variable (env : Environment)

/-- A text, or its default. -/
def text (name default : String) : String := (env.value? name).getD default

/-- A value that is read, or its default. -/
def read {α : Type} (name : String) (read? : String → Option α) (default : α) :
    Except SettingsFault α :=
  match env.value? name with
  | none => .ok default
  | some raw =>
    match read? raw with
    | some a => .ok a
    | none => .error (.invalid name)

/-- A number of a range, or its default. -/
def number (name : String) (range : Span) (default : Nat) : Except SettingsFault Nat :=
  env.read name (fun raw => (Numeral.read? range raw).map Int.toNat) default

/-- A text that must be set. -/
def required (name : String) : Except SettingsFault String :=
  match env.value? name with
  | some raw => .ok raw
  | none => .error (.missing name)

end Environment

def ServerSettings.read (env : Environment) : Except SettingsFault ServerSettings := do
  return ⟨env.text "SERVER_HOST" "0.0.0.0", ← env.number "SERVER_PORT" .uint16 8080,
    env.text "RUST_LOG" "info"⟩

def DatabaseSettings.read (env : Environment) : Except SettingsFault DatabaseSettings := do
  return ⟨(env.value? "DATABASE_URL").filter fun url => !url.isEmpty,
    ← env.number "DATABASE_MAX_CONNECTIONS" .uint32 20⟩

/-- The settings of judging, under a default name for the consumer. -/
def JudgeSettings.read (env : Environment) (consumerName : String) :
    Except SettingsFault JudgeSettings := do
  let mode ← env.read "JUDGE_DISPATCH_MODE" DispatchMode.read? .queue
  let policy ← env.read "DISPATCH_FAILURE_POLICY" FailurePolicy.read? .reject
  let leastDelay ← env.number "SIMULATION_MIN_DELAY_MS" .uint64 1000
  let greatestDelay ← env.number "SIMULATION_MAX_DELAY_MS" .uint64 4000
  let timeout ← env.number "JUDGE_TIMEOUT_SECS" .uint64 0
  if greatestDelay < leastDelay then
    throw (.invalid "SIMULATION_MIN_DELAY_MS must not exceed SIMULATION_MAX_DELAY_MS")
  return ⟨mode, policy, env.text "JUDGE_QUEUE_STREAM" "submission-topic",
    env.text "JUDGE_RESULT_STREAM" "judge-result-topic",
    env.text "JUDGE_RESULT_GROUP" "croj-result-appliers",
    env.text "JUDGE_CONSUMER_NAME" consumerName, leastDelay, greatestDelay, timeout⟩

/-- All settings, under a default name for the consumer. -/
def Settings.read (env : Environment) (consumerName : String) : Except SettingsFault Settings := do
  let server ← ServerSettings.read env
  let database ← DatabaseSettings.read env
  let streamUrl := env.text "REDIS_URL" "redis://localhost:6379"
  let jwtSecret ← env.required "JWT_SECRET"
  return ⟨server, database, streamUrl, jwtSecret, ← JudgeSettings.read env consumerName⟩

end Arbiter
