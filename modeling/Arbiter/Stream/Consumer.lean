import Arbiter.Judging.Apply
import Arbiter.Stream.Cursor
import Arbiter.Stream.Entry

/-!
# The consumer of judge results

A member of a consumer group that reads outcomes from a stream and applies them. It makes sure of
its group, takes over entries that other members left, and then reads batch after batch. An entry
is acknowledged when its outcome is settled, and left for another delivery when the store failed.
-/

namespace Arbiter

/-- What a consumer asks for. -/
inductive ConsumerCall where
  | command (words : Command)
  | apply (o : Outcome)
  | pause (milliseconds : Nat)
  /-- Whether it is time to stop. -/
  | stopping

abbrev ConsumerInterface : Interface :=
  ⟨ConsumerCall, fun
    | .command _ => Answered
    | .apply _ => Except ApplyFailure Applied
    | .pause _ => Unit
    | .stopping => Bool⟩

/-- What becomes of an entry. -/
inductive Disposition where
  | acknowledge
  | redeliver
  deriving DecidableEq, Repr

/-- An entry is settled unless applying its outcome may succeed later. -/
def Disposition.ofApply : Except ApplyFailure Applied → Disposition
  | .ok _ => acknowledge
  | .error f => if f.isRetryable then redeliver else acknowledge

/-- The stream, the group and the name of a consumer. -/
structure Consumer where
  stream : String
  group : String
  name : String
  deriving DecidableEq, Repr

/-- Consuming, which a failed command breaks off with the text of its error. -/
abbrev Consuming := ExceptT String (Program ConsumerInterface)

namespace Consumer

/-- Entries in a batch. -/
def batchSize : Nat := 16

/-- How long a read waits for entries, in milliseconds. -/
def blockTime : Nat := 5000

/-- Entries idle for less than this are left to their owners, in milliseconds. -/
def claimIdleTime : Nat := 60000

/-- How long to wait after a batch that left something behind, in milliseconds. -/
def retryPause : Nat := 1000

/-- The characters of a word stand somewhere among others, in one piece. -/
def standsIn (word : List Char) : List Char → Bool
  | [] => word.isEmpty
  | c :: cs => word.isPrefixOf (c :: cs) || standsIn word cs

def mentions (text word : String) : Bool := standsIn word.toList text.toList

def send (words : Command) : Consuming Reply :=
  ExceptT.mk (Program.call (I := ConsumerInterface) (.command words))

variable (c : Consumer)

def createGroup : Command := ["XGROUP", "CREATE", c.stream, c.group, "0", "MKSTREAM"]

def listPending : Command := ["XPENDING", c.stream, c.group, "-", "+", "100"]

def claim (id : String) : Command :=
  ["XCLAIM", c.stream, c.group, c.name, Numeral.text claimIdleTime, id, "JUSTID"]

def read (cursor : Cursor) : Command :=
  ["XREADGROUP", "GROUP", c.group, c.name, "COUNT", Numeral.text batchSize, "BLOCK",
    Numeral.text blockTime, "STREAMS", c.stream, cursor.start]

def acknowledge (id : String) : Command := ["XACK", c.stream, c.group, id]

/-- Makes sure of the group; that it is there already is no error. -/
def ensureGroup : Consuming Unit := ExceptT.mk do
  match ← (send c.createGroup).run with
  | .ok _ => return .ok ()
  | .error text =>
    if mentions text "BUSYGROUP" then return .ok ()
    else return .error ("Failed to create consumer group: " ++ text)

/-- An entry that another member has left for long enough. -/
def isAbandoned (e : PendingEntry) : Bool := e.owner != c.name && claimIdleTime ≤ e.idle

/-- Takes entries over one after the other. -/
def claimAll : List PendingEntry → Consuming Unit
  | [] => return ()
  | e :: es => do
    if c.isAbandoned e then
      let _ ← send (c.claim e.id)
    claimAll es

/-- Takes over the entries that other members abandoned. -/
def claimAbandoned : Consuming Unit := do
  let pending : List PendingEntry ← liftExcept (PendingEntry.ofReply (← send c.listPending))
  c.claimAll pending
where
  /-- A reading of a reply. -/
  liftExcept {α : Type} (r : Except String α) : Consuming α := ExceptT.mk (pure r)

/-- What becomes of an entry; one without a readable outcome is settled. -/
def process (e : Entry) : Program ConsumerInterface Disposition := do
  match e.payload with
  | none => return .acknowledge
  | some payload =>
    match Decoder.decode Outcome.decoder (Utf8.encode payload) with
    | .error _ => return .acknowledge
    | .ok o =>
      let r : Except ApplyFailure Applied ← Program.call (I := ConsumerInterface) (.apply o)
      return .ofApply r

/-- Processes the entries of a batch in order, and says whether one is left for redelivery. -/
def processAll : List Entry → Consuming Bool
  | [] => return false
  | e :: es => do
    match ← (ExceptT.lift (process e) : Consuming Disposition) with
    | .acknowledge =>
      let reply ← send (c.acknowledge e.id)
      let _ ← (ExceptT.mk (pure (reply.number .int64)) : Consuming Int)
      processAll es
    | .redeliver => do
      let _ ← processAll es
      return true

/-- Reads and processes one batch. -/
def batch (cursor : Cursor) : Consuming BatchEnd := do
  let reply ← send (c.read cursor)
  match Entry.ofRead reply with
  | .error f => throw f.text
  | .ok entries =>
    if ← c.processAll entries then return .retry
    else return .settled entries.length

/-- Reads one batch, makes sure of the group again when the server does not know it, and waits
where something may be left behind. Answers where to read on. -/
def round (cursor : Cursor) : Program ConsumerInterface Cursor := do
  let ended : BatchEnd ←
    match ← (c.batch cursor).run with
    | .ok e => pure e
    | .error text =>
      if mentions text "NOGROUP" then
        let _ ← c.ensureGroup.run
      pure .failed
  if ended.pauses then
    let _ : Unit ← Program.call (I := ConsumerInterface) (.pause retryPause)
  return cursor.advance ended

/-- Reads up to `n` batches, until it is time to stop. -/
def rounds : Nat → Cursor → Program ConsumerInterface Unit
  | 0, _ => return ()
  | n + 1, cursor => do
    let stop : Bool ← Program.call (I := ConsumerInterface) .stopping
    if stop then return ()
    else rounds n (← c.round cursor)

/-- Starts, and reads up to `n` batches. -/
def run (n : Nat) : Program ConsumerInterface (Except String Unit) := do
  match ← c.ensureGroup.run with
  | .error text => return .error text
  | .ok _ =>
    let _ ← c.claimAbandoned.run
    c.rounds n .backlog
    return .ok ()

end Consumer

end Arbiter
