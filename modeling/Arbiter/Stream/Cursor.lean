/-!
# Where a consumer reads on

A consumer reads its own unacknowledged entries until none is left, and then new ones; after a
batch that may leave an entry unacknowledged it goes back.
-/

namespace Arbiter

/-- What the next read asks for. -/
inductive Cursor where
  /-- Entries that this consumer has read and not acknowledged. -/
  | backlog
  /-- Entries that no consumer has read. -/
  | fresh
  deriving DecidableEq, Repr

/-- How a batch ended. -/
inductive BatchEnd where
  /-- Every entry that was read is acknowledged. -/
  | settled (read : Nat)
  /-- Some entry is left for another delivery. -/
  | retry
  /-- The batch broke off. -/
  | failed
  deriving DecidableEq, Repr

namespace BatchEnd

/-- The consumer waits before it reads on. -/
def pauses : BatchEnd → Bool
  | settled _ => false
  | retry | failed => true

end BatchEnd

namespace Cursor

/-- The id that a read starts at. -/
def start : Cursor → String
  | backlog => "0"
  | fresh => ">"

def advance (c : Cursor) : BatchEnd → Cursor
  | .retry | .failed => backlog
  | .settled 0 => fresh
  | .settled _ => c

end Cursor

end Arbiter
