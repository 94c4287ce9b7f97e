import Arbiter.Stream.Reply

/-!
# A scripted stream server

The answers that a stream server gives in a scenario: for each command a queue of them, and when a
queue is empty the answer of a server without entries.
-/

namespace Arbiter

structure StreamScript where
  /-- Answers by the command's name. -/
  queues : List (String × List Answered)
  /-- Entries added without a scripted answer. -/
  added : Nat
  /-- A read found its queue empty. -/
  isDrained : Bool
  deriving Repr

namespace StreamScript

def ofQueues (queues : List (String × List Answered)) : StreamScript := ⟨queues, 0, false⟩

/-- Takes the next scripted answer to a command. -/
def take (name : String) : List (String × List Answered) →
    Option (Answered × List (String × List Answered))
  | [] => none
  | (n, answers) :: rest =>
    if n = name then
      match answers with
      | a :: as => some (a, (n, as) :: rest)
      | [] => none
    else (take name rest).map fun (a, rest) => (a, (n, answers) :: rest)

/-- Scripted answers to a command that are left. -/
def remaining (s : StreamScript) (name : String) : Nat :=
  ((s.queues.find? fun q => q.1 == name).map fun q => q.2.length).getD 0

/-- The answer to a command whose queue is empty. -/
def unscripted (s : StreamScript) (name : String) : Answered × StreamScript :=
  if name = "XGROUP" then (.ok .okay, s)
  else if name = "XACK" then (.ok (.int 1), s)
  else if name = "XADD" then
    let n := s.added + 1
    (.ok (.bulk (Utf8.encode (Numeral.text n ++ "-0"))), { s with added := n })
  else if name = "XREADGROUP" then (.ok .nil, { s with isDrained := true })
  else (.ok (.array []), s)

def answer (s : StreamScript) (words : Command) : Answered × StreamScript :=
  let name := words.headD ""
  match take name s.queues with
  | some (a, queues) => (a, { s with queues })
  | none => s.unscripted name

end StreamScript

end Arbiter
