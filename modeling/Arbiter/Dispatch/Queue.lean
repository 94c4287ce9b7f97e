import Arbiter.Failure
import Arbiter.Program
import Arbiter.Stream.Entry
import Arbiter.Wire.Record

/-!
# Publishing jobs

A job is published as an entry of a stream whose message is the job as JSON.
-/

namespace Arbiter

/-- Commands to a stream server. -/
abbrev CommandInterface : Interface := ⟨Command, fun _ => Answered⟩

namespace Job

/-- The command that publishes a job. -/
def publication (stream : String) (j : Job) : Command :=
  ["XADD", stream, "*", Entry.payloadField, j.json.text]

/-- Publishes a job; the reply must be the text of an entry's id. -/
def publish (stream : String) (j : Job) :
    Program CommandInterface (Except DispatchFailure Unit) := do
  let answer : Answered ← Program.call (I := CommandInterface) (j.publication stream)
  return match answer >>= Reply.text with
    | .ok _ => .ok ()
    | .error text => .error (.unavailable text)

end Job

end Arbiter
