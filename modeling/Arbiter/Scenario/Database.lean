import Arbiter.Sql.Repository

/-!
# A scripted database

The answers that a database gives in a scenario. Transactions begin and end as they are told; every
other statement takes the next answer, and when none is left it finds and changes no row.
-/

namespace Arbiter

structure ScriptedDatabase where
  answers : List (Except SqlFault SqlReply)
  /-- The statements that were sent, last first. -/
  log : List Statement

namespace ScriptedDatabase

abbrev Session := StateM ScriptedDatabase

def send (s : Statement) : Session Unit := modify fun d => { d with log := s :: d.log }

def answer : SqlCall → Session (Except SqlFault SqlReply)
  | .start => do
    send ⟨"BEGIN", []⟩
    return .ok (.affected 0)
  | .commit => do
    send ⟨"COMMIT", []⟩
    return .ok (.affected 0)
  | .rollback => do
    send ⟨"ROLLBACK", []⟩
    return .ok (.affected 0)
  | .run s => do
    send s
    let d ← get
    match d.answers with
    | [] => return .ok (.affected 0)
    | a :: answers => do
      set { d with answers }
      return a

/-- Does repository work with scripted answers, and shows the statements that were sent. -/
def run {α : Type} (work : Repository.Work α) (answers : List (Except SqlFault SqlReply)) :
    Except Failure α × List Statement :=
  let (r, d) := (Program.interpret (I := SqlInterface) answer work.run).run ⟨answers, []⟩
  (r, d.log.reverse)

end ScriptedDatabase

end Arbiter
