import Arbiter.Failure
import Arbiter.Program

/-!
# Statements to a database

A statement is a text with parameters; the database answers with rows or with the number of rows
that it changed, or fails. Columns are looked up by name, and one that is missing is null.
-/

namespace Arbiter

inductive SqlValue where
  | null
  | int (n : Int)
  | text (s : String)
  | bool (b : Bool)
  | time (i : Instant)
  deriving DecidableEq, Repr, Inhabited

namespace SqlValue

/-- The first second of the year 2000, from which a database counts times. -/
def epoch : Int := 946684800

/-- A time as a database keeps it: whole microseconds, cut off towards the epoch. -/
def ofInstant (i : Instant) : SqlValue :=
  let micros := ((i.second - epoch) * 1000000000 + i.nano).tdiv 1000
  .time ⟨epoch + micros / 1000000, (micros % 1000000).toNat * 1000⟩

def ofInt64 (n : Int64) : SqlValue := .int n.toInt
def ofInt32 (n : Int32) : SqlValue := .int n.toInt
def ofInt16 (n : Int16) : SqlValue := .int n.toInt

def ofOption {α : Type} (f : α → SqlValue) : Option α → SqlValue
  | none => .null
  | some a => f a

end SqlValue

/-- A text with parameters `$1`, `$2` and so on. -/
structure Statement where
  text : String
  parameters : List SqlValue
  deriving DecidableEq, Repr

abbrev Row := List (String × SqlValue)

inductive SqlReply where
  | rows (rs : List Row)
  | affected (n : Nat)
  deriving DecidableEq, Repr

namespace SqlReply

def rowsOf : SqlReply → List Row
  | rows rs => rs
  | affected _ => []

/-- The number of rows changed or answered. -/
def count : SqlReply → Nat
  | rows rs => rs.length
  | affected n => n

end SqlReply

/-- Where a value that is null stands in a row. -/
inductive ColumnPlace where
  | name (n : String)
  | position (n : Nat)
  deriving DecidableEq, Repr

/-- Why a statement, or the reading of its rows, fails. -/
inductive SqlFault where
  | rowNotFound
  | poolTimedOut
  | poolClosed
  | columnNotFound (name : String)
  | protocol (detail : String)
  | database (detail : String)
  | unexpectedNull (place : ColumnPlace)
  | wrongType (place : ColumnPlace)
  deriving DecidableEq, Repr

def ColumnPlace.text : ColumnPlace → String
  | name n => "\"" ++ n ++ "\""
  | position n => Numeral.text n

namespace SqlFault

def text : SqlFault → String
  | rowNotFound => "no rows returned by a query that expected to return at least one row"
  | poolTimedOut => "pool timed out while waiting for an open connection"
  | poolClosed => "attempted to acquire a connection on a closed pool"
  | columnNotFound name => "no column found for name: " ++ name
  | protocol detail => "encountered unexpected or invalid data: " ++ detail
  | database detail => "error returned from database: " ++ detail
  | unexpectedNull place =>
    "error occurred while decoding column " ++ place.text
      ++ ": unexpected null; try decoding as an `Option`"
  | wrongType place =>
    "error occurred while decoding column " ++ place.text ++ ": mismatched types"

/-- A missing row is a missing resource; every other fault is one of the database. -/
def failure : SqlFault → Failure
  | rowNotFound => .notFound "Resource not found"
  | f => .database f.text

end SqlFault

/-- What is sent to a database. -/
inductive SqlCall where
  | start
  | run (s : Statement)
  | commit
  | rollback
  deriving Repr

abbrev SqlInterface : Interface := ⟨SqlCall, fun _ => Except SqlFault SqlReply⟩

/-- Work with a database, which a failure breaks off. -/
abbrev SqlWork := ExceptT SqlFault (Program SqlInterface)

namespace SqlWork

def call (c : SqlCall) : SqlWork SqlReply := ExceptT.mk (Program.call (I := SqlInterface) c)

def fetchAll (s : Statement) : SqlWork (List Row) := return (← call (.run s)).rowsOf

/-- The first row, if there is one. -/
def fetchFirst (s : Statement) : SqlWork (Option Row) := return (← fetchAll s).head?

/-- The first row. -/
def fetchOne (s : Statement) : SqlWork Row := do
  match ← fetchFirst s with
  | some r => return r
  | none => throw .rowNotFound

/-- The number of rows that a statement changes. -/
def execute (s : Statement) : SqlWork Nat := return (← call (.run s)).count

/-- Does work inside an open transaction, and takes the transaction back when the work fails. -/
def orRollback {α : Type} (work : SqlWork α) : SqlWork α := ExceptT.mk do
  match ← work.run with
  | .ok a => return .ok a
  | .error f =>
    let _ ← (call .rollback).run
    return .error f

end SqlWork

end Arbiter
