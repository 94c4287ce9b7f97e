import Arbiter.Submission.Record
import Arbiter.Text.Numeral
import Arbiter.Text.Quoted
import Arbiter.Text.Utf8

/-!
# Replies of a stream server

A command to the server is a list of words, and its reply is a value: nothing, a number, bytes, a
status, or a list. Readings of replies turn them into texts, numbers and rows, or fail with the
text that describes why.
-/

namespace Arbiter

inductive Reply where
  | nil
  | int (n : Int64)
  | bulk (bytes : Bytes)
  | array (items : List Reply)
  | set (items : List Reply)
  | status (text : String)
  /-- The status `OK`. -/
  | okay
  | bool (b : Bool)
  deriving Inhabited, Repr

abbrev Command := List String

/-- What a command is answered: a value, or the text of an error. -/
abbrev Answered := Except String Reply

namespace Reply

/-- Error codes of the server that have a kind of their own. -/
def errorKinds : List (String × String) :=
  [("ERR", "ResponseError"), ("EXECABORT", "ExecAbortError"), ("LOADING", "BusyLoadingError"),
    ("NOSCRIPT", "NoScriptError"), ("MOVED", "Moved"), ("ASK", "Ask"), ("TRYAGAIN", "TryAgain"),
    ("CLUSTERDOWN", "ClusterDown"), ("CROSSSLOT", "CrossSlot"), ("MASTERDOWN", "MasterDown"),
    ("READONLY", "ReadOnly"), ("NOTBUSY", "NotBusy"), ("NOSUB", "NoSub")]

/-- The text of an error that the server reports as a code and details. -/
def errorText (line : String) : String :=
  let code := String.ofList (line.toList.takeWhile (· != ' '))
  let detail := (line.toList.dropWhile (· != ' ')).drop 1
  let hasDetail := line.toList.contains ' '
  match errorKinds.find? fun k => k.1 == code with
  | some (_, kind) =>
    if hasDetail then
      "An error was signalled by the server - " ++ kind ++ ": " ++ String.ofList detail
    else "An error was signalled by the server- " ++ kind
  | none =>
    code ++ ": " ++
      if hasDetail then String.ofList detail else "Unknown extension error encountered"

mutual

/-- A reply as messages show it. -/
def describe : Reply → String
  | .nil => "nil"
  | .int n => "int(" ++ Numeral.text n.toInt ++ ")"
  | .bulk bytes =>
    match Utf8.read? bytes with
    | some s => "bulk-string(\x27" ++ Quoted.encode s ++ "\x27)"
    | none => "binary-data([" ++ ", ".intercalate (bytes.map fun b => Numeral.text b.toNat) ++ "])"
  | .array items => "array([" ++ ", ".intercalate (describeAll items) ++ "])"
  | .set items => "set([" ++ ", ".intercalate (describeAll items) ++ "])"
  | .status s => "simple-string(" ++ Quoted.encode s ++ ")"
  | .okay => "ok"
  | .bool b => if b then "boolean(true)" else "boolean(false)"

def describeAll : List Reply → List String
  | [] => []
  | r :: rs => describe r :: describeAll rs

end

/-- The text of a reply that is not of the type asked for. -/
def typeError (reason : String) (r : Reply) : String :=
  "Response was of incompatible type - TypeError: " ++ Quoted.encode reason ++ " (response was "
    ++ r.describe ++ ")"

/-- Bytes as a text; the text of the error when they write none is `refusal`. -/
def bulkText (refusal : String) (bytes : Bytes) : Except String String :=
  match Utf8.read? bytes with
  | some s => .ok s
  | none => .error refusal

/-- A text: bytes, a status, or a number written out. -/
def text : Reply → Except String String
  | .bulk bytes => bulkText "Cannot convert from UTF-8- TypeError" bytes
  | .status s => .ok s
  | .okay => .ok "OK"
  | .int n => .ok (Numeral.text n.toInt)
  | r => .error (typeError "Response type not string compatible." r)

/-- A number of a range: a number, kept to the range's width, or a numeral. -/
def number (range : Span) (r : Reply) : Except String Int :=
  match r with
  | .int n => .ok (if range.holds n.toInt then n.toInt else n.toUInt64.toNat)
  | .status s => numeral s
  | .bulk bytes => bulkText "Invalid UTF-8- TypeError" bytes >>= numeral
  | _ => .error (typeError "Response type not convertible to numeric." r)
where
  /-- A numeral of the range. -/
  numeral (s : String) : Except String Int :=
    match Numeral.read? range s with
    | some n => .ok n
    | none => .error (typeError "Could not convert from string." r)

end Reply

/-- An entry that some consumer has read and not yet acknowledged. -/
structure PendingEntry where
  id : String
  owner : String
  idle : Nat
  deliveries : Nat
  deriving DecidableEq, Repr

namespace PendingEntry

def ofItems (id owner idle deliveries : Reply) : Except String PendingEntry := do
  return ⟨← id.text, ← owner.text, (← idle.number .uint64).toNat,
    (← deliveries.number .uint64).toNat⟩

/-- The lists of four among the items, as entries. -/
def ofRows : List Reply → Except String (List PendingEntry)
  | [] => .ok []
  | .array [a, b, c, d] :: rest => do
    let e ← ofItems a b c d
    return e :: (← ofRows rest)
  | _ :: rest => ofRows rest

/-- The items four by four, as entries; fewer than four at the end are left out. -/
def ofFlat : List Reply → Except String (List PendingEntry)
  | a :: b :: c :: d :: rest => do
    let e ← ofItems a b c d
    return e :: (← ofFlat rest)
  | _ => .ok []

/-- The entries of a reply: a list of rows, or when no item is a row, a flat list. -/
def ofReply : Reply → Except String (List PendingEntry)
  | .nil => .ok []
  | .array items | .set items => do
    let rows ← ofRows items
    if rows.isEmpty then ofFlat items else return rows
  | r => .error (Reply.typeError "Response type not vector compatible." r)

end PendingEntry

end Arbiter
