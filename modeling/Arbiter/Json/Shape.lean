import Arbiter.Json.Number

/-!
# Decoders for single values

Numbers of a range, strings, truth values, null, optional values and named choices. A value of
another kind is read first when it is a number, a string or a word, since it may itself be
malformed; a bracket or brace is refused at once.
-/

namespace Arbiter.Decoder

variable {α : Type}

/-- Refuses the value that comes next. -/
def refuse : Decoder α := do
  match ← ahead with
  | none => malformed
  | some b =>
    if b = 0x6E then pass; literal [0x75, 0x6C, 0x6C]; mismatch
    else if b = 0x74 then pass; literal [0x72, 0x75, 0x65]; mismatch
    else if b = 0x66 then pass; literal [0x61, 0x6C, 0x73, 0x65]; mismatch
    else if b = 0x2D then pass; let _ ← numberRest true; mismatch
    else if isDigit b then let _ ← numberRest false; mismatch
    else if b = 0x22 then pass; let _ ← stringRest; mismatch
    else if b = 0x5B ∨ b = 0x7B then mismatch
    else malformed

/-- Keeps a whole number of a range. -/
def keep (range : Span) : Number → Decoder Int
  | .int n => if range.holds n then return n else mismatch
  | .real _ _ => mismatch

/-- A whole number of a range. -/
def int (range : Span) : Decoder Int := do
  let n : Number ← match ← ahead with
    | none => malformed
    | some b =>
      if b = 0x2D then pass; numberRest true
      else if isDigit b then numberRest false
      else refuse
  keep range n

def int32 : Decoder Int32 := Int32.ofInt <$> int .int32

def int64 : Decoder Int64 := Int64.ofInt <$> int .int64

def uint32 : Decoder UInt32 := (fun n => UInt32.ofNat n.toNat) <$> int .uint32

def string : Decoder String := do
  match ← ahead with
  | none => malformed
  | some b => if b = 0x22 then pass; stringRest else refuse

def bool : Decoder Bool := do
  match ← ahead with
  | none => malformed
  | some b =>
    if b = 0x74 then pass; literal [0x72, 0x75, 0x65]; return true
    else if b = 0x66 then pass; literal [0x61, 0x6C, 0x73, 0x65]; return false
    else refuse

def null : Decoder Unit := do
  match ← ahead with
  | none => malformed
  | some b => if b = 0x6E then pass; literal [0x75, 0x6C, 0x6C] else refuse

/-- A value, or null for none. -/
def optional (d : Decoder α) : Decoder (Option α) := do
  match ← ahead with
  | some 0x6E => null; return none
  | _ => some <$> d

/-- A string that a reading accepts. -/
def parsed (read? : String → Option α) : Decoder α := do
  match read? (← string) with
  | some a => return a
  | none => mismatch

/-- One of several names: the name as a string, or as the only member of an object, with null. -/
def choice (named? : String → Option α) : Decoder α := do
  match ← ahead with
  | some 0x22 => parsed named?
  | some 0x7B => do
    pass
    token 0x22
    let some a := named? (← stringRest) | mismatch
    token 0x3A
    null
    token 0x7D
    return a
  | _ => malformed

end Arbiter.Decoder
