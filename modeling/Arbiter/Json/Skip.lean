import Arbiter.Json.Shape

/-!
# Passing values unread, and reading any value

Members that a record does not know are passed by their grammar alone: their numbers may be of any
size and their strings need not be texts. `value` reads a value of any shape, with arrays and
objects nested to a given depth.
-/

namespace Arbiter.Decoder

/-- A number's sign, if it is one, and its parts. -/
def skipNumber : Decoder Unit := do
  match ← ahead with
  | some 0x2D => pass; let _ ← scan
  | _ => let _ ← scan

/-- Passes the comma before an item, unless the item is the first. -/
def comma (first : Bool) : Decoder Unit := if first then return () else token 0x2C

/-- The key of a member and its colon. -/
def skipKey : Decoder Unit := do
  token 0x22
  ofResult skipStringRest
  token 0x3A

mutual

/-- Passes a value; `n` bounds the work. -/
def skipWithin : Nat → Decoder Unit
  | 0 => malformed
  | n + 1 => do
    match ← ahead with
    | none => malformed
    | some b =>
      if b = 0x22 then pass; ofResult skipStringRest
      else if b = 0x5B then pass; skipItems n true
      else if b = 0x7B then pass; skipMembers n true
      else if b = 0x6E then pass; literal [0x75, 0x6C, 0x6C]
      else if b = 0x74 then pass; literal [0x72, 0x75, 0x65]
      else if b = 0x66 then pass; literal [0x61, 0x6C, 0x73, 0x65]
      else skipNumber

def skipItems : Nat → Bool → Decoder Unit
  | 0, _ => malformed
  | n + 1, first => do
    if (← ahead) = some 0x5D then pass
    else
      comma first
      skipWithin n
      skipItems n false

def skipMembers : Nat → Bool → Decoder Unit
  | 0, _ => malformed
  | n + 1, first => do
    if (← ahead) = some 0x7D then pass
    else
      comma first
      skipKey
      skipWithin n
      skipMembers n false

end

/-- Passes a value; `n` bounds the bytes that are left. -/
def skip (n : Nat) : Decoder Unit := skipWithin (2 * n + 2)

/-- The value of a number. -/
def Number.json : Number → Json
  | .int n => .int n
  | .real m e => .real m e

mutual

/-- A value of any shape whose brackets nest less than `depth` deep; `n` bounds the work. -/
def valueWithin : Nat → Nat → Decoder Json
  | 0, _ => malformed
  | n + 1, depth => do
    match ← ahead with
    | none => malformed
    | some b =>
      if b = 0x22 then pass; .str <$> stringRest
      else if b = 0x5B then
        if depth ≤ 1 then malformed
        else pass; .arr <$> closedBy 0x5D (valueItems n (depth - 1) true [])
      else if b = 0x7B then
        if depth ≤ 1 then malformed
        else pass; .obj <$> closedBy 0x7D (valueMembers n (depth - 1) true [])
      else if b = 0x6E then pass; literal [0x75, 0x6C, 0x6C]; return .null
      else if b = 0x74 then pass; literal [0x72, 0x75, 0x65]; return .bool true
      else if b = 0x66 then pass; literal [0x61, 0x6C, 0x73, 0x65]; return .bool false
      else if b = 0x2D then pass; Number.json <$> numberRest true
      else if isDigit b then Number.json <$> numberRest false
      else malformed

def valueItems : Nat → Nat → Bool → List Json → Decoder (List Json)
  | 0, _, _, _ => malformed
  | n + 1, depth, first, acc => do
    if (← ahead) = some 0x5D then return acc.reverse
    else
      comma first
      let v ← valueWithin n depth
      valueItems n depth false (v :: acc)

def valueMembers : Nat → Nat → Bool → List (String × Json) → Decoder (List (String × Json))
  | 0, _, _, _ => malformed
  | n + 1, depth, first, acc => do
    if (← ahead) = some 0x7D then return acc.reverse
    else
      comma first
      token 0x22
      let k ← stringRest
      token 0x3A
      let v ← valueWithin n depth
      valueMembers n depth false ((k, v) :: acc)

end

/-- How deep brackets may nest, plus one. -/
def depthLimit : Nat := 128

/-- A value of any shape, whose brackets nest less than `depth` deep. -/
def valueTo (depth : Nat) : Decoder Json := do
  valueWithin (2 * (← get).length + 2) depth

/-- A value of any shape. -/
def value : Decoder Json := valueTo depthLimit

/-- A value of any shape inside one bracket. -/
def innerValue : Decoder Json := valueTo (depthLimit - 1)

end Arbiter.Decoder

namespace Arbiter.Json

/-- The value that a whole text writes. -/
def read? (text : Bytes) : Option Json := (Decoder.decode Decoder.value text).toOption

end Arbiter.Json
