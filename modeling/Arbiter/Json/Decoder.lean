import Arbiter.Json.Value

/-!
# Reading JSON from left to right

A decoder takes a value off the front of the bytes and stops at the first fault, with the bytes it
had not yet passed. A fault is either that the text is not JSON or that it is JSON of another
shape, and the first one from the left decides.
-/

namespace Arbiter

/-- Why a text is refused. -/
inductive Fault where
  /-- It is not JSON, or ends early, or goes on after the value. -/
  | malformed
  /-- It is JSON, but not of the shape that is asked for. -/
  | mismatch
  deriving DecidableEq, Repr

abbrev Decoder := EStateM Fault Bytes

namespace Decoder

variable {α : Type}

def malformed : Decoder α := throw .malformed

def mismatch : Decoder α := throw .mismatch

/-! ### Bytes -/

def isBlank (b : UInt8) : Bool := b == 0x20 || b == 0x0A || b == 0x0D || b == 0x09

/-- Passes blanks and shows the byte after them. -/
def ahead : Decoder (Option UInt8) := do
  modify (List.dropWhile isBlank)
  return (← get).head?

/-- Passes one byte. -/
def pass : Decoder Unit := modify List.tail

/-- Passes the given bytes, which must come next. -/
def literal : Bytes → Decoder Unit
  | [] => return ()
  | b :: bs => do
    match ← get with
    | c :: r =>
      set r
      if c = b then literal bs else malformed
    | [] => malformed

/-- Passes blanks and the given byte. -/
def token (b : UInt8) : Decoder Unit := do
  match ← ahead with
  | some c => if c = b then pass else malformed
  | none => malformed

/-- The value of a whole text: after it only blanks. -/
def decode (d : Decoder α) (text : Bytes) : Except Fault α :=
  match d text with
  | .ok a rest => if rest.all isBlank then .ok a else .error .malformed
  | .error f _ => .error f

/-- Passes the byte that closes what `d` reads. A fault inside is kept, but the closing byte is
passed all the same if it comes next. -/
def closedBy (close : UInt8) (d : Decoder α) : Decoder α := do
  let inside ← tryCatch (Except.ok <$> d) fun f => pure (.error f)
  match inside with
  | .ok a => token close; return a
  | .error f => do
    tryCatch (token close) fun _ => pure ()
    throw f

/-- A decoder given by its result on bytes. -/
def ofResult (f : Bytes → EStateM.Result Fault Bytes α) : Decoder α := f

/-! ### Strings -/

def hexValue (b : UInt8) : Option Nat :=
  let n := b.toNat
  if 0x30 ≤ n ∧ n ≤ 0x39 then some (n - 0x30)
  else if 0x41 ≤ n ∧ n ≤ 0x46 then some (n - 0x37)
  else if 0x61 ≤ n ∧ n ≤ 0x66 then some (n - 0x57)
  else none

/-- The number of four hexadecimal digits. -/
def hex4 (a b c d : UInt8) : Option Nat := do
  return ((← hexValue a) * 16 + (← hexValue b)) * 256 + (← hexValue c) * 16 + (← hexValue d)

/-- What a backslash and a letter stand for. -/
def shortEscape (b : UInt8) : Option UInt8 :=
  if b = 0x22 ∨ b = 0x5C ∨ b = 0x2F then some b
  else if b = 0x62 then some 0x08
  else if b = 0x66 then some 0x0C
  else if b = 0x6E then some 0x0A
  else if b = 0x72 then some 0x0D
  else if b = 0x74 then some 0x09
  else none

def isLeadSurrogate (n : Nat) : Bool := 0xD800 ≤ n && n ≤ 0xDBFF

def isTrailSurrogate (n : Nat) : Bool := 0xDC00 ≤ n && n ≤ 0xDFFF

def joinSurrogates (lead trail : Nat) : Char :=
  .ofNat (0x10000 + (lead - 0xD800) * 0x400 + (trail - 0xDC00))

/-- The bytes that a string's inside stands for, up to its closing quote; `acc` holds them last
first. Bytes below a space, unknown escapes and unpaired surrogates are refused; the byte that
stands where a trailing surrogate should begin is passed, even a quote. -/
def unescape (acc : Bytes) : Bytes → EStateM.Result Fault Bytes Bytes
  | [] => .error .malformed []
  | b :: r =>
    if b = 0x22 then .ok acc.reverse r
    else if b = 0x5C then
      match r with
      | [] => .error .malformed []
      | e :: r =>
        match shortEscape e with
        | some c => unescape (c :: acc) r
        | none =>
          if e = 0x75 then
            match r with
            | a :: b :: c :: d :: r =>
              match hex4 a b c d with
              | none => .error .malformed r
              | some n =>
                if isTrailSurrogate n then .error .malformed r
                else if isLeadSurrogate n then
                  match r with
                  | [] => .error .malformed []
                  | s :: r' =>
                    if s = 0x5C then
                      match r' with
                      | [] => .error .malformed []
                      | u :: r'' =>
                        if u = 0x75 then
                          match r'' with
                          | a :: b :: c :: d :: r =>
                            match hex4 a b c d with
                            | none => .error .malformed r
                            | some m =>
                              if isTrailSurrogate m then
                                unescape ((Utf8.encodeChar (joinSurrogates n m)).reverse ++ acc) r
                              else .error .malformed r
                          | _ => .error .malformed []
                        else .error .malformed r''
                    else .error .malformed r'
                else unescape ((Utf8.encodeChar (.ofNat n)).reverse ++ acc) r
            | _ => .error .malformed []
          else .error .malformed r
    else if b < 0x20 then .error .malformed (b :: r)
    else unescape (b :: acc) r

/-- The rest of a string whose opening quote is passed. -/
def stringRest : Decoder String := do
  match Utf8.read? (← ofResult (unescape [])) with
  | some s => return s
  | none => malformed

/-- Passes the rest of a string unread: escapes must be well formed, but surrogates need no
partner and bytes need not be characters. -/
def skipStringRest : Bytes → EStateM.Result Fault Bytes Unit
  | [] => .error .malformed []
  | b :: r =>
    if b = 0x22 then .ok () r
    else if b = 0x5C then
      match r with
      | [] => .error .malformed []
      | e :: r =>
        if (shortEscape e).isSome then skipStringRest r
        else if e = 0x75 then
          match r with
          | a :: b :: c :: d :: r =>
            if (hex4 a b c d).isSome then skipStringRest r else .error .malformed r
          | _ => .error .malformed []
        else .error .malformed r
    else if b < 0x20 then .error .malformed (b :: r)
    else skipStringRest r

end Decoder

end Arbiter
