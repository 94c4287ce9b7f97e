import Arbiter.Json.Decoder

/-!
# Reading JSON numbers

A number is scanned by its grammar and then sorted: a whole number of 64 bits, signed when it has a
sign, or a real one. A fraction, an exponent, minus zero and a whole number out of range make it
real. A real number too large for a double of 64 bits is refused as malformed. Only as many digits
count as fit 64 bits; whole digits past them raise the exponent, decimals past them are dropped.
-/

namespace Arbiter.Decoder

/-- A number as it is sorted. -/
inductive Number where
  | int (n : Int)
  | real (mantissa exponent : Int)
  deriving DecidableEq, Repr

def isDigit (b : UInt8) : Bool := 0x30 ≤ b && b ≤ 0x39

/-- The greatest exponent that is told apart from greater ones. -/
def maxExponent : Nat := 2147483647

/-- The exponent that digits write, or the one after `maxExponent` when they write more. -/
def exponentValue (ds : Bytes) : Nat :=
  ds.foldl (fun n d => min (maxExponent + 1) (10 * n + (d.toNat - 0x30))) 0

/-- The parts of a number without its sign. -/
structure Literal where
  whole : Bytes
  /-- Digits after a point; none without one. -/
  decimals : Option Bytes
  /-- Whether the exponent is negative, and its digits; none without one. -/
  exponent : Option (Bool × Bytes)
  deriving DecidableEq, Repr

/-- One or more digits. -/
def digits : Decoder Bytes := do
  let s ← get
  let ds := s.takeWhile isDigit
  set (s.drop ds.length)
  if ds.isEmpty then malformed else return ds

/-- Digits after a point, if a point comes next. -/
def decimals : Decoder (Option Bytes) := do
  match ← get with
  | 0x2E :: r => set r; some <$> digits
  | _ => return none

/-- Whether an exponent is negative, and its digits, if one comes next. -/
def exponent : Decoder (Option (Bool × Bytes)) := do
  match ← get with
  | e :: r =>
    if e = 0x65 ∨ e = 0x45 then
      match r with
      | 0x2B :: r' => set r'; (fun ds => some (false, ds)) <$> digits
      | 0x2D :: r' => set r'; (fun ds => some (true, ds)) <$> digits
      | _ => set r; (fun ds => some (false, ds)) <$> digits
    else return none
  | [] => return none

/-- The parts of a number whose sign is passed: no zero leads other whole digits, and digits stand
after a point and in an exponent. -/
def scan : Decoder Literal := do
  let whole ← digits
  if whole.length > 1 && whole.head? == some 0x30 then malformed
  else
    let decimals ← decimals
    let exponent ← exponent
    return ⟨whole, decimals, exponent⟩

/-- Appends digits to a significand while 64 bits hold it, and counts those appended. -/
def absorb (m : Nat) : Bytes → Nat × Nat
  | [] => (m, 0)
  | d :: ds =>
    let m' := 10 * m + (d.toNat - 0x30)
    if m' < UInt64.size then let (r, k) := absorb m' ds; (r, k + 1) else (m, 0)

/-- A number rounded to 53 bits, ties to even. -/
def round53 (n : Nat) : Nat :=
  if n < 1 <<< 53 then n
  else
    let unit := 1 <<< (n.log2 - 52)
    let q := n / unit
    let r := 2 * (n % unit)
    (if r > unit || (r == unit && q % 2 == 1) then q + 1 else q) * unit

/-- The double nearest to `m · 10 ^ e` is infinite; `e` above 308 is too large for any `m`. -/
def isTooLarge (m : Nat) (e : Int) : Bool :=
  m != 0 && (e > 308 ||
    (0 ≤ e && round53 m * round53 (Nat.pow 10 e.toNat) ≥ (1 <<< 1024) - (1 <<< 970)))

/-- The power of ten that a number is to be taken times; powers too great count as one. -/
def Literal.scale (l : Literal) : Int :=
  match l.exponent with
  | none => 0
  | some (false, ds) => exponentValue ds
  | some (true, ds) => -(exponentValue ds : Int)

/-- The digits after the one that takes a numeral over a limit; `n` is read before them. -/
def digitsOver (limit : Nat) (n : Nat) : Bytes → Bytes
  | [] => []
  | d :: ds =>
    let n := 10 * n + (d.toNat - 0x30)
    if limit < n then ds else digitsOver limit n ds

/-- The digits that are left unread when the number is too large: those of an exponent after it
has grown out of 32 bits. -/
def Literal.unread (l : Literal) : Bytes :=
  match l.exponent with
  | some (false, ds) => digitsOver maxExponent 0 ds
  | _ => []

def Literal.sort (negative : Bool) (l : Literal) : Except Fault Number :=
  let (m, taken) := absorb 0 l.whole
  let excess := l.whole.length - taken
  if l.decimals.isNone && l.exponent.isNone && excess = 0 then
    if !negative then .ok (.int m)
    else if 0 < m ∧ m ≤ 1 <<< 63 then .ok (.int (-(m : Int)))
    else .ok (.real (-(m : Int)) 0)
  else
    let (m, takenDecimals) := absorb m (l.decimals.getD [])
    let e : Int := (excess : Int) - takenDecimals + l.scale
    if isTooLarge m e then .error .malformed
    else .ok (.real (if negative then -(m : Int) else m) e)

/-- The rest of a number whose sign is passed. -/
def numberRest (negative : Bool) : Decoder Number := do
  let l ← scan
  match l.sort negative with
  | .ok n => return n
  | .error f =>
    modify (l.unread ++ ·)
    throw f

end Arbiter.Decoder
