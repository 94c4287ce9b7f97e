import Arbiter.Text.Blank
import Arbiter.Text.Numeral
import Arbiter.Time.Instant

/-!
# Written times

Times as RFC 3339 writes them. A time is printed in UTC with `Z` and with the fewest of 0, 3, 6 or
9 fraction digits that lose nothing. Reading is lenient: blanks may stand before every number and
mark, numbers may lack their leading zeros, a year may carry a sign and more digits, and the zone
may be `UTC`, `Z` or hours and minutes with or without a colon.
-/

namespace Arbiter.Stamp

/-! ### Printing -/

/-- Four digits for the years 0 to 9999, otherwise a sign and at least four digits. -/
def yearChars (y : Int) : List Char :=
  if 0 ≤ y ∧ y ≤ 9999 then Numeral.padded 4 y.toNat
  else (if y < 0 then '-' else '+') :: Numeral.padded 4 y.natAbs

/-- The fraction of a second, in thousands groups. -/
def fractionChars (nano : Nat) : List Char :=
  if nano = 0 then []
  else if nano % 1000000 = 0 then '.' :: Numeral.padded 3 (nano / 1000000)
  else if nano % 1000 = 0 then '.' :: Numeral.padded 6 (nano / 1000)
  else '.' :: Numeral.padded 9 nano

/-- The written form in UTC; nanoseconds past the second's end show as second 60. -/
def chars (i : Instant) : List Char :=
  let date := Date.ofDays (i.second / 86400)
  let inDay := (i.second % 86400).toNat
  let leap := i.nano / 1000000000
  yearChars date.year ++ '-' :: Numeral.padded 2 date.month ++ '-' :: Numeral.padded 2 date.day
    ++ 'T' :: Numeral.padded 2 (inDay / 3600) ++ ':' :: Numeral.padded 2 (inDay / 60 % 60)
    ++ ':' :: Numeral.padded 2 (inDay % 60 + leap) ++ fractionChars (i.nano % 1000000000) ++ ['Z']

def text (i : Instant) : String := String.ofList (chars i)

/-! ### Reading -/

abbrev Reader := StateT (List Char) Option

def skipBlanks : Reader Unit := modify (List.dropWhile isBlankChar)

def mark (c : Char) : Reader Unit := do
  match ← get with
  | d :: r => if d = c then set r else failure
  | [] => failure

/-- No part of a time may be greater; numbers that are count as the one after this. -/
def maxPart : Nat := 999999

/-- One to `most` digits. -/
def digits (most : Nat) : Reader Nat := do
  let s ← get
  let ds := (s.take most).takeWhile Numeral.isDigit
  if ds.isEmpty then failure
  set (s.drop ds.length)
  return Numeral.valueUpTo maxPart ds

def number (most : Nat) : Reader Nat := do
  skipBlanks
  digits most

/-- A year: four digits at most, or a sign and any number of digits. -/
def year : Reader Int := do
  skipBlanks
  match ← get with
  | '-' :: r => set r; let n ← digits r.length; return -(n : Int)
  | '+' :: r => set r; return (← digits r.length)
  | _ => return (← digits 4)

def within (low high n : Nat) : Reader Nat := if low ≤ n ∧ n ≤ high then pure n else failure

def date : Reader Date := do
  let y ← year
  skipBlanks; mark '-'
  let m ← within 1 12 (← number 2)
  skipBlanks; mark '-'
  let d ← within 1 31 (← number 2)
  return ⟨y, m, d⟩

/-- Nanoseconds after a point; digits past the ninth are dropped. -/
def fraction : Reader Nat := do
  match ← get with
  | '.' :: r =>
    let ds := r.takeWhile Numeral.isDigit
    if ds.isEmpty then failure
    set (r.drop ds.length)
    let first := ds.take 9
    return Numeral.value (first ++ List.replicate (9 - first.length) '0')
  | _ => return 0

/-- Seconds since midnight and nanoseconds; second 60 is the second before it, run over. -/
def clock : Reader (Nat × Nat) := do
  let h ← within 0 23 (← number 2)
  skipBlanks; mark ':'
  let m ← within 0 59 (← number 2)
  skipBlanks; mark ':'
  let s ← within 0 60 (← number 2)
  let nano ← fraction
  if s = 60 then return (h * 3600 + m * 60 + 59, nano + 1000000000)
  else return (h * 3600 + m * 60 + s, nano)

def twoDigits : Reader Nat := do
  match ← get with
  | a :: b :: r =>
    if Numeral.isDigit a && Numeral.isDigit b then
      set r
      return Numeral.value [a, b]
    else failure
  | _ => failure

/-- Seconds east of UTC. -/
def zone : Reader Int := do
  skipBlanks
  match ← get with
  | c :: r =>
    if (c :: r.take 2).map Char.toLower = ['u', 't', 'c'] then
      set (r.drop 2)
      return 0
    if c = 'Z' ∨ c = 'z' then
      set r
      return 0
    let sign : Int ← if c = '+' then pure 1 else if c = '-' ∨ c = '−' then pure (-1) else failure
    set r
    let hours ← twoDigits
    modify (List.dropWhile fun c => c == ':' || isBlankChar c)
    let minutes ← within 0 59 (← twoDigits)
    return sign * ((hours * 3600 + minutes * 60 : Nat) : Int)
  | [] => failure

/-- The year lies among those that can be written. -/
def inYears (second : Int) : Bool :=
  Instant.leastSecond ≤ second && second ≤ Instant.greatestSecond

def instant : Reader Instant := do
  let d ← date
  match ← get with
  | c :: r => if c = 't' ∨ c = 'T' ∨ c = ' ' then set r else failure
  | [] => failure
  let (inDay, nano) ← clock
  let east ← zone
  skipBlanks
  if !(← get).isEmpty || !d.exists? || east.natAbs ≥ 86400 then failure
  let here := d.toDays * 86400 + inDay
  if !inYears here || !inYears (here - east) then failure
  return ⟨here - east, nano⟩

def read? (s : String) : Option Instant := (instant s.toList).map (·.1)

end Arbiter.Stamp
