import Arbiter.Text.Utf8

/-!
# Percent signs in addresses

A percent sign and two hexadecimal digits stand for a byte; a percent sign that is followed by
anything else stands for itself. A form's query writes names and values this way, with a plus for
a space.
-/

namespace Arbiter.Percent

/-- The value of a hexadecimal digit. -/
def hex? (b : UInt8) : Option Nat :=
  let n := b.toNat
  if 0x30 ≤ n ∧ n ≤ 0x39 then some (n - 0x30)
  else if 0x41 ≤ n ∧ n ≤ 0x46 then some (n - 0x37)
  else if 0x61 ≤ n ∧ n ≤ 0x66 then some (n - 0x57)
  else none

def decode : Bytes → Bytes
  | 0x25 :: a :: b :: r =>
    match hex? a, hex? b with
    | some x, some y => .ofNat (16 * x + y) :: decode r
    | _, _ => 0x25 :: decode (a :: b :: r)
  | c :: r => c :: decode r
  | [] => []

/-- The text of a name or value in a form. -/
def formText (bs : Bytes) : String :=
  Utf8.readLossy (decode (bs.map fun b => if b = 0x2B then 0x20 else b))

/-- The pairs of a form, in order: parts between `&`, empty ones left out, each cut at its first
`=`. -/
def formPairs (bs : Bytes) : List (String × String) :=
  ((bs.splitOn 0x26).filter fun p => !p.isEmpty).map fun p =>
    (formText (p.takeWhile (· != 0x3D)), formText ((p.dropWhile (· != 0x3D)).drop 1))

end Arbiter.Percent
