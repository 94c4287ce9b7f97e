import Arbiter.Text.Utf8

/-!
# Unpadded base64, the alphabet for addresses

Six bits a character, four characters for three bytes. Reading refuses padding, other characters,
a lone last character, and bits set beyond the last byte; so each byte string has one written form.
-/

namespace Arbiter.Base64Url

def alphabet : List Char :=
  "ABCDEFGHIJKLMNOPQRSTUVWXYZabcdefghijklmnopqrstuvwxyz0123456789-_".toList

def digit (n : Nat) : Char := alphabet.getD n 'A'

/-- The six bits of a character. -/
def bits? (c : Char) : Option Nat := alphabet.findIdx? (· == c)

def encode : Bytes → List Char
  | [] => []
  | [a] => [digit (a.toNat / 4), digit (a.toNat % 4 * 16)]
  | [a, b] =>
    [digit (a.toNat / 4), digit (a.toNat % 4 * 16 + b.toNat / 16), digit (b.toNat % 16 * 4)]
  | a :: b :: c :: r =>
    digit (a.toNat / 4) :: digit (a.toNat % 4 * 16 + b.toNat / 16) ::
      digit (b.toNat % 16 * 4 + c.toNat / 64) :: digit (c.toNat % 64) :: encode r

/-- Three bytes or fewer from four characters or fewer. -/
def decodeGroup? : List Nat → Option Bytes
  | [] => some []
  | [x, y] => if y % 16 = 0 then some [.ofNat (x * 4 + y / 16)] else none
  | [x, y, z] =>
    if z % 4 = 0 then some [.ofNat (x * 4 + y / 16), .ofNat (y % 16 * 16 + z / 4)] else none
  | [x, y, z, w] =>
    some [.ofNat (x * 4 + y / 16), .ofNat (y % 16 * 16 + z / 4), .ofNat (z % 4 * 64 + w)]
  | _ => none

/-- Reads on group by group; `acc` holds the bytes so far, last first. -/
def decodeOnto (acc : Bytes) : List Nat → Option Bytes
  | x :: y :: z :: w :: r => do
    let g ← decodeGroup? [x, y, z, w]
    decodeOnto (g.reverse ++ acc) r
  | last => (decodeGroup? last).map fun g => acc.reverse ++ g

def decode? (cs : List Char) : Option Bytes := do
  decodeOnto [] (← cs.mapM bits?)

end Arbiter.Base64Url
