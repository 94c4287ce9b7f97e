/-!
# Decimal numerals

Whole numbers written in decimal, and texts read as whole numbers of a given range: a sign, where
the range allows it, then digits and nothing else.
-/

namespace Arbiter

/-- A range of whole numbers, ends included. -/
structure Span where
  least : Int
  greatest : Int
  deriving DecidableEq, Repr

namespace Span

def int32 : Span := ⟨-2147483648, 2147483647⟩
def int64 : Span := ⟨-9223372036854775808, 9223372036854775807⟩
def uint16 : Span := ⟨0, 65535⟩
def uint32 : Span := ⟨0, 4294967295⟩
def uint64 : Span := ⟨0, 18446744073709551615⟩

def holds (r : Span) (n : Int) : Bool := r.least ≤ n && n ≤ r.greatest

/-- The greatest magnitude in the range. -/
def bound (r : Span) : Nat := max r.least.natAbs r.greatest.natAbs

end Span

namespace Numeral

def digitChar (d : Nat) : Char := .ofNat (0x30 + d)

def isDigit (c : Char) : Bool := '0' ≤ c && c ≤ '9'

/-- The digits of a number, without leading zeros. -/
def ofNat (n : Nat) : List Char :=
  if n < 10 then [digitChar n] else ofNat (n / 10) ++ [digitChar (n % 10)]

def ofInt : Int → List Char
  | .ofNat n => ofNat n
  | .negSucc n => '-' :: ofNat (n + 1)

def text (n : Int) : String := String.ofList (ofInt n)

/-- The digits of a number, with leading zeros up to a width. -/
def padded (width n : Nat) : List Char :=
  let ds := ofNat n
  List.replicate (width - ds.length) '0' ++ ds

/-- The number that digits write. -/
def value (ds : List Char) : Nat := ds.foldl (fun n c => 10 * n + (c.toNat - 0x30)) 0

/-- The number that digits write, or the one after `limit` when they write more than that. -/
def valueUpTo (limit : Nat) (ds : List Char) : Nat :=
  ds.foldl (fun n c => min (limit + 1) (10 * n + (c.toNat - 0x30))) 0

/-- The number of one or more digits, up to the one after `limit`. -/
def readDigits? (limit : Nat) (ds : List Char) : Option Nat :=
  if ds.isEmpty || !ds.all isDigit then none else some (valueUpTo limit ds)

/-- A whole number of a range: digits after at most one sign, a minus only where the range has
negative numbers. -/
def read? (range : Span) (s : String) : Option Int :=
  let digits? := readDigits? range.bound
  let n? : Option Int :=
    match s.toList with
    | '+' :: ds => (digits? ds).map Int.ofNat
    | '-' :: ds => if range.least < 0 then (digits? ds).map fun n => -(n : Int) else none
    | ds => (digits? ds).map Int.ofNat
  n?.filter range.holds

/-! ### Reading what is written -/

theorem toNat_digitChar : ∀ d < 10, (digitChar d).toNat = 0x30 + d := by decide

theorem isDigit_digitChar : ∀ d < 10, isDigit (digitChar d) = true := by decide

theorem value_append (ds : List Char) (c : Char) :
    value (ds ++ [c]) = 10 * value ds + (c.toNat - 0x30) := by
  simp [value]

theorem value_ofNat (n : Nat) : value (ofNat n) = n := by
  induction n using Nat.strongRecOn with
  | ind n ih =>
    rw [ofNat]
    split
    · rename_i h
      simp [value, toNat_digitChar n h]
    · rw [value_append, ih (n / 10) (by omega), toNat_digitChar (n % 10) (by omega)]
      omega

theorem all_isDigit_ofNat (n : Nat) : (ofNat n).all isDigit = true := by
  induction n using Nat.strongRecOn with
  | ind n ih =>
    rw [ofNat]
    split
    · rename_i h
      simp [isDigit_digitChar n h]
    · simp only [List.all_append, ih (n / 10) (by omega), List.all_cons, List.all_nil,
        isDigit_digitChar (n % 10) (by omega), Bool.and_self]

theorem ofNat_ne_nil (n : Nat) : ofNat n ≠ [] := by
  rw [ofNat]
  split <;> simp

end Numeral

end Arbiter
