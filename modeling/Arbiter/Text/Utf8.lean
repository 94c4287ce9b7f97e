/-!
# Text as bytes

The bytes of a text, and two readings of bytes: `read?` takes well-formed text only, `readLossy`
puts the replacement character for every broken sequence. Both run one machine over the bytes:
between characters, or inside one with the range of the next byte and the bits so far.
-/

namespace Arbiter

abbrev Bytes := List UInt8

namespace Utf8

/-- The bytes of a character. -/
def encodeChar (c : Char) : Bytes :=
  let n := c.toNat
  if n < 0x80 then [.ofNat n]
  else if n < 0x800 then [.ofNat (0xC0 + n / 64), .ofNat (0x80 + n % 64)]
  else if n < 0x10000 then
    [.ofNat (0xE0 + n / 4096), .ofNat (0x80 + n / 64 % 64), .ofNat (0x80 + n % 64)]
  else
    [.ofNat (0xF0 + n / 262144), .ofNat (0x80 + n / 4096 % 64), .ofNat (0x80 + n / 64 % 64),
      .ofNat (0x80 + n % 64)]

def encodeChars (cs : List Char) : Bytes := cs.flatMap encodeChar

/-- The bytes of a text. -/
def encode (s : String) : Bytes := encodeChars s.toList

/-- The inside of a character: how many bytes are still owed, the range of the next one, and the
bits read so far. -/
structure Inside where
  owed : Nat
  low : Nat
  high : Nat
  bits : Nat
  deriving DecidableEq, Repr

/-- What a byte between characters begins. -/
inductive Lead where
  | char (c : Char)
  | inside (i : Inside)
  | broken

def lead (b : Nat) : Lead :=
  if b < 0x80 then .char (.ofNat b)
  else if b < 0xC2 then .broken
  else if b < 0xE0 then .inside ⟨1, 0x80, 0xBF, b - 0xC0⟩
  else if b = 0xE0 then .inside ⟨2, 0xA0, 0xBF, 0⟩
  else if b = 0xED then .inside ⟨2, 0x80, 0x9F, 0xD⟩
  else if b < 0xF0 then .inside ⟨2, 0x80, 0xBF, b - 0xE0⟩
  else if b = 0xF0 then .inside ⟨3, 0x90, 0xBF, 0⟩
  else if b < 0xF4 then .inside ⟨3, 0x80, 0xBF, b - 0xF0⟩
  else if b = 0xF4 then .inside ⟨3, 0x80, 0x8F, 4⟩
  else .broken

/-- What follows when byte `b` comes inside a character; a byte out of range breaks it. -/
def Inside.feed (i : Inside) (b : Nat) : Lead :=
  if i.low ≤ b ∧ b ≤ i.high then
    let bits := i.bits * 64 + (b - 0x80)
    if i.owed ≤ 1 then .char (.ofNat bits) else .inside ⟨i.owed - 1, 0x80, 0xBF, bits⟩
  else .broken

/-- Reads on from between characters (`none`) or inside one; `acc` holds the characters so far,
last first. -/
def readOnto (acc : List Char) : Option Inside → Bytes → Option (List Char)
  | none, [] => some acc.reverse
  | some _, [] => none
  | none, b :: r =>
    match lead b.toNat with
    | .char c => readOnto (c :: acc) none r
    | .inside i => readOnto acc (some i) r
    | .broken => none
  | some i, b :: r =>
    match i.feed b.toNat with
    | .char c => readOnto (c :: acc) none r
    | .inside i => readOnto acc (some i) r
    | .broken => none

/-- The characters of well-formed bytes. -/
def readChars? (bs : Bytes) : Option (List Char) := readOnto [] none bs

/-- The text of well-formed bytes. -/
def read? (bs : Bytes) : Option String := (readChars? bs).map String.ofList

/-- Stands where bytes were broken. -/
def replacement : Char := '\uFFFD'

/-- Reads on, with one `replacement` for each longest broken sequence; the byte that breaks a
character is read again as the first of the next. -/
def readLossyOnto (acc : List Char) : Option Inside → Bytes → List Char
  | none, [] => acc.reverse
  | some _, [] => (replacement :: acc).reverse
  | none, b :: r =>
    match lead b.toNat with
    | .char c => readLossyOnto (c :: acc) none r
    | .inside i => readLossyOnto acc (some i) r
    | .broken => readLossyOnto (replacement :: acc) none r
  | some i, b :: r =>
    match i.feed b.toNat with
    | .char c => readLossyOnto (c :: acc) none r
    | .inside i => readLossyOnto acc (some i) r
    | .broken =>
      match lead b.toNat with
      | .char c => readLossyOnto (c :: replacement :: acc) none r
      | .inside i => readLossyOnto (replacement :: acc) (some i) r
      | .broken => readLossyOnto (replacement :: replacement :: acc) none r

/-- The text of any bytes, broken sequences replaced. -/
def readLossy (bs : Bytes) : String := String.ofList (readLossyOnto [] none bs)

@[simp] theorem encodeChars_nil : encodeChars [] = [] := rfl

@[simp] theorem encodeChars_cons (c : Char) (cs : List Char) :
    encodeChars (c :: cs) = encodeChar c ++ encodeChars cs := rfl

theorem encodeChars_append (cs ds : List Char) :
    encodeChars (cs ++ ds) = encodeChars cs ++ encodeChars ds := by
  simp [encodeChars]

end Utf8

end Arbiter
