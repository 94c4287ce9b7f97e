import Arbiter.Json.Decoder
import Arbiter.Json.Number
import Arbiter.Json.Value
import Mathlib.Tactic.Lemma

/-!
JSON texts as they are laid out: which blanks stand between the parts, how each character of a
string is spelled, what a number looks like, and what stands in arrays and objects (`Layout`). Every
layout is a text of the grammar, and every text of the grammar is the text of a layout, so what is
said of all layouts is said of all well-formed texts. A layout writes a number, a text or null if it
spells it in one of the ways there are (`Layout.Writes`), and an object fills the members of a
record if its members of those names write them, once each, and only null ones are left out
(`Fills`).
-/

namespace Arbiter

open Decoder (isBlank isDigit)

/-- Blanks between the parts of a text. -/
abbrev Blanks := { w : Bytes // w.all isBlank = true }

/-- No blanks. -/
def Blanks.none : Blanks := ⟨[], rfl⟩

/-- One or more digits. -/
abbrev Digits := { ds : Bytes // ds ≠ [] ∧ ds.all isDigit = true }

/-- A part of a string's inside. -/
inductive Piece where
  /-- A character as it is. -/
  | plain (c : Char) (h : 0x20 ≤ c.toNat ∧ c ≠ '"' ∧ c ≠ '\\')
  /-- A backslash and a letter that stands for a character. -/
  | short (e b : UInt8) (h : Decoder.shortEscape e = some b)
  /-- A backslash, a `u` and four hexadecimal digits. -/
  | unit (a b c d : UInt8) (n : Nat) (h : Decoder.hex4 a b c d = some n)

namespace Piece

def bytes : Piece → Bytes
  | plain c _ => Utf8.encodeChar c
  | short e _ _ => [0x5C, e]
  | unit a b c d _ _ => [0x5C, 0x75, a, b, c, d]

/-- The inside of a string. -/
def inside (ps : List Piece) : Bytes := ps.flatMap bytes

/-- The text that the inside of a string spells. Surrogates come in pairs, a leading one before a
trailing one, and stand for one character; alone they spell nothing. -/
def text? : List Piece → Option (List Char)
  | [] => some []
  | plain c _ :: ps => (text? ps).map (c :: ·)
  | short _ b _ :: ps => (text? ps).map (Char.ofNat b.toNat :: ·)
  | unit _ _ _ _ n _ :: ps =>
    if Decoder.isTrailSurrogate n then none
    else if Decoder.isLeadSurrogate n then
      match ps with
      | unit _ _ _ _ m _ :: ps =>
        if Decoder.isTrailSurrogate m then (text? ps).map (Decoder.joinSurrogates n m :: ·)
        else none
      | _ => none
    else (text? ps).map (Char.ofNat n :: ·)

end Piece

/-- The power of ten that ends a number. -/
structure Power where
  isCapital : Bool
  /-- Whether the sign is a minus; none without one. -/
  sign : Option Bool
  digits : Digits

def Power.bytes (p : Power) : Bytes :=
  (if p.isCapital then 0x45 else 0x65) ::
    ((match p.sign with
      | none => []
      | some false => [0x2B]
      | some true => [0x2D]) ++ p.digits.1)

/-- A number as it is written. -/
structure Figure where
  isNegative : Bool
  whole : Digits
  /-- No zero leads other digits. -/
  proper : whole.1.head? = some 0x30 → whole.1.length = 1
  decimals : Option Digits
  power : Option Power

namespace Figure

def decimalBytes (f : Figure) : Bytes :=
  match f.decimals with
  | none => []
  | some ds => 0x2E :: ds.1

def powerBytes (f : Figure) : Bytes :=
  match f.power with
  | none => []
  | some p => p.bytes

/-- What comes after the whole digits. -/
def tail (f : Figure) : Bytes := f.decimalBytes ++ f.powerBytes

def bytes (f : Figure) : Bytes :=
  (if f.isNegative then [0x2D] else []) ++ (f.whole.1 ++ f.tail)

end Figure

/-- What stands before an item: blanks, a comma unless it is the first one, and blanks. -/
structure Gap where
  before : Blanks
  after : Blanks

def Gap.bytes (g : Gap) (first : Bool) : Bytes :=
  g.before.1 ++ ((if first then [] else [0x2C]) ++ g.after.1)

/-- The name of a member, with what stands around it. -/
structure Key where
  gap : Gap
  pieces : List Piece
  /-- Blanks before the colon. -/
  inner : Blanks
  /-- Blanks after the colon. -/
  outer : Blanks

namespace Key

/-- The text that the name spells. -/
def name? (k : Key) : Option String := (Piece.text? k.pieces).map String.ofList

/-- What comes after the quote that opens the name. -/
def rest (k : Key) : Bytes :=
  Piece.inside k.pieces ++ 0x22 :: (k.inner.1 ++ 0x3A :: k.outer.1)

def bytes (k : Key) (first : Bool) : Bytes := k.gap.bytes first ++ 0x22 :: k.rest

end Key

/-- A JSON value as it is laid out in a text. -/
inductive Layout where
  | null
  | bool (b : Bool)
  | number (f : Figure)
  | string (ps : List Piece)
  /-- Items, and the blanks before the bracket that closes them. -/
  | array (items : List (Gap × Layout)) (last : Blanks)
  /-- Members, and the blanks before the brace that closes them. -/
  | object (members : List (Key × Layout)) (last : Blanks)

namespace Layout

mutual

def bytes : Layout → Bytes
  | .null => [0x6E, 0x75, 0x6C, 0x6C]
  | .bool true => [0x74, 0x72, 0x75, 0x65]
  | .bool false => [0x66, 0x61, 0x6C, 0x73, 0x65]
  | .number f => f.bytes
  | .string ps => 0x22 :: (Piece.inside ps ++ [0x22])
  | .array items last => 0x5B :: (itemBytes true items ++ (last.1 ++ [0x5D]))
  | .object members last => 0x7B :: (memberBytes true members ++ (last.1 ++ [0x7D]))

def itemBytes : Bool → List (Gap × Layout) → Bytes
  | _, [] => []
  | first, (g, v) :: rest => g.bytes first ++ (bytes v ++ itemBytes false rest)

def memberBytes : Bool → List (Key × Layout) → Bytes
  | _, [] => []
  | first, (k, v) :: rest => k.bytes first ++ (bytes v ++ memberBytes false rest)

end

/-- The layout spells the number in decimal, the text in some way, or null. -/
inductive Writes : Layout → Json → Prop
  | null : Writes .null .null
  | int {f : Figure} {n : Int} (h : f.bytes = Utf8.encodeChars (Numeral.ofInt n)) :
      Writes (.number f) (.int n)
  | str {ps : List Piece} {s : String} (h : Piece.text? ps = some s.toList) :
      Writes (.string ps) (.str s)

end Layout

/-- The members of an object. -/
def Json.members : Json → List (String × Json)
  | .obj ms => ms
  | _ => []

/-- The names of an object's members, in the order of the text. -/
def namesIn (members : List (Key × Layout)) : List String := members.filterMap fun m => m.1.name?

/-- The members of an object fill the fields of a record: the ones of the fields' names write them,
in any order and once each, and only fields that are null are left out. There may be others, as long
as their names are texts. -/
structure Fills (fields : List (String × Json)) (members : List (Key × Layout)) : Prop where
  named : ∀ m ∈ members, ∃ name, m.1.name? = some name
  once : ∀ f ∈ fields, (namesIn members).count f.1 ≤ 1
  writes : ∀ m ∈ members, ∀ f ∈ fields, m.1.name? = some f.1 → m.2.Writes f.2
  given : ∀ f ∈ fields, f.2 ≠ .null → f.1 ∈ namesIn members

end Arbiter
