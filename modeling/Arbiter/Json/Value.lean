import Arbiter.Text.Numeral
import Arbiter.Text.Utf8

/-!
# JSON values and their compact text

A value as data, and its text without blanks: members in the order they are given, and in strings a
backslash before quotes and backslashes, short escapes for the common control characters, four
hexadecimal digits for the others, and every other character as it is.
-/

namespace Arbiter

/-- A JSON value. A number that is no whole number of 64 bits is kept as
`mantissa · 10 ^ exponent`. -/
inductive Json where
  | null
  | bool (b : Bool)
  | int (n : Int)
  | real (mantissa exponent : Int)
  | str (s : String)
  | arr (items : List Json)
  | obj (members : List (String × Json))
  deriving Inhabited, Repr

namespace Json

def hexDigit (n : Nat) : Char := if n < 10 then .ofNat (0x30 + n) else .ofNat (0x57 + n)

/-- A character inside a string. -/
def escapeChar (c : Char) : List Char :=
  if c = '"' then ['\\', '"']
  else if c = '\\' then ['\\', '\\']
  else if c.toNat = 0x08 then ['\\', 'b']
  else if c.toNat = 0x09 then ['\\', 't']
  else if c.toNat = 0x0A then ['\\', 'n']
  else if c.toNat = 0x0C then ['\\', 'f']
  else if c.toNat = 0x0D then ['\\', 'r']
  else if c.toNat < 0x20 then
    ['\\', 'u', '0', '0', hexDigit (c.toNat / 16), hexDigit (c.toNat % 16)]
  else [c]

def quoted (s : String) : List Char := '"' :: s.toList.flatMap escapeChar ++ ['"']

/-- Characters between marks, commas between the parts. -/
def enclosed (opening closing : Char) (parts : List (List Char)) : List Char :=
  opening :: (List.intersperse [','] parts).flatten ++ [closing]

mutual

/-- The compact text of a value. -/
def chars : Json → List Char
  | .null => ['n', 'u', 'l', 'l']
  | .bool true => ['t', 'r', 'u', 'e']
  | .bool false => ['f', 'a', 'l', 's', 'e']
  | .int n => Numeral.ofInt n
  | .real m e => Numeral.ofInt m ++ 'e' :: Numeral.ofInt e
  | .str s => quoted s
  | .arr items => enclosed '[' ']' (itemChars items)
  | .obj members => enclosed '\x7b' '\x7d' (memberChars members)

def itemChars : List Json → List (List Char)
  | [] => []
  | v :: vs => chars v :: itemChars vs

def memberChars : List (String × Json) → List (List Char)
  | [] => []
  | (k, v) :: ms => (quoted k ++ ':' :: chars v) :: memberChars ms

end

def text (v : Json) : String := String.ofList v.chars

/-- The text as it is sent. -/
def bytes (v : Json) : Bytes := Utf8.encodeChars v.chars

/-- The value of the first member of a name. -/
def member? (name : String) : Json → Option Json
  | .obj members => (members.find? fun m => m.1 == name).map (·.2)
  | _ => none

/-- A value that may be absent; absence is written as null. -/
def ofOption {α : Type} (f : α → Json) : Option α → Json
  | none => .null
  | some a => f a

def ofInt32 (n : Int32) : Json := .int n.toInt
def ofInt64 (n : Int64) : Json := .int n.toInt
def ofUInt32 (n : UInt32) : Json := .int n.toNat

end Json

end Arbiter
