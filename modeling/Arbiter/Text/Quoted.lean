import Arbiter.Text.Extending
import Arbiter.Text.Graphic

/-!
# Quoted texts

A text between quotes, for messages that must show every character of it: those that a reader could
not see, or would see as a part of another, are written by number.
-/

namespace Arbiter.Quoted

/-- Letters that fill the place of a part of a syllable and show nothing. -/
def fillers : CodeRanges := [(0x115F, 0x1160), (0x3164, 0x3164), (0xFFA0, 0xFFA0)]

/-- The character is seen, and by itself. -/
def showsAlone (c : Char) : Bool :=
  c = ' ' || (isGraphic c && !isExtending c && !fillers.holds c)

/-- A character inside quotes. -/
def escapeChar (c : Char) : List Char :=
  if c = '"' then ['\\', '"']
  else if c = '\\' then ['\\', '\\']
  else if c = '\n' then ['\\', 'n']
  else if c = '\r' then ['\\', 'r']
  else if c = '\t' then ['\\', 't']
  else if c.toNat = 0 then ['\\', '0']
  else if showsAlone c then [c]
  else ['\\', 'u', '\x7b'] ++ Nat.toDigits 16 c.toNat ++ ['\x7d']

def encode (s : String) : String := String.ofList ('"' :: s.toList.flatMap escapeChar ++ ['"'])

end Arbiter.Quoted
