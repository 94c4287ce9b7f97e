import Arbiter.Text.CodeRange

/-!
# White space

The characters of the Unicode property White_Space, and texts that hold nothing else.
-/

namespace Arbiter

/-- The property White_Space, as ranges of code points. -/
def blankRanges : CodeRanges :=
  [(0x09, 0x0D), (0x20, 0x20), (0x85, 0x85), (0xA0, 0xA0), (0x1680, 0x1680), (0x2000, 0x200A),
    (0x2028, 0x2029), (0x202F, 0x202F), (0x205F, 0x205F), (0x3000, 0x3000)]

def isBlankChar (c : Char) : Bool := blankRanges.holds c

/-- Nothing but white space, or nothing at all. -/
def isBlankText (s : String) : Bool := s.toList.all isBlankChar

end Arbiter
