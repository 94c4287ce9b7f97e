/-!
# Ranges of code points

A property of characters as the ranges of code points that have it. The ranges ascend, so that a
character is looked for only up to the first range past it.
-/

namespace Arbiter

/-- The first and the last code point of each range. -/
abbrev CodeRanges := List (Nat × Nat)

namespace CodeRanges

/-- The character is in one of the ranges. -/
def holds (c : Char) : CodeRanges → Bool
  | [] => false
  | (low, high) :: rest => low ≤ c.toNat && (c.toNat ≤ high || holds c rest)

end CodeRanges

end Arbiter
