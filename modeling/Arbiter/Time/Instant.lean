import Arbiter.Time.Calendar

/-!
# Instants

Points in time as whole seconds from 1970-01-01T00:00:00Z and nanoseconds within the second, which
run to two seconds in a leap second. Instants are compared second first.
-/

namespace Arbiter

structure Instant where
  second : Int
  nano : Nat
  deriving DecidableEq, Repr, Inhabited

namespace Instant

/-- The earlier of two instants comes first. -/
def before (a b : Instant) : Bool :=
  a.second < b.second || (a.second == b.second && a.nano < b.nano)

def atMost (a b : Instant) : Bool := !b.before a

/-- First second of the first year that can be written. -/
def leastSecond : Int := (Date.toDays ⟨-262143, 1, 1⟩) * 86400

/-- Last second of the last year that can be written. -/
def greatestSecond : Int := (Date.toDays ⟨262142, 12, 31⟩) * 86400 + 86399

def earliest : Instant := ⟨leastSecond, 0⟩

/-- The instant some seconds earlier, or the earliest one where that lies before all dates. -/
def minusSeconds (i : Instant) (seconds : Nat) : Instant :=
  if i.second - seconds < leastSecond then earliest else ⟨i.second - seconds, i.nano⟩

theorem before_irrefl (a : Instant) : a.before a = false := by
  simp [before]

theorem before_trans {a b c : Instant} (hab : a.before b = true) (hbc : b.before c = true) :
    a.before c = true := by
  simp only [before, Bool.or_eq_true, decide_eq_true_eq, Bool.and_eq_true, beq_iff_eq] at *
  omega

/-- Of two instants one is earlier, or they are the same. -/
theorem before_or_eq_or_before (a b : Instant) :
    a.before b = true ∨ a = b ∨ b.before a = true := by
  obtain ⟨s, n⟩ := a
  obtain ⟨t, m⟩ := b
  simp only [before, Bool.or_eq_true, decide_eq_true_eq, Bool.and_eq_true, beq_iff_eq,
    Instant.mk.injEq]
  omega

end Instant

end Arbiter
