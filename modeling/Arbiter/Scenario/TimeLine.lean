/-!
# Time lines

Tasks on a line of milliseconds: those that are ready, in the order in which they go on, and those
that sleep, each until a time. When time moves on, the tasks whose time has come get ready in the
order in which they fell asleep, and whoever is left sleeps on.
-/

namespace Arbiter

/-- A task that sleeps until a time. -/
structure Sleeper (α : Type) where
  wake : Nat
  task : α

structure TimeLine (α : Type) where
  /-- Milliseconds since the start. -/
  now : Nat
  ready : List α
  /-- In the order in which they fell asleep. -/
  sleepers : List (Sleeper α)

namespace TimeLine

variable {α : Type} (l : TimeLine α)

/-- No task, at the start. -/
def empty : TimeLine α := ⟨0, [], []⟩

/-- The longest sleep: thirty years. -/
def longestSleep : Nat := 946080000000

/-- When a sleep that begins now is over; one that is too long is cut. -/
def endOf (milliseconds : Nat) : Nat := l.now + min milliseconds longestSleep

/-- A new task, which goes on after all that are ready. -/
def spawn (a : α) : TimeLine α := { l with ready := l.ready ++ [a] }

/-- A task falls asleep. -/
def sleep (milliseconds : Nat) (a : α) : TimeLine α :=
  { l with sleepers := l.sleepers ++ [⟨l.endOf milliseconds, a⟩] }

/-- The first time at which a task wakes, or `limit` if none wakes before it. -/
def nextTime (limit : Nat) : Nat := (l.sleepers.map (·.wake)).foldl min limit

/-- Moves on to a time. -/
def moveTo (time : Nat) : TimeLine α :=
  let (due, asleep) := l.sleepers.partition fun s => s.wake ≤ time
  ⟨time, l.ready ++ due.map (·.task), asleep⟩

end TimeLine

end Arbiter
