import Arbiter.Proofs.Session.Work
import Mathlib.Tactic.Lemma

/-!
Sessions: one store, and tasks at work on it that take turns in any order. A turn is one call: it
is answered by the store as the store is at that moment, or fails without effect, or is answered
by others as they like; between two calls of one task the others may have any number of turns.
What was asked and answered in a run is its trace.
-/

namespace Arbiter

/-- A duty that was taken on, and what is left of its work. -/
structure Task where
  duty : Duty
  rest : Work Ended

namespace Task

/-- What the task comes to, once nothing is left of it. -/
def ended? (t : Task) : Option Ended :=
  match t.rest with
  | .done e => some e
  | .ask _ _ => none

end Task

/-- A task's turn: its time, the failure of a store call that fails, and the answers of others. -/
structure Turn where
  task : Nat
  now : Instant
  fault : Option Failure
  told : (c : OuterCall) → c.Answer

/-- The answer to a call in this turn, and the store after it. -/
def Turn.answer (t : Turn) (s : Store) : (op : WorkCall) → WorkInterface.Answer op × Store
  | .store c =>
    match t.fault with
    | some f => (.error f, s)
    | none => s.run t.now c
  | .outer c => (t.told c, s)

lemma Turn.answer_store {t : Turn} (hf : t.fault = none) (s : Store) (c : StoreCall) :
    t.answer s (.store c) = s.run t.now c := by
  unfold answer
  rw [hf]

/-- A step of a session. Users and problems are put in by others than the service. -/
inductive Move where
  | start (d : Duty)
  | turn (t : Turn)
  | insertUser (u : User)
  | insertProblem (p : Problem)

namespace Move

/-- The move does not put in the problem. -/
def spares (p : ProblemId) : Move → Bool
  | insertProblem q => q.id != p
  | _ => true

lemma ne_of_spares {p : ProblemId} {q : Problem} (h : (insertProblem q).spares p = true) :
    p ≠ q.id := by
  rintro rfl
  simp [spares] at h

/-- No call to the store fails in the move. -/
def isSmooth : Move → Bool
  | turn t => t.fault.isNone
  | _ => true

/-- The move does not take on a discard. -/
def beginsNoDiscard : Move → Bool
  | start (.discard _) => false
  | _ => true

end Move

/-- A call, with its answer and the duty that it was made for. -/
structure Event where
  duty : Duty
  call : WorkCall
  answer : WorkInterface.Answer call

namespace Event

/-- The submission that was stored by the call. -/
def created? : Event → Option Submission
  | ⟨_, .store (.create _), .ok x⟩ => some x
  | _ => none

/-- A submit to a problem could not hand its job over, and found its submission judged when it was
to take it back. -/
def isRefusedRollback (p : ProblemId) : Event → Bool
  | ⟨.submit _ q _ _, .store (.discard _), .ok false⟩ => q == p
  | _ => false

end Event

structure Session where
  store : Store
  tasks : List Task

namespace Session

/-- A session in which nothing was taken on yet. -/
def opened (s : Store) : Session := ⟨s, []⟩

/-- A session in which some duties were taken on and had no turn yet. -/
def withDuties (s : Store) (ds : List Duty) : Session := ⟨s, ds.map fun d => ⟨d, d.work⟩⟩

/-- Gives a task a turn, if something is left of it. -/
def take (s : Session) (t : Turn) : Session :=
  match s.tasks[t.task]? with
  | some ⟨duty, .ask op next⟩ =>
    ⟨(t.answer s.store op).2, s.tasks.set t.task ⟨duty, next (t.answer s.store op).1⟩⟩
  | _ => s

def step (s : Session) : Move → Session
  | .start d => { s with tasks := s.tasks ++ [⟨d, d.work⟩] }
  | .turn t => s.take t
  | .insertUser u => { s with store := s.store.insertUser u }
  | .insertProblem p => { s with store := s.store.insertProblem p }

/-- The session after some moves. -/
def after (s : Session) (ms : List Move) : Session := ms.foldl step s

/-- What is asked and answered in a turn. -/
def heard? (s : Session) (t : Turn) : Option Event :=
  match s.tasks[t.task]? with
  | some ⟨duty, .ask op _⟩ => some ⟨duty, op, (t.answer s.store op).1⟩
  | _ => none

/-- What is asked and answered in a move. -/
def event? (s : Session) : Move → Option Event
  | .turn t => s.heard? t
  | _ => none

/-- What is asked and answered in a run. -/
def trace : Session → List Move → List Event
  | _, [] => []
  | s, m :: ms => (s.event? m).toList ++ trace (s.step m) ms

/-- Something holds of the store at every moment of a run, the first and the last included. -/
def Throughout (P : Store → Prop) : Session → List Move → Prop
  | s, [] => P s.store
  | s, m :: ms => P s.store ∧ Throughout P (s.step m) ms

@[simp] theorem after_nil (s : Session) : s.after [] = s := rfl

@[simp] theorem after_cons (s : Session) (m : Move) (ms : List Move) :
    s.after (m :: ms) = (s.step m).after ms := rfl

theorem after_append (s : Session) (ms ns : List Move) :
    s.after (ms ++ ns) = (s.after ms).after ns :=
  List.foldl_append

theorem Throughout.head {P : Store → Prop} {s : Session} {ms : List Move}
    (h : s.Throughout P ms) : P s.store := by
  cases ms with
  | nil => exact h
  | cons m ms => exact h.1

theorem throughout_append {P : Store → Prop} {s : Session} {ms ns : List Move} :
    s.Throughout P (ms ++ ns) ↔ s.Throughout P ms ∧ (s.after ms).Throughout P ns := by
  induction ms generalizing s with
  | nil => exact ⟨fun h => ⟨h.head, h⟩, fun h => h.2⟩
  | cons m ms ih =>
    show _ ∧ (s.step m).Throughout P (ms ++ ns) ↔ (_ ∧ _) ∧ _
    rw [ih, and_assoc]
    rfl

instance decidableThroughout {P : Store → Prop} [DecidablePred P] :
    ∀ (s : Session) (ms : List Move), Decidable (s.Throughout P ms)
  | s, [] => inferInstanceAs (Decidable (P s.store))
  | s, m :: ms =>
    have := decidableThroughout (P := P) (s.step m) ms
    inferInstanceAs (Decidable (P s.store ∧ (s.step m).Throughout P ms))

lemma take_of_ask {s : Session} {t : Turn} {d : Duty} {op : WorkCall}
    {next : WorkInterface.Answer op → Work Ended} (h : s.tasks[t.task]? = some ⟨d, .ask op next⟩) :
    s.take t = ⟨(t.answer s.store op).2,
      s.tasks.set t.task ⟨d, next (t.answer s.store op).1⟩⟩ := by
  unfold take
  rw [h]

lemma take_of_done {s : Session} {t : Turn} {d : Duty} {e : Ended}
    (h : s.tasks[t.task]? = some ⟨d, .done e⟩) : s.take t = s := by
  unfold take
  rw [h]

lemma take_of_none {s : Session} {t : Turn} (h : s.tasks[t.task]? = none) : s.take t = s := by
  unfold take
  rw [h]

/-- **What one turn does**: nothing, or one call of one task. -/
theorem take_cases (s : Session) (t : Turn) :
    s.take t = s ∧ s.heard? t = none ∨
      ∃ duty op next, s.tasks[t.task]? = some ⟨duty, .ask op next⟩ ∧
        s.take t = ⟨(t.answer s.store op).2,
          s.tasks.set t.task ⟨duty, next (t.answer s.store op).1⟩⟩ ∧
        s.heard? t = some ⟨duty, op, (t.answer s.store op).1⟩ := by
  unfold heard?
  rcases h : s.tasks[t.task]? with _ | ⟨duty, _ | ⟨op, next⟩⟩
  · exact .inl ⟨take_of_none h, rfl⟩
  · exact .inl ⟨take_of_done h, rfl⟩
  · exact .inr ⟨duty, op, next, rfl, take_of_ask h, rfl⟩

/-! ### A small session -/

/-- A store with one user and one problem, and no submissions. -/
def smallStore : Store :=
  (Store.empty.insertUser ⟨1, .user, .normal⟩).insertProblem
    ⟨10, .everyone, 1, 1000, 256, .passFail, 100, 0, 0⟩

/-- A task's turn in which nothing fails and jobs are handed over. -/
def smoothTurn (task : Nat) : Turn :=
  ⟨task, ⟨0, 0⟩, none, fun
    | .enqueue _ => .ok ()
    | .command _ => .error ""
    | .pause _ => ()
    | .now => ⟨0, 0⟩
    | .stopping => true⟩

/-- A report that the first submission is accepted. -/
def firstAccepted : Outcome := ⟨1, .accepted, none, none, none, none, some ""⟩

/-- A submit that has seen its account and its problem. -/
def submitMoves : List Move :=
  [.start (.submit ⟨1, .user⟩ 10 "lean" "example"), .turn (smoothTurn 0), .turn (smoothTurn 0)]

/-- The first submission is accepted, by the second task. -/
def judgeMoves : List Move :=
  [.start (.apply reportedScore firstAccepted), .turn (smoothTurn 1), .turn (smoothTurn 1),
    .turn (smoothTurn 1)]

/-- A task's turn in which nothing fails, and jobs are refused. -/
def refusingTurn (task : Nat) : Turn :=
  ⟨task, ⟨0, 0⟩, none, fun
    | .enqueue _ => .error (.unavailable "")
    | .command _ => .error ""
    | .pause _ => ()
    | .now => ⟨0, 0⟩
    | .stopping => true⟩

/-- A submission is accepted before its job is said to be refused. -/
def refusedMoves : List Move :=
  submitMoves ++ .turn (smoothTurn 0) :: judgeMoves ++
    [.turn (refusingTurn 0), .turn (smoothTurn 0)]

end Session

end Arbiter
