import Arbiter.Proofs.Session.Run

/-!
Serial sessions, in which a task that gets a turn does all of its work in it, with no call of
another task in between (`takeWhole`). A serial session of some turns out of a run of turns keeps
to the order of the run: a task that was through before another had its first turn comes first
there too (`Precedes.sublist`).
-/

namespace Arbiter

/-- The answer to a call in this turn, as a change of the store. -/
def Turn.run (t : Turn) (op : WorkCall) : StateM Store (WorkInterface.Answer op) := fun s =>
  t.answer s op

/-- The whole of some work in one turn. -/
def Turn.whole (t : Turn) (w : Work Ended) (s : Store) : Ended × Store := w.interpret t.run s

@[simp] lemma Turn.whole_done (t : Turn) (e : Ended) (s : Store) : t.whole (.done e) s = (e, s) :=
  rfl

@[simp] lemma Turn.whole_ask (t : Turn) (op : WorkCall)
    (next : WorkInterface.Answer op → Work Ended) (s : Store) :
    t.whole (.ask op next) s = t.whole (next (t.answer s op).1) (t.answer s op).2 := rfl

namespace Session

/-- Some turns, one call each. -/
def afterTurns (s : Session) (ts : List Turn) : Session := ts.foldl take s

/-- Gives a task a turn in which it does all that is left of its work. -/
def takeWhole (s : Session) (t : Turn) : Session :=
  match s.tasks[t.task]? with
  | some ⟨duty, w⟩ =>
    ⟨(t.whole w s.store).2, s.tasks.set t.task ⟨duty, .done (t.whole w s.store).1⟩⟩
  | none => s

/-- Some turns, each of them the whole of a task. -/
def afterWhole (s : Session) (ts : List Turn) : Session := ts.foldl takeWhole s

@[simp] lemma afterWhole_cons (s : Session) (t : Turn) (ts : List Turn) :
    s.afterWhole (t :: ts) = (s.takeWhole t).afterWhole ts := rfl

theorem afterTurns_eq (s : Session) (ts : List Turn) :
    s.afterTurns ts = s.after (ts.map .turn) := by
  unfold afterTurns after
  rw [List.foldl_map]
  rfl

variable {s : Session} {t : Turn}

lemma takeWhole_of_some {x : Task} (h : s.tasks[t.task]? = some x) : s.takeWhole t =
    ⟨(t.whole x.rest s.store).2,
      s.tasks.set t.task ⟨x.duty, .done (t.whole x.rest s.store).1⟩⟩ := by
  unfold takeWhole
  rw [h]

lemma takeWhole_of_none (h : s.tasks[t.task]? = none) : s.takeWhole t = s := by
  unfold takeWhole
  rw [h]

lemma tasks_takeWhole_of_ne {i : Nat} (h : t.task ≠ i) :
    (s.takeWhole t).tasks[i]? = s.tasks[i]? := by
  rcases hx : s.tasks[t.task]? with _ | x
  · rw [takeWhole_of_none hx]
  · rw [takeWhole_of_some hx, List.getElem?_set_ne h]

lemma tasks_afterWhole_of_notMem {i : Nat} {ts : List Turn} (h : i ∉ ts.map Turn.task) :
    (s.afterWhole ts).tasks[i]? = s.tasks[i]? := by
  induction ts generalizing s with
  | nil => rfl
  | cons t ts ih =>
    rw [List.map_cons, List.mem_cons, not_or] at h
    rw [afterWhole_cons, ih h.2, tasks_takeWhole_of_ne (Ne.symm h.1)]

lemma tasks_takeWhole_of_done {i : Nat} {d : Duty} {e : Ended}
    (h : s.tasks[i]? = some ⟨d, .done e⟩) : (s.takeWhole t).tasks[i]? = some ⟨d, .done e⟩ := by
  by_cases hi : t.task = i
  · rw [hi.symm] at h
    rw [takeWhole_of_some h, Turn.whole_done, ← hi]
    exact List.getElem?_set_self (List.getElem?_eq_some_iff.1 h).1
  · rw [tasks_takeWhole_of_ne hi, h]

lemma tasks_afterWhole_of_done {i : Nat} {d : Duty} {e : Ended} {ts : List Turn}
    (h : s.tasks[i]? = some ⟨d, .done e⟩) : (s.afterWhole ts).tasks[i]? = some ⟨d, .done e⟩ := by
  induction ts generalizing s with
  | nil => exact h
  | cons t ts ih => exact ih (tasks_takeWhole_of_done h)

/-! ### Order -/

/-- In some turns, no turn of `j` comes before a turn of `i`. -/
def Precedes (ts : List Turn) (i j : Nat) : Prop :=
  ∀ t u, [t, u].Sublist ts → t.task = j → u.task ≠ i

theorem Precedes.sublist {ts us : List Turn} {i j : Nat} (h : Precedes ts i j)
    (hu : us.Sublist ts) : Precedes us i j :=
  fun t u htu => h t u (htu.trans hu)

end Session

end Arbiter
