import Arbiter.Proofs.Program.Log
import Arbiter.Proofs.Session.Fair

/-!
The calls of one task in a run. They are a log of its duty's work, which has come to what is left of
the task (`leads_calls`); and each of them was made at one moment of the run and answered from the
store as it was then (`Makes`, `calls_eq_cons`), so that a run can be cut where the log is cut
(`calls_eq_append`).
-/

namespace Arbiter

namespace Session

/-- What a task asks and is answered in a move. -/
def exchange? (s : Session) (i : Nat) : Move → Option (Exchange WorkInterface)
  | .turn t => if t.task = i then (s.heard? t).map fun e => ⟨e.call, e.answer⟩ else none
  | _ => none

/-- What a task asks and is answered in a run. -/
def calls (i : Nat) : Session → List Move → List (Exchange WorkInterface)
  | _, [] => []
  | s, m :: ms => (s.exchange? i m).toList ++ calls i (s.step m) ms

variable {s : Session} {i : Nat} {m : Move} {x : Exchange WorkInterface}

lemma calls_append (i : Nat) (s : Session) (ms ns : List Move) :
    s.calls i (ms ++ ns) = s.calls i ms ++ (s.after ms).calls i ns := by
  induction ms generalizing s with
  | nil => rfl
  | cons m ms ih =>
    show (s.exchange? i m).toList ++ (s.step m).calls i (ms ++ ns) =
      ((s.exchange? i m).toList ++ (s.step m).calls i ms) ++ _
    rw [ih, List.append_assoc]
    rfl

/-- **What happens when a task makes a call.** It is the task's turn, the store answers, and the
task goes on with the answer. -/
structure Makes (s : Session) (i : Nat) (m : Move) (x : Exchange WorkInterface) (t : Turn)
    (d : Duty) (next : WorkInterface.Answer x.op → Work Ended) : Prop where
  turn : m = .turn t
  task : s.tasks[i]? = some ⟨d, .ask x.op next⟩
  answer : (t.answer s.store x.op).1 = x.answer
  store : (s.step m).store = (t.answer s.store x.op).2
  left : (s.step m).tasks[i]? = some ⟨d, next x.answer⟩

lemma makes_of_exchange? (h : s.exchange? i m = some x) : ∃ t d next, s.Makes i m x t d next := by
  cases m with
  | turn t =>
    rw [exchange?] at h
    split at h
    · rename_i hi
      obtain ⟨e, he, hx⟩ := Option.map_eq_some_iff.1 h
      rcases s.take_cases t with ⟨-, hnone⟩ | ⟨d, op, next, hget, htake, hheard⟩
      · rw [he] at hnone
        cases hnone
      · rw [hheard] at he
        cases he
        cases hx
        subst hi
        have hstep : s.step (.turn t) = _ := htake
        refine ⟨t, d, next, rfl, hget, rfl, by rw [hstep], ?_⟩
        rw [hstep]
        exact List.getElem?_set_self (List.getElem?_eq_some_iff.1 hget).1
    · cases h
  | start | insertUser | insertProblem => cases h

/-- A call to the store fails without effect, or is answered by the store. -/
lemma Makes.run {t : Turn} {d : Duty} {c : StoreCall} {a : Except Failure c.Result}
    {next : Except Failure c.Result → Work Ended} (h : s.Makes i m ⟨.store c, a⟩ t d next) :
    (∃ f, a = .error f) ∧ (s.step m).store = s.store ∨
      (s.store.run t.now c).1 = a ∧ (s.step m).store = (s.store.run t.now c).2 := by
  have ha := h.answer
  have hs := h.store
  rcases hf : t.fault with _ | f
  · rw [Turn.answer_store hf] at ha hs
    exact .inr ⟨ha, hs⟩
  · unfold Turn.answer at ha hs
    rw [hf] at ha hs
    exact .inl ⟨⟨f, ha.symm⟩, hs⟩

lemma Makes.run_of_ok {t : Turn} {d : Duty} {c : StoreCall} {r : c.Result}
    {next : Except Failure c.Result → Work Ended} (h : s.Makes i m ⟨.store c, .ok r⟩ t d next) :
    (s.store.run t.now c).1 = .ok r ∧ (s.step m).store = (s.store.run t.now c).2 := by
  rcases h.run with ⟨⟨f, hf⟩, -⟩ | hrun
  · cases hf
  · exact hrun

lemma task_step_of_none (h : s.exchange? i m = none) {y : Task} (hy : s.tasks[i]? = some y) :
    (s.step m).tasks[i]? = some y := by
  cases m with
  | turn t =>
    show (s.take t).tasks[i]? = some y
    rcases s.take_cases t with ⟨htake, -⟩ | ⟨d, op, next, hget, htake, hheard⟩
    · rw [htake, hy]
    · rw [htake]
      by_cases hi : t.task = i
      · rw [exchange?, if_pos hi, hheard] at h
        cases h
      · exact (List.getElem?_set_ne hi).trans hy
  | start d =>
    show (s.tasks ++ [⟨d, d.work⟩])[i]? = some y
    rw [List.getElem?_append_left (List.getElem?_eq_some_iff.1 hy).1, hy]
  | insertUser | insertProblem => exact hy

/-- A task that was not taken on makes no call, and begins with the whole of its work. -/
lemma task_step_of_no_task (h : s.tasks[i]? = none) (m : Move) :
    s.exchange? i m = none ∧ ∀ y, (s.step m).tasks[i]? = some y → y.rest = y.duty.work := by
  cases m with
  | turn t =>
    constructor
    · rw [exchange?]
      split
      · rename_i hi
        rw [heard?, hi, h]
        rfl
      · rfl
    · intro y hy
      exfalso
      change (s.take t).tasks[i]? = some y at hy
      rcases s.take_cases t with ⟨htake, -⟩ | ⟨d, op, next, hget, htake, hheard⟩
      · rw [htake, h] at hy
        cases hy
      · have hi : t.task ≠ i := by
          rintro rfl
          rw [hget] at h
          cases h
        rw [htake] at hy
        rw [List.getElem?_set_ne hi, h] at hy
        cases hy
  | start d =>
    refine ⟨rfl, fun y hy => ?_⟩
    change (s.tasks ++ [⟨d, d.work⟩])[i]? = some y at hy
    rw [List.getElem?_append_right (List.getElem?_eq_none_iff.1 h)] at hy
    have hy := List.mem_of_getElem? hy
    rw [List.mem_singleton.1 hy]
  | insertUser | insertProblem =>
    refine ⟨rfl, fun y hy => ?_⟩
    rw [show s.tasks[i]? = some y from hy] at h
    cases h

lemma leads_calls_of_task {y : Task} (hy : s.tasks[i]? = some y) (ms : List Move) :
    ∃ w, (s.after ms).tasks[i]? = some ⟨y.duty, w⟩ ∧ y.rest.Leads (s.calls i ms) w := by
  induction ms generalizing s y with
  | nil => exact ⟨y.rest, hy, .here _⟩
  | cons m ms ih =>
    rw [after_cons, calls]
    rcases hx : s.exchange? i m with _ | x
    · exact ih (task_step_of_none hx hy)
    · obtain ⟨t, d, next, hmakes⟩ := makes_of_exchange? hx
      obtain ⟨w, hw, hleads⟩ := ih hmakes.left
      have hy' := hmakes.task
      rw [hy] at hy'
      cases hy'
      exact ⟨w, hw, .ask hleads⟩

theorem leads_calls (s : Store) (i : Nat) (ms : List Move) {d : Duty} {w : Work Ended}
    (h : ((opened s).after ms).tasks[i]? = some ⟨d, w⟩) :
    d.work.Leads ((opened s).calls i ms) w := by
  suffices hgen : ∀ {s : Session}, s.tasks[i]? = none →
      (s.after ms).tasks[i]? = some ⟨d, w⟩ → d.work.Leads (s.calls i ms) w from hgen rfl h
  clear h s
  intro s hnone h
  induction ms generalizing s with
  | nil =>
    rw [after_nil, hnone] at h
    cases h
  | cons m ms ih =>
    obtain ⟨hx, hnew⟩ := task_step_of_no_task hnone m
    rw [calls, hx]
    rcases hy : (s.step m).tasks[i]? with _ | y
    · exact ih hy h
    · obtain ⟨w', hw', hleads⟩ := leads_calls_of_task hy ms
      rw [after_cons, hw'] at h
      cases h
      rw [hnew y hy] at hleads
      exact hleads

/-! ### Cutting a run where the log is cut -/

theorem calls_eq_cons {ms : List Move} {log : List (Exchange WorkInterface)}
    (h : s.calls i ms = x :: log) : ∃ m₁ m m₂, ms = m₁ ++ m :: m₂ ∧ s.calls i m₁ = [] ∧
      (s.after m₁).exchange? i m = some x ∧ ((s.after m₁).step m).calls i m₂ = log := by
  induction ms generalizing s with
  | nil => cases h
  | cons m ms ih =>
    rw [calls] at h
    rcases hx : s.exchange? i m with _ | y
    · rw [hx] at h
      obtain ⟨m₁, m', m₂, rfl, hnone, hcall, hrest⟩ := ih h
      refine ⟨m :: m₁, m', m₂, rfl, ?_, hcall, hrest⟩
      rw [calls, hx, hnone]
      rfl
    · rw [hx] at h
      obtain ⟨rfl, rfl⟩ := List.cons_eq_cons.1 h
      exact ⟨[], m, ms, rfl, rfl, hx, rfl⟩

/-- A call of a task in a run: the moves before it, the move that it is made in, and those after. -/
structure CallAt (s : Session) (i : Nat) (ms before : List Move) (m : Move) (rest : List Move)
    (x : Exchange WorkInterface) : Prop where
  split : ms = before ++ m :: rest
  call : (s.after before).exchange? i m = some x

variable {ms before rest : List Move}

lemma CallAt.holds {P : Store → Prop} (h : s.CallAt i ms before m rest x)
    (hP : s.Throughout P ms) : P (s.after before).store := by
  rw [h.split] at hP
  exact (throughout_append.1 hP).2.head

lemma CallAt.calls_eq (h : s.CallAt i ms before m rest x) :
    s.calls i ms = s.calls i before ++ x :: ((s.after before).step m).calls i rest := by
  rw [h.split, calls_append, calls, h.call]
  rfl

theorem calls_eq_append {log log' : List (Exchange WorkInterface)}
    (h : s.calls i ms = log ++ log') : ∃ m₁ m₂, ms = m₁ ++ m₂ ∧ s.calls i m₁ = log ∧
      (s.after m₁).calls i m₂ = log' := by
  induction log generalizing s ms with
  | nil => exact ⟨[], ms, rfl, rfl, h⟩
  | cons y log ih =>
    obtain ⟨n₁, m, n₂, rfl, hnone, hcall, hrest⟩ := calls_eq_cons h
    obtain ⟨n₃, m₂, rfl, hlog, hrest⟩ := ih hrest
    refine ⟨n₁ ++ m :: n₃, m₂, by rw [List.append_assoc]; rfl, ?_, ?_⟩
    · rw [calls_append, calls, hnone, hcall, hlog]
      rfl
    · rw [after_append]
      exact hrest

/-- **Each call of a task is made at one moment of the run.** -/
theorem exists_callAt {log log' : List (Exchange WorkInterface)}
    (h : s.calls i ms = log ++ x :: log') : ∃ before m rest, s.CallAt i ms before m rest x ∧
      s.calls i before = log ∧ ((s.after before).step m).calls i rest = log' := by
  obtain ⟨m₁, m₂, rfl, hlog, h⟩ := calls_eq_append h
  obtain ⟨n₁, m, n₂, rfl, hnone, hcall, hlog'⟩ := calls_eq_cons h
  refine ⟨m₁ ++ n₁, m, n₂, ⟨(List.append_assoc ..).symm, ?_⟩, ?_, ?_⟩
  · rw [after_append]
    exact hcall
  · rw [calls_append, hlog, hnone, List.append_nil]
  · rw [after_append]
    exact hlog'

end Session

end Arbiter
