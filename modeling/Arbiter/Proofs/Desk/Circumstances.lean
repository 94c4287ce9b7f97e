import Arbiter.Proofs.Desk.Discretion
import Arbiter.Proofs.Judging.AppliedStore

/-!
Desk work on a store of its own: what time it is at each call, which calls to the store fail, and
what a dispatcher makes of the jobs it is handed are the circumstances of the work
(`Circumstances.run`). Pieces of work that are alike up to a discretion, in circumstances that
resemble each other and on stores that look the same, come to the same and leave stores that look
the same (`run_alike`).
-/

namespace Arbiter

/-- What desk work meets, by the number of the call. -/
structure Circumstances where
  now : Nat → Instant
  /-- The failure of a store call that fails. -/
  fault : Nat → Option Failure
  /-- The outcomes that are applied before a dispatcher answers, and its answer. -/
  dispatch : Nat → SubmissionId → List (Instant × Outcome) × Except DispatchFailure Unit
  scoring : Scoring

/-- A store with desk work done on it. -/
structure DeskState where
  store : Store
  /-- How many calls were made. -/
  calls : Nat
  /-- The jobs that were handed to the dispatcher, first to last. -/
  jobs : List SubmissionId

namespace Circumstances

variable (k : Circumstances)

/-- The answer to a call, and what is left after it. -/
def answer : (op : DeskCall) → StateM DeskState (DeskInterface.Answer op)
  | .store c => fun d =>
    match k.fault d.calls with
    | some f => (.error f, { d with calls := d.calls + 1 })
    | none =>
      let (r, store) := d.store.run (k.now d.calls) c
      (r, { d with store, calls := d.calls + 1 })
  | .enqueue id => fun d =>
    let (os, r) := k.dispatch d.calls id
    (r, ⟨d.store.appliedAll k.scoring os, d.calls + 1, d.jobs ++ [id]⟩)

/-- What desk work on a store comes to. -/
def run {α : Type} (w : Program DeskInterface α) (s : Store) : α × DeskState :=
  w.interpret k.answer ⟨s, 0, []⟩

end Circumstances

namespace Discretion

variable (D : Discretion) (u : UserId)

/-- The circumstances differ in failures that pass for the same only. -/
structure Resemble (k k' : Circumstances) : Prop where
  now : k.now = k'.now
  fault : ∀ n, Option.Rel D.passes (k.fault n) (k'.fault n)
  outcomes : ∀ n id, (k.dispatch n id).1 = (k'.dispatch n id).1
  answer : ∀ n id, OnBoth (fun f g => D.passes (.dispatch f) (.dispatch g)) (fun _ _ => True)
    (k.dispatch n id).2 (k'.dispatch n id).2
  scoring : k.scoring = k'.scoring

/-- The states look the same, and the account of `u` is one that the veil is for. -/
structure LookAlike (d e : DeskState) : Prop where
  store : d.store.veiled D.veil = e.store.veiled D.veil
  calls : d.calls = e.calls
  jobs : d.jobs = e.jobs
  account : ∀ x ∈ d.store.users.find? u, D.isFor ⟨x.id, x.role⟩

variable {D u} {k k' : Circumstances}

lemma resemble_refl (k : Circumstances) : D.Resemble k k where
  now := rfl
  fault n := by
    cases k.fault n with
    | none => exact .none
    | some f => exact .some (D.passes_refl f)
  outcomes _ _ := rfl
  answer n id := by
    cases (k.dispatch n id).2 with
    | error f => exact D.passes_refl (.dispatch f)
    | ok => trivial
  scoring := rfl

lemma onBoth_of_map {α β : Type} {r r' : Except Failure α} {g : α → β}
    (h : r.map g = r'.map g) : OnBoth D.passes (fun a b => g a = g b) r r' := by
  rcases r with f | a <;> rcases r' with f' | b
  · cases h
    exact D.passes_refl f
  · cases h
  · cases h
  · exact Except.ok.inj h

/-- Stores that look the same give answers that pass for the same. -/
lemma onBoth_run {s t : Store} (h : s.veiled D.veil = t.veiled D.veil)
    (ha : ∀ x ∈ s.users.find? u, D.isFor ⟨x.id, x.role⟩) (now : Instant) (c : StoreCall) :
    OnBoth D.passes (D.shown u c) (s.run now c).1 (t.run now c).1 := by
  have hrun := (Store.run_veiled h now c).1
  cases c with
  | findUser id =>
    have husers : s.users = t.users := (congrArg Store.users h :)
    refine ⟨congrArg (·.find? id) husers, ?_⟩
    rintro rfl
    exact ha
  | _ => exact onBoth_of_map hrun

theorem answer_alike (hk : D.Resemble k k') (op : DeskCall) {d e : DeskState}
    (h : D.LookAlike u d e) : D.likeness u op (k.answer op d).1 (k'.answer op e).1 ∧
      D.LookAlike u (k.answer op d).2 (k'.answer op e).2 := by
  obtain ⟨hstore, hcalls, hjobs, haccount⟩ := h
  cases op with
  | store c =>
    have hfault := hk.fault d.calls
    simp only [Circumstances.answer, ← hcalls, ← hk.now]
    generalize k.fault d.calls = fault at hfault ⊢
    generalize k'.fault d.calls = fault' at hfault ⊢
    cases hfault with
    | some hf => exact ⟨hf, hstore, rfl, hjobs, haccount⟩
    | none =>
      refine ⟨onBoth_run hstore haccount _ c, ?_⟩
      refine ⟨(Store.run_veiled hstore _ c).2, rfl, hjobs, ?_⟩
      rwa [Store.run_users]
  | enqueue id =>
    have houtcomes := hk.outcomes d.calls id
    have hanswer := hk.answer d.calls id
    simp only [Circumstances.answer, ← hcalls, ← hk.scoring, ← houtcomes, ← hjobs]
    refine ⟨hanswer, ?_⟩
    refine ⟨Store.appliedAll_veiled_same hstore _, rfl, rfl, ?_⟩
    rwa [Store.appliedAll_users]

theorem run_alike {α β : Type} {rel : α → β → Prop} {w : Program DeskInterface α}
    {w' : Program DeskInterface β} (hw : w.Alike (D.likeness u) rel w') (hk : D.Resemble k k')
    {s t : Store} (h : s.veiled D.veil = t.veiled D.veil)
    (ha : ∀ x ∈ s.users.find? u, D.isFor ⟨x.id, x.role⟩) :
    rel (k.run w s).1 (k'.run w' t).1 ∧ D.LookAlike u (k.run w s).2 (k'.run w' t).2 := by
  have hstart : D.LookAlike u ⟨s, 0, []⟩ ⟨t, 0, []⟩ := ⟨h, rfl, rfl, ha⟩
  exact Program.Alike.interpret (R := D.LookAlike u) (fun op d e hde => answer_alike hk op hde) hw
    hstart

end Discretion

end Arbiter
