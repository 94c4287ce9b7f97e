import Arbiter.Dispatch.Tree
import Mathlib.Tactic.Lemma

/-!
Trees of dispatchers at work. However a tree is put together, it is the program that asks its leaves
one after the other (`exists_inTurn`), so trees with the same leaves are one and the same program.
The leaves may be anything: each answers as it finds things, and changes them. A call to a tree goes
through the leaves from left to right up to the first that hands the job over
(`interpret_inTurn`), and so does every call of a run (`serve_cases`).
-/

namespace Arbiter

/-- A leaf was asked to hand over the job of a submission. -/
structure Attempt (ι : Type) where
  leaf : ι
  id : SubmissionId
  result : Except DispatchFailure Unit

/-- A call to a tree: what its leaves were asked, first to last, and what it came to. -/
structure Handover (ι : Type) where
  id : SubmissionId
  attempts : List (Attempt ι)
  result : Except DispatchFailure Unit

/-- The call goes through some leaves in order, up to the first that hands the job over. -/
structure Handover.GoesThrough {ι : Type} (h : Handover ι) (leaves : List ι) : Prop where
  /-- The leaves are asked from first to last, each once at most. -/
  order : h.attempts.map (·.leaf) <+: leaves
  /-- They are asked for the job of the submission that the call is about. -/
  id : ∀ a ∈ h.attempts, a.id = h.id
  /-- When one has handed the job over, no other is asked. -/
  stops : ∀ before a rest, h.attempts = before ++ a :: rest → a.result = .ok () → rest = []
  /-- As long as none has, the next is asked. -/
  goesOn : (∀ a ∈ h.attempts, a.result ≠ .ok ()) → h.attempts.map (·.leaf) = leaves
  ok : h.result = .ok () ↔ ∃ a ∈ h.attempts, a.result = .ok ()
  /-- A failure is the one of the last leaf. -/
  error : ∀ f, h.result = .error f →
    ∃ a, h.attempts.getLast? = some a ∧ leaves.getLast? = some a.leaf ∧ a.result = .error f

namespace Handover.GoesThrough

variable {ι : Type} {i : ι} {is : List ι} {id : SubmissionId}

/-- One leaf is asked, and hands the job over or is the only one. -/
lemma single {r : Except DispatchFailure Unit} (h : r = .ok () ∨ is = []) :
    GoesThrough ⟨id, [⟨i, id, r⟩], r⟩ (i :: is) where
  order := ⟨is, rfl⟩
  id a ha := by rw [List.mem_singleton.1 ha]
  stops before a rest heq hok := by
    rcases before with _ | ⟨b, before⟩
    · exact (List.cons_eq_cons.1 heq).2.symm
    · simp at heq
  goesOn hnone := by
    rcases h with rfl | rfl
    · exact absurd rfl (hnone _ List.mem_cons_self)
    · rfl
  ok := by simp
  error f hf := by
    rcases h with rfl | rfl
    · cases hf
    · exact ⟨_, rfl, rfl, hf⟩

lemma cons {f : DispatchFailure} {as : List (Attempt ι)} {r : Except DispatchFailure Unit}
    (h : GoesThrough ⟨id, as, r⟩ is) :
    GoesThrough ⟨id, ⟨i, id, .error f⟩ :: as, r⟩ (i :: is) where
  order := by
    obtain ⟨rest, hrest⟩ := h.order
    exact ⟨rest, congrArg (i :: ·) hrest⟩
  id a ha := by
    rcases List.mem_cons.1 ha with rfl | ha
    · rfl
    · exact h.id a ha
  stops before a rest heq hok := by
    rcases before with _ | ⟨b, before⟩
    · obtain ⟨rfl, -⟩ := List.cons_eq_cons.1 heq
      cases hok
    · exact h.stops before a rest (List.cons_eq_cons.1 heq).2 hok
  goesOn hnone := by
    have hrest := h.goesOn fun a ha => hnone a (List.mem_cons_of_mem _ ha)
    exact congrArg (i :: ·) hrest
  ok := by
    rw [h.ok]
    simp
  error g hg := by
    obtain ⟨a, ha, hlast, hag⟩ := h.error g hg
    have ha : as.getLast? = some a := ha
    refine ⟨a, ?_, ?_, hag⟩
    · exact List.getLast?_cons.trans (by rw [ha, Option.getD_some])
    · exact List.getLast?_cons.trans (by rw [hlast, Option.getD_some])

end Handover.GoesThrough

namespace DispatchTree

variable {ι S : Type}

/-! ### Trees as lists -/

/-- One program, and another one if that fails. -/
def orElse (p q : Program (LeafInterface ι) (Except DispatchFailure Unit)) :
    Program (LeafInterface ι) (Except DispatchFailure Unit) :=
  p.bind fun
    | .ok () => .done (.ok ())
    | .error _ => q

/-- Asks leaves one after the other, as long as they fail. -/
def inTurn (id : SubmissionId) :
    ι → List ι → Program (LeafInterface ι) (Except DispatchFailure Unit)
  | i, [] => Program.call (I := LeafInterface ι) (i, id)
  | i, j :: js => orElse (Program.call (I := LeafInterface ι) (i, id)) (inTurn id j js)

lemma enqueue_failover (first second : DispatchTree ι) (id : SubmissionId) :
    (failover first second).enqueue id = orElse (first.enqueue id) (second.enqueue id) := by
  refine congrArg (Program.bind _) (funext fun r => ?_)
  rcases r with f | ⟨⟩ <;> rfl

lemma orElse_assoc (p q r : Program (LeafInterface ι) (Except DispatchFailure Unit)) :
    orElse (orElse p q) r = orElse p (orElse q r) := by
  unfold orElse
  rw [Program.bind_assoc]
  refine congrArg (Program.bind p) (funext fun a => ?_)
  rcases a with f | ⟨⟩ <;> rfl

lemma inTurn_append (id : SubmissionId) (i j : ι) (is js : List ι) :
    inTurn id i (is ++ j :: js) = orElse (inTurn id i is) (inTurn id j js) := by
  induction is generalizing i with
  | nil => rfl
  | cons k ks ih =>
    show orElse _ (inTurn id k (ks ++ j :: js)) = orElse (orElse _ _) _
    rw [ih, orElse_assoc]

theorem exists_inTurn (t : DispatchTree ι) :
    ∃ i is, t.leaves = i :: is ∧ ∀ id, t.enqueue id = inTurn id i is := by
  induction t with
  | leaf i => exact ⟨i, [], rfl, fun _ => rfl⟩
  | failover first second ih₁ ih₂ =>
    obtain ⟨i, is, hleaves₁, hfirst⟩ := ih₁
    obtain ⟨j, js, hleaves₂, hsecond⟩ := ih₂
    refine ⟨i, is ++ j :: js, ?_, fun id => ?_⟩
    · show first.leaves ++ second.leaves = _
      rw [hleaves₁, hleaves₂, List.cons_append]
    · rw [enqueue_failover, hfirst, hsecond, inTurn_append]

/-- How a tree is put together does not matter. -/
lemma enqueue_congr {t t' : DispatchTree ι} (h : t'.leaves = t.leaves) (id : SubmissionId) :
    t'.enqueue id = t.enqueue id := by
  obtain ⟨i, is, hleaves, ht⟩ := t.exists_inTurn
  obtain ⟨i', is', hleaves', ht'⟩ := t'.exists_inTurn
  rw [hleaves, hleaves'] at h
  obtain ⟨rfl, rfl⟩ := List.cons_eq_cons.1 h
  rw [ht, ht']

/-! ### Leaves at work -/

section

variable (leaf : ι → SubmissionId → StateM S (Except DispatchFailure Unit))

/-- The answers are the leaves' own, each given as the leaf found things, and led from one state of
things to another. -/
inductive Occur : S → List (Attempt ι) → S → Prop
  | nil (s : S) : Occur s [] s
  | cons {s s' s'' : S} {a : Attempt ι} {as : List (Attempt ι)}
      (ha : leaf a.leaf a.id s = (a.result, s')) (has : Occur s' as s'') :
      Occur s (a :: as) s''

/-- The answer of a leaf, which is kept. -/
def answer (op : ι × SubmissionId) :
    StateM (S × List (Attempt ι)) (Except DispatchFailure Unit) := fun w =>
  let (r, s) := leaf op.1 op.2 w.1
  (r, s, w.2 ++ [⟨op.1, op.2, r⟩])

/-- One call to a tree. -/
def handOver (t : DispatchTree ι) (id : SubmissionId) (s : S) : Handover ι × S :=
  let out := (t.enqueue id).interpret (answer leaf) (s, [])
  (⟨id, out.2.2, out.1⟩, out.2.1)

/-- Calls to a tree, one after the other. -/
def serve (t : DispatchTree ι) : List SubmissionId → S → List (Handover ι) × S
  | [], s => ([], s)
  | id :: ids, s =>
    let (h, s') := t.handOver leaf id s
    let (hs, s'') := serve t ids s'
    (h :: hs, s'')

variable {leaf}

lemma serve_cons (t : DispatchTree ι) (id : SubmissionId) (ids : List SubmissionId) (s : S) :
    t.serve leaf (id :: ids) s =
      ((t.handOver leaf id s).1 :: (t.serve leaf ids (t.handOver leaf id s).2).1,
        (t.serve leaf ids (t.handOver leaf id s).2).2) := rfl

lemma Occur.append {s s' s'' : S} {as bs : List (Attempt ι)} (h : Occur leaf s as s')
    (h' : Occur leaf s' bs s'') : Occur leaf s (as ++ bs) s'' := by
  induction h with
  | nil => exact h'
  | cons ha _ ih => exact .cons ha (ih h')

lemma interpret_orElse_call (i : ι) (id : SubmissionId)
    (q : Program (LeafInterface ι) (Except DispatchFailure Unit)) (w : S × List (Attempt ι)) :
    (orElse (Program.call (I := LeafInterface ι) (i, id)) q).interpret (answer leaf) w =
      match answer leaf (i, id) w with
      | (.ok (), w') => (.ok (), w')
      | (.error _, w') => q.interpret (answer leaf) w' := by
  show ((match (answer leaf (i, id) w).1 with
    | Except.ok () => Program.done (Except.ok ())
    | Except.error _ => q).interpret (answer leaf) (answer leaf (i, id) w).2) = _
  rcases answer leaf (i, id) w with ⟨f | ⟨⟩, w'⟩ <;> rfl

lemma interpret_inTurn (id : SubmissionId) (i : ι) (is : List ι) (s : S)
    (kept : List (Attempt ι)) : ∃ as r s',
      (inTurn id i is).interpret (answer leaf) (s, kept) = (r, s', kept ++ as) ∧
      Occur leaf s as s' ∧ Handover.GoesThrough ⟨id, as, r⟩ (i :: is) := by
  induction is generalizing i s kept with
  | nil => exact ⟨_, _, _, rfl, .cons rfl (.nil _), .single (.inr rfl)⟩
  | cons j js ih =>
    unfold inTurn
    rw [interpret_orElse_call, answer]
    rcases hleaf : leaf i id s with ⟨f | ⟨⟩, s₁⟩
    · -- the leaves that are left find things as this one left them
      obtain ⟨as, r, s', hrest, hoccur, hthrough⟩ := ih j s₁ (kept ++ [⟨i, id, .error f⟩])
      refine ⟨_ :: as, r, s', ?_, .cons hleaf hoccur, hthrough.cons⟩
      rw [List.append_cons]
      exact hrest
    · exact ⟨_, _, s₁, rfl, .cons hleaf (.nil _), .single (.inl rfl)⟩

/-- One call to a tree goes through its leaves. -/
lemma handOver_cases (leaf : ι → SubmissionId → StateM S (Except DispatchFailure Unit))
    (t : DispatchTree ι) (id : SubmissionId) (s : S) :
    (t.handOver leaf id s).1.id = id ∧
      Occur leaf s (t.handOver leaf id s).1.attempts (t.handOver leaf id s).2 ∧
      (t.handOver leaf id s).1.GoesThrough t.leaves := by
  obtain ⟨i, is, hleaves, ht⟩ := t.exists_inTurn
  obtain ⟨as, r, s', hrun, hoccur, hthrough⟩ := @interpret_inTurn _ _ leaf id i is s []
  unfold handOver
  rw [ht, hrun, hleaves]
  exact ⟨rfl, hoccur, hthrough⟩

lemma serve_cases (leaf : ι → SubmissionId → StateM S (Except DispatchFailure Unit))
    (t : DispatchTree ι) (ids : List SubmissionId) (s : S) :
    (t.serve leaf ids s).1.map (·.id) = ids ∧
      Occur leaf s ((t.serve leaf ids s).1.flatMap (·.attempts)) (t.serve leaf ids s).2 ∧
      ∀ h ∈ (t.serve leaf ids s).1, h.GoesThrough t.leaves := by
  induction ids generalizing s with
  | nil => exact ⟨rfl, .nil s, nofun⟩
  | cons id ids ih =>
    obtain ⟨hid, hoccur, hthrough⟩ := t.handOver_cases leaf id s
    obtain ⟨hids, hrest, hall⟩ := ih (t.handOver leaf id s).2
    rw [serve_cons]
    refine ⟨?_, hoccur.append hrest, List.forall_mem_cons.2 ⟨hthrough, hall⟩⟩
    rw [List.map_cons, hid, hids]

lemma serve_congr (leaf : ι → SubmissionId → StateM S (Except DispatchFailure Unit))
    {t t' : DispatchTree ι} (h : t'.leaves = t.leaves) (ids : List SubmissionId) (s : S) :
    t'.serve leaf ids s = t.serve leaf ids s := by
  have hcall : t'.handOver leaf = t.handOver leaf := by
    funext id s
    unfold handOver
    rw [enqueue_congr h]
  induction ids generalizing s with
  | nil => rfl
  | cons id ids ih =>
    rw [serve_cons, serve_cons, hcall, ih]

end

/-- **Trees try their leaves from left to right.** Whatever the leaves do, and however that depends
on what they were asked before: the calls of a run are made one after the other, all that is asked
is answered by the leaves as they are by then, and each call goes through the leaves in order up to
the first that hands the job over. Trees with the same leaves are the same program, so they do the
same in every run, whatever goes on beside it. -/
theorem tries_leaves_in_order (leaf : ι → SubmissionId → StateM S (Except DispatchFailure Unit))
    (t : DispatchTree ι) (ids : List SubmissionId) (s : S) :
    (t.serve leaf ids s).1.map (·.id) = ids ∧
    Occur leaf s ((t.serve leaf ids s).1.flatMap (·.attempts)) (t.serve leaf ids s).2 ∧
    (∀ h ∈ (t.serve leaf ids s).1, h.GoesThrough t.leaves) ∧
    ∀ t' : DispatchTree ι, t'.leaves = t.leaves →
      (∀ id, t'.enqueue id = t.enqueue id) ∧ t'.serve leaf ids s = t.serve leaf ids s := by
  obtain ⟨hids, hoccur, hthrough⟩ := t.serve_cases leaf ids s
  refine ⟨hids, hoccur, hthrough, fun t' h => ⟨enqueue_congr h, serve_congr leaf h ids s⟩⟩

/-- The leaf 0 fails always, the leaf 1 when it is asked for the first time, and others never. -/
def lateLeaf (i : Nat) (_ : SubmissionId) : StateM Nat (Except DispatchFailure Unit) := fun asked =>
  match i with
  | 0 => (.error (.unavailable "down"), asked)
  | 1 => (if asked = 0 then .error (.unavailable "busy") else .ok (), asked + 1)
  | _ => (.ok (), asked)

/-- Two calls to three leaves: the first comes to the last of them, and the second to the one before
it, whichever two of them are put together first. -/
theorem tries_leaves_in_order_late :
    let run := (failover (leaf 0) (failover (leaf 1) (leaf 2))).serve lateLeaf [7, 8] 0
    run.1.map (fun h => h.attempts.map (·.leaf)) = [[0, 1, 2], [0, 1]] ∧
      (∀ h ∈ run.1, h.GoesThrough [0, 1, 2]) ∧
      (failover (failover (leaf 0) (leaf 1)) (leaf 2)).serve lateLeaf [7, 8] 0 = run := by
  intro run
  obtain ⟨-, -, hthrough, hsame⟩ :=
    tries_leaves_in_order lateLeaf (failover (leaf 0) (failover (leaf 1) (leaf 2))) [7, 8] 0
  exact ⟨rfl, hthrough, (hsame _ rfl).2⟩

end DispatchTree

end Arbiter
