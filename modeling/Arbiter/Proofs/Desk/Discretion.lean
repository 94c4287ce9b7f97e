import Arbiter.Desk.Service
import Arbiter.Proofs.Program.Alike
import Arbiter.Proofs.Store.Veil

/-!
What the desk keeps from callers (`Discretion`): what a veil hides of submissions, where the views
of a caller hide no less, and differences between failures that nobody is shown. Two runs of the
same work whose calls are answered alike up to that come to the same: `agree_resolve` finds out that
the stored role of the caller is one that the veil is for, and `agree_submit`, `agree_view`,
`agree_list` and `agree_best` go on from there; numbers and standings need no caller
(`agree_stats`, `agree_standing`).
-/

namespace Arbiter

/-- What is kept from callers. -/
structure Discretion where
  veil : Veil
  /-- The callers whose views hide what the veil hides. -/
  isFor : Caller → Prop
  /-- Failures that pass for the same. -/
  passes : Failure → Failure → Prop
  view_hide : ∀ {c : Caller}, isFor c → ∀ x, View.ofSubmission c (veil.hide x) = .ofSubmission c x
  passes_refl : ∀ f, passes f f
  status_eq : ∀ {f g}, passes f g → f.status = g.status
  body_eq : ∀ {f g}, passes f g → f.body = g.body

namespace Discretion

variable (D : Discretion) (u : UserId)

/-- Answers of the store that pass for the same: submissions look the same behind the veil, and the
account of `u` is one that the veil is for. -/
def shown : (c : StoreCall) → c.Result → c.Result → Prop
  | .findUser id, a, b => a = b ∧ (id = u → ∀ x ∈ a, D.isFor ⟨x.id, x.role⟩)
  | c, a, b => c.veil D.veil a = c.veil D.veil b

/-- Answers to desk work that pass for the same. -/
def likeness : Likeness DeskInterface
  | .store c => OnBoth D.passes (D.shown u c)
  | .enqueue _ => OnBoth (fun f g => D.passes (.dispatch f) (.dispatch g)) fun _ _ => True

/-- Two pieces of work come to related results, or to failures that pass for the same. -/
def Agree {α β : Type} (rel : α → β → Prop) (w : Desk α) (w' : Desk β) : Prop :=
  w.run.Alike (D.likeness u) (OnBoth D.passes rel) w'.run

variable {D u} {α β γ δ : Type}

/-! ### Steps of desk work -/

lemma agree_pure {rel : α → β → Prop} {a : α} {b : β} (h : rel a b) :
    D.Agree u rel (pure a) (pure b) :=
  .done h

lemma agree_throw {rel : α → β → Prop} (f : Failure) : D.Agree u rel (throw f) (throw f) :=
  .done (D.passes_refl f)

lemma agree_store (c : StoreCall) : D.Agree u (D.shown u c) (Desk.store c) (Desk.store c) :=
  .call (I := DeskInterface) (.store c)

lemma agree_tryStore (c : StoreCall) :
    D.Agree u (OnBoth D.passes (D.shown u c)) (Desk.tryStore c) (Desk.tryStore c) :=
  .ask fun _ _ h => .done h

lemma agree_tryEnqueue (id : SubmissionId) :
    D.Agree u (OnBoth (fun f g => D.passes (.dispatch f) (.dispatch g)) fun _ _ => True)
      (Desk.tryEnqueue id) (Desk.tryEnqueue id) :=
  .ask fun _ _ h => .done h

theorem Agree.bind {mid : α → β → Prop} {rel : γ → δ → Prop} {w : Desk α} {w' : Desk β}
    (h : D.Agree u mid w w') {f : α → Desk γ} {f' : β → Desk δ}
    (hf : ∀ a b, mid a b → D.Agree u rel (f a) (f' b)) :
    D.Agree u rel (w >>= f) (w' >>= f') :=
  Program.Alike.bind_run h hf

lemma agree_validate (r : Except String Unit) :
    D.Agree u Eq (Desk.validate r) (Desk.validate r) := by
  rcases r with reason | ⟨⟨⟩⟩
  · exact agree_throw _
  · exact agree_pure rfl

/-! ### Views -/

section Views

variable {a : Caller} (ha : D.isFor a)
include ha

lemma ofSubmission_comp_hide : View.ofSubmission a ∘ D.veil.hide = View.ofSubmission a :=
  funext (D.view_hide ha)

lemma views_eq {xs ys : List Submission} (h : xs.map D.veil.hide = ys.map D.veil.hide) :
    xs.map (View.ofSubmission a) = ys.map (View.ofSubmission a) := by
  rw [← ofSubmission_comp_hide ha, ← List.map_map, h, List.map_map]

lemma view?_eq {x y : Option Submission} (h : x.map D.veil.hide = y.map D.veil.hide) :
    x.map (View.ofSubmission a) = y.map (View.ofSubmission a) := by
  rw [← ofSubmission_comp_hide ha, ← Option.map_map, h, Option.map_map]

end Views

/-! ### What callers ask for -/

variable {c : Caller} (hc : c.userId = u)
include hc

theorem agree_resolve :
    D.Agree u (fun a b => a = b ∧ D.isFor a) (Desk.resolve c) (Desk.resolve c) := by
  apply (agree_store _).bind
  rintro a _ ⟨rfl, hfor⟩
  rcases a with _ | x
  · exact agree_throw _
  · dsimp only
    split
    · exact agree_pure ⟨rfl, hfor hc x rfl⟩
    · exact agree_throw _

theorem agree_submit (problem : ProblemId) (language code : String) :
    D.Agree u Eq (Desk.submit c problem language code) (Desk.submit c problem language code) := by
  apply (agree_validate _).bind
  intro _ _ _
  apply (agree_validate _).bind
  intro _ _ _
  apply (agree_resolve hc).bind
  rintro a _ ⟨rfl, -⟩
  apply (agree_store _).bind
  rintro p q (rfl : p = q)
  rcases p with _ | p
  · exact agree_throw _
  dsimp only
  split
  · exact agree_throw _
  apply (agree_store _).bind
  intro x y hxy
  have hid : x.id = y.id := by
    rw [← D.veil.id_hide x, show D.veil.hide x = D.veil.hide y from hxy, D.veil.id_hide]
  rw [hid]
  apply (agree_tryEnqueue _).bind
  intro r r' hr
  -- the job was refused in both or in neither, and what becomes of the last call is not told
  rcases r with f | ⟨⟨⟩⟩ <;> rcases r' with g | ⟨⟨⟩⟩
  · exact (agree_tryStore _).bind fun _ _ _ => .done hr
  · exact hr.elim
  · exact hr.elim
  · exact (agree_tryStore _).bind fun _ _ _ => agree_pure rfl

theorem agree_view (id : SubmissionId) : D.Agree u Eq (Desk.view c id) (Desk.view c id) := by
  apply (agree_resolve hc).bind
  rintro a _ ⟨rfl, hfor⟩
  apply (agree_store _).bind
  intro x y hxy
  have hviews := view?_eq hfor hxy
  rcases x with _ | x <;> rcases y with _ | y
  · exact agree_throw _
  · cases hviews
  · cases hviews
  · exact agree_pure (Option.some.inj hviews)

theorem agree_list (f : Filter) : D.Agree u Eq (Desk.list c f) (Desk.list c f) := by
  apply (agree_resolve hc).bind
  rintro a _ ⟨rfl, hfor⟩
  dsimp only
  split
  · exact agree_throw _
  apply (agree_store _).bind
  intro r r' hr
  obtain ⟨hrows, htotal⟩ := Prod.mk.inj hr
  rw [views_eq hfor hrows, htotal]
  exact agree_pure rfl

theorem agree_best (user : UserId) (problem : ProblemId) :
    D.Agree u Eq (Desk.best c user problem) (Desk.best c user problem) := by
  apply (agree_resolve hc).bind
  rintro a _ ⟨rfl, hfor⟩
  apply (agree_store _).bind
  intro x y hxy
  exact agree_pure (view?_eq hfor hxy)

omit hc in
theorem agree_stats (user : UserId) : D.Agree u Eq (Desk.stats user) (Desk.stats user) := by
  apply (agree_store _).bind
  rintro m m' (rfl : m = m')
  apply (agree_store _).bind
  rintro n n' (rfl : n = n')
  exact agree_pure rfl

omit hc in
theorem agree_standing (user : UserId) (problem : ProblemId) :
    D.Agree u Eq (Desk.standing user problem) (Desk.standing user problem) :=
  agree_store (.standing user problem)

end Discretion

end Arbiter
