import Arbiter.Program
import Mathlib.Tactic.Lemma

/-!
Two programs side by side. They are alike (`Alike`) when they ask for the same operations as long as
they are answered alike, and come to related results. This holds of them as pieces of syntax, passes
through sequencing (`Alike.bind`, `Alike.bind_run`), and says of any two surroundings that answer
alike and stay related that the results are related (`Alike.interpret`).
-/

namespace Arbiter

/-- Which two answers to an operation pass for the same. -/
abbrev Likeness (I : Interface) := (op : I.Op) → I.Answer op → I.Answer op → Prop

/-- Both fail or neither does, with related failures or related values. -/
def OnBoth {ε α β : Type} (fail : ε → ε → Prop) (rel : α → β → Prop) :
    Except ε α → Except ε β → Prop
  | .error e, .error f => fail e f
  | .ok a, .ok b => rel a b
  | _, _ => False

namespace Program

variable {I : Interface} {α β γ δ : Type} {same : Likeness I}

/-- The programs ask for the same, whatever like answers they get, and come to related results. -/
inductive Alike (same : Likeness I) (rel : α → β → Prop) : Program I α → Program I β → Prop
  | done {a : α} {b : β} (h : rel a b) : Alike same rel (.done a) (.done b)
  | ask {op : I.Op} {next : I.Answer op → Program I α} {next' : I.Answer op → Program I β}
      (h : ∀ r r', same op r r' → Alike same rel (next r) (next' r')) :
      Alike same rel (.ask op next) (.ask op next')

theorem Alike.call (op : I.Op) : (call op).Alike same (same op) (call op) :=
  .ask fun _ _ h => .done h

theorem Alike.bind {mid : α → β → Prop} {rel : γ → δ → Prop} {w : Program I α} {w' : Program I β}
    (h : w.Alike same mid w') {f : α → Program I γ} {f' : β → Program I δ}
    (hf : ∀ a b, mid a b → (f a).Alike same rel (f' b)) :
    (w.bind f).Alike same rel (w'.bind f') := by
  induction h with
  | done h => exact hf _ _ h
  | ask _ ih => exact .ask ih

theorem Alike.bind_run {ε : Type} {fail : ε → ε → Prop} {mid : α → β → Prop} {rel : γ → δ → Prop}
    {w : ExceptT ε (Program I) α} {w' : ExceptT ε (Program I) β}
    (h : w.run.Alike same (OnBoth fail mid) w'.run) {f : α → ExceptT ε (Program I) γ}
    {f' : β → ExceptT ε (Program I) δ}
    (hf : ∀ a b, mid a b → (f a).run.Alike same (OnBoth fail rel) (f' b).run) :
    (w >>= f).run.Alike same (OnBoth fail rel) (w' >>= f').run := by
  refine Alike.bind h fun r r' hr => ?_
  rcases r with e | a <;> rcases r' with e' | b
  · exact .done hr
  · exact hr.elim
  · exact hr.elim
  · exact hf a b hr

/-- **Alike programs in related surroundings.** What the two are run by may keep some state, that is
related before and after. -/
theorem Alike.interpret {S : Type} {R : S → S → Prop}
    {run run' : (op : I.Op) → StateM S (I.Answer op)}
    (hrun : ∀ op s t, R s t → same op (run op s).1 (run' op t).1 ∧ R (run op s).2 (run' op t).2)
    {rel : α → β → Prop} {w : Program I α} {w' : Program I β} (h : w.Alike same rel w') {s t : S}
    (hst : R s t) : rel (w.interpret run s).1 (w'.interpret run' t).1 ∧
      R (w.interpret run s).2 (w'.interpret run' t).2 := by
  induction h generalizing s t with
  | done h => exact ⟨h, hst⟩
  | @ask op next next' _ ih =>
    obtain ⟨hsame, hR⟩ := hrun op s t hst
    exact ih _ _ hsame hR

end Program

end Arbiter
