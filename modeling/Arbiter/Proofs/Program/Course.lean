import Arbiter.Program

/-!
Courses of programs. A course says what may be asked for from each place, and to which place each
answer leads. That a program keeps to a course (`Keeps`) holds of it as a piece of syntax,
whatever it is told, and so holds of it wherever and beside whomever it is run. It passes through
sequencing (`Keeps.bind`) and through the spelling out of operations (`Keeps.expand`). A program
that only ever asks for operations of one kind (`Asks`) keeps to a course of one place.
-/

namespace Arbiter

/-- What may be asked for from each place, and where the answer leads. -/
structure Course (I : Interface) (P : Type) where
  may : P → I.Op → Prop
  next : P → (op : I.Op) → I.Answer op → P

namespace Program

variable {I J : Interface} {P α β : Type}

/-- From a place on, the program asks for what the course allows, and ends where `ends` lets it
end with its answer. -/
def Keeps (c : Course I P) (ends : P → α → Prop) : Program I α → P → Prop
  | done a, p => ends p a
  | ask op rest, p => c.may p op ∧ ∀ r, (rest r).Keeps c ends (c.next p op r)

@[simp] theorem keeps_done {c : Course I P} {ends : P → α → Prop} {a : α} {p : P} :
    (done a : Program I α).Keeps c ends p ↔ ends p a := Iff.rfl

@[simp] theorem keeps_ask {c : Course I P} {ends : P → α → Prop} {op : I.Op}
    {rest : I.Answer op → Program I α} {p : P} :
    (ask op rest).Keeps c ends p ↔ c.may p op ∧ ∀ r, (rest r).Keeps c ends (c.next p op r) :=
  Iff.rfl

theorem Keeps.bind {c : Course I P} {mid : P → α → Prop} {ends : P → β → Prop}
    {f : α → Program I β} (hf : ∀ p a, mid p a → (f a).Keeps c ends p) :
    ∀ {w : Program I α} {p : P}, w.Keeps c mid p → (w.bind f).Keeps c ends p := by
  intro w
  induction w with
  | done a => intro p h; exact hf p a h
  | ask op rest ih => intro p h; exact ⟨h.1, fun r => ih r (h.2 r)⟩

/-- A failure ends the whole where it may end, and an answer leads on. -/
def orEnds {ε : Type} (ends : P → Except ε β → Prop) (mid : P → α → Prop) :
    P → Except ε α → Prop
  | p, .error e => ends p (.error e)
  | p, .ok a => mid p a

theorem Keeps.bind_run {ε : Type} {c : Course I P} {ends : P → Except ε β → Prop}
    {mid : P → α → Prop} {w : ExceptT ε (Program I) α} {f : α → ExceptT ε (Program I) β} {p : P}
    (h : w.run.Keeps c (orEnds ends mid) p) (hf : ∀ q a, mid q a → (f a).run.Keeps c ends q) :
    (w >>= f).run.Keeps c ends p := by
  refine Keeps.bind (fun q r hq => ?_) h
  rcases r with e | a
  · exact hq
  · exact hf q a hq

theorem Keeps.mono {c : Course I P} {ends ends' : P → α → Prop}
    (he : ∀ p a, ends p a → ends' p a) :
    ∀ {w : Program I α} {p : P}, w.Keeps c ends p → w.Keeps c ends' p := by
  intro w
  induction w with
  | done a => intro p h; exact he p a h
  | ask op rest ih => intro p h; exact ⟨h.1, fun r => ih r (h.2 r)⟩

/-- Operations may be spelled out, along a course with places of its own, by programs that come out
at the place that stands for where the operation leads. -/
theorem Keeps.expand_at {Q : Type} {c : Course I P} {d : Course J Q} {ends : P → α → Prop}
    (place : P → Q) {spell : (op : I.Op) → Program J (I.Answer op)}
    (hs : ∀ p op, c.may p op →
      (spell op).Keeps d (fun q r => q = place (c.next p op r)) (place p)) :
    ∀ {w : Program I α} {p : P}, w.Keeps c ends p →
      (w.expand spell).Keeps d (fun q a => ∃ p, q = place p ∧ ends p a) (place p) := by
  intro w
  induction w with
  | done a => intro p h; exact ⟨p, rfl, h⟩
  | ask op rest ih =>
    intro p h
    refine Keeps.bind (fun q r hq => ?_) (hs p op h.1)
    rw [hq]
    exact ih r (h.2 r)

theorem Keeps.expand {c : Course I P} {d : Course J P} {ends : P → α → Prop}
    {spell : (op : I.Op) → Program J (I.Answer op)}
    (hs : ∀ p op, c.may p op → (spell op).Keeps d (fun q r => q = c.next p op r) p)
    {w : Program I α} {p : P} (h : w.Keeps c ends p) : (w.expand spell).Keeps d ends p := by
  refine Keeps.mono ?_ (Keeps.expand_at id hs h)
  rintro q a ⟨p, rfl, ha⟩
  exact ha

/-! ### Operations of one kind -/

/-- The course of one place. -/
def onePlace (ok : I.Op → Prop) : Course I Unit := ⟨fun _ => ok, fun _ _ _ => ()⟩

/-- Whatever the program is told, it asks for operations with a property only. -/
def Asks (ok : I.Op → Prop) (w : Program I α) : Prop := w.Keeps (onePlace ok) (fun _ _ => True) ()

theorem asks_of_forall {ok : I.Op → Prop} (h : ∀ op, ok op) (w : Program I α) : w.Asks ok := by
  induction w with
  | done a => trivial
  | ask op rest ih => exact ⟨h op, ih⟩

theorem Asks.bind {ok : I.Op → Prop} {w : Program I α} {f : α → Program I β} (h : w.Asks ok)
    (hf : ∀ a, (f a).Asks ok) : (w.bind f).Asks ok :=
  Keeps.bind (fun _ a _ => hf a) h

theorem Asks.expand {ok : I.Op → Prop} {ok' : J.Op → Prop} {w : Program I α}
    {spell : (op : I.Op) → Program J (I.Answer op)} (h : w.Asks ok)
    (hs : ∀ op, ok op → (spell op).Asks ok') : (w.expand spell).Asks ok' :=
  Keeps.expand (fun _ op hop => (hs op hop).mono fun _ _ _ => rfl) h

theorem Keeps.asks {c : Course I P} {ends : P → α → Prop} {ok : I.Op → Prop}
    (hc : ∀ p op, c.may p op → ok op) :
    ∀ {w : Program I α} {p : P}, w.Keeps c ends p → w.Asks ok := by
  intro w
  induction w with
  | done a => intro p _; trivial
  | ask op rest ih => intro p h; exact ⟨hc p op h.1, fun r => ih r (h.2 r)⟩

theorem Asks.mono {ok ok' : I.Op → Prop} (hok : ∀ op, ok op → ok' op) {w : Program I α}
    (h : w.Asks ok) : w.Asks ok' :=
  Keeps.asks (fun _ => hok) h

end Program

end Arbiter
