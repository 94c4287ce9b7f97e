/-!
# Programs

A program is a tree of requests to its surroundings: it has its answer, or it asks for one
operation and goes on with what it is told. It can be run against any surroundings, step by step
and interleaved with others, and its operations can be spelled out by programs over another
interface.
-/

namespace Arbiter

/-- Operations, and what each is answered with. -/
structure Interface where
  Op : Type
  Answer : Op → Type

inductive Program (I : Interface) (α : Type) : Type where
  | done (a : α)
  | ask (op : I.Op) (next : I.Answer op → Program I α)

namespace Program

variable {I J : Interface} {α β : Type}

protected def bind : Program I α → (α → Program I β) → Program I β
  | done a, f => f a
  | ask op next, f => ask op fun r => (next r).bind f

instance : Monad (Program I) where
  pure := done
  bind := Program.bind

/-- One operation. -/
def call (op : I.Op) : Program I (I.Answer op) := ask op done

/-- Runs a program, each operation by `run`. -/
def interpret {m : Type → Type} [Monad m] (run : (op : I.Op) → m (I.Answer op)) :
    Program I α → m α
  | done a => pure a
  | ask op next => do (next (← run op)).interpret run

/-- Spells out each operation by a program over another interface. -/
def expand (spell : (op : I.Op) → Program J (I.Answer op)) : Program I α → Program J α
  | done a => done a
  | ask op next => (spell op).bind fun r => (next r).expand spell

@[simp] theorem pure_eq (a : α) : (pure a : Program I α) = done a := rfl

@[simp] theorem bind_eq (p : Program I α) (f : α → Program I β) : p >>= f = p.bind f := rfl

@[simp] theorem done_bind (a : α) (f : α → Program I β) : (done a).bind f = f a := rfl

@[simp] theorem ask_bind (op : I.Op) (next : I.Answer op → Program I α) (f : α → Program I β) :
    (ask op next).bind f = ask op fun r => (next r).bind f := rfl

@[simp] theorem bind_done (p : Program I α) : p.bind done = p := by
  induction p with
  | done a => rfl
  | ask op next ih => exact congrArg (ask op) (funext ih)

theorem bind_assoc {γ : Type} (p : Program I α) (f : α → Program I β) (g : β → Program I γ) :
    (p.bind f).bind g = p.bind fun a => (f a).bind g := by
  induction p with
  | done a => rfl
  | ask op next ih => exact congrArg (ask op) (funext ih)

instance : LawfulMonad (Program I) :=
  LawfulMonad.mk' (Program I) bind_done (fun _ _ => rfl) bind_assoc

section

variable {m : Type → Type} [Monad m] (run : (op : I.Op) → m (I.Answer op))

@[simp] theorem interpret_done (a : α) : (done a : Program I α).interpret run = pure a := rfl

@[simp] theorem interpret_ask (op : I.Op) (next : I.Answer op → Program I α) :
    (ask op next).interpret run = run op >>= fun r => (next r).interpret run := rfl

variable [LawfulMonad m]

theorem interpret_bind (p : Program I α) (f : α → Program I β) :
    (p.bind f).interpret run = p.interpret run >>= fun a => (f a).interpret run := by
  induction p with
  | done a => simp
  | ask op next ih => simp [ih]

end

@[simp] theorem expand_done (spell : (op : I.Op) → Program J (I.Answer op)) (a : α) :
    (done a).expand spell = done a := rfl

@[simp] theorem expand_ask (spell : (op : I.Op) → Program J (I.Answer op)) (op : I.Op)
    (next : I.Answer op → Program I α) :
    (ask op next).expand spell = (spell op).bind fun r => (next r).expand spell := rfl

theorem expand_bind (spell : (op : I.Op) → Program J (I.Answer op)) (p : Program I α)
    (f : α → Program I β) :
    (p.bind f).expand spell = (p.expand spell).bind fun a => (f a).expand spell := by
  induction p with
  | done a => rfl
  | ask op next ih => simp [ih, bind_assoc]

end Program

end Arbiter
