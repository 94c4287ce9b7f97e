import Arbiter.Proofs.Program.Course
import Mathlib.Tactic.Lemma

/-!
Logs of programs: what was asked for and answered, first to last. A log leads from a program to what
is left of it (`Leads`). A program that keeps to a course is left keeping to it from some place, and
what every step of the course keeps is known of the log there (`Keeps.exists_place`).
-/

namespace Arbiter

/-- An operation and its answer. -/
structure Exchange (I : Interface) where
  op : I.Op
  answer : I.Answer op

namespace Program

variable {I : Interface} {P α : Type}

/-- Asked and answered so, the first program has come to the second. -/
inductive Leads : Program I α → List (Exchange I) → Program I α → Prop
  | here (w : Program I α) : Leads w [] w
  | ask {op : I.Op} {next : I.Answer op → Program I α} {r : I.Answer op} {log : List (Exchange I)}
      {w : Program I α} (h : Leads (next r) log w) : Leads (.ask op next) (⟨op, r⟩ :: log) w

lemma leads_done {a : α} {log : List (Exchange I)} {w : Program I α} :
    (done a : Program I α).Leads log w ↔ log = [] ∧ w = done a := by
  refine ⟨fun h => ?_, ?_⟩
  · cases h
    exact ⟨rfl, rfl⟩
  · rintro ⟨rfl, rfl⟩
    exact .here _

lemma leads_ask {op : I.Op} {next : I.Answer op → Program I α} {log : List (Exchange I)}
    {w : Program I α} : (ask op next).Leads log w ↔
      log = [] ∧ w = ask op next ∨ ∃ r rest, log = ⟨op, r⟩ :: rest ∧ (next r).Leads rest w := by
  constructor
  · intro h
    cases h with
    | here => exact .inl ⟨rfl, rfl⟩
    | ask h => exact .inr ⟨_, _, rfl, h⟩
  · rintro (⟨rfl, rfl⟩ | ⟨r, rest, rfl, h⟩)
    · exact .here _
    · exact .ask h

/-- A program that asks and is through was answered, and was through after that. -/
lemma leads_ask_done {op : I.Op} {next : I.Answer op → Program I α} {log : List (Exchange I)}
    {a : α} : (ask op next).Leads log (.done a) ↔
      ∃ r rest, log = ⟨op, r⟩ :: rest ∧ (next r).Leads rest (.done a) := by
  rw [leads_ask]
  constructor
  · rintro (⟨-, h⟩ | h)
    · cases h
    · exact h
  · exact .inr

lemma Leads.of_bind {β : Type} {w : Program I α} {f : α → Program I β} {log : List (Exchange I)}
    {b : β} (h : (w.bind f).Leads log (.done b)) : ∃ a own rest, log = own ++ rest ∧
      w.Leads own (.done a) ∧ (f a).Leads rest (.done b) := by
  induction w generalizing log with
  | done a => exact ⟨a, [], log, rfl, .here _, h⟩
  | ask op next ih =>
    obtain ⟨r, log, rfl, hnext⟩ := leads_ask_done.1 h
    obtain ⟨a, own, rest, rfl, hown, hrest⟩ := ih r hnext
    exact ⟨a, ⟨op, r⟩ :: own, rest, rfl, .ask hown, hrest⟩

theorem Asks.of_mem_log {ok : I.Op → Prop} {w w' : Program I α} {log : List (Exchange I)}
    (h : w.Asks ok) (hw : w.Leads log w') : ∀ x ∈ log, ok x.op := by
  induction hw with
  | here => exact nofun
  | @ask op next r log w' _ ih =>
    intro x hx
    rcases List.mem_cons.1 hx with rfl | hx
    · exact h.1
    · exact ih (h.2 r) x hx

theorem Leads.before {w w' : Program I α} {log rest : List (Exchange I)} {x : Exchange I}
    (h : w.Leads (log ++ x :: rest) w') : ∃ next, w.Leads log (.ask x.op next) := by
  induction log generalizing w with
  | nil =>
    cases h with
    | ask h => exact ⟨_, .here _⟩
  | cons y log ih =>
    cases h with
    | ask h =>
      obtain ⟨next, hnext⟩ := ih h
      exact ⟨next, .ask hnext⟩

end Program

/-! ### What a course keeps of logs -/

/-- Every step of the course keeps what is known of the log at its place. -/
def Course.Preserves {I : Interface} {P : Type} (c : Course I P)
    (known : P → List (Exchange I) → Prop) : Prop :=
  ∀ {p log op}, known p log → c.may p op → ∀ r, known (c.next p op r) (log ++ [⟨op, r⟩])

namespace Program

variable {I : Interface} {P α : Type} {w w' : Program I α} {log own : List (Exchange I)}

/-- **What every step keeps is known of every log**, at a place that what is left of the program
goes on from. -/
theorem Keeps.exists_place {c : Course I P} {ends : P → α → Prop}
    {known : P → List (Exchange I) → Prop} (hc : c.Preserves known) {p : P}
    (h : w.Keeps c ends p) (hp : known p log) (hw : w.Leads own w') :
    ∃ q, w'.Keeps c ends q ∧ known q (log ++ own) := by
  induction hw generalizing p log with
  | here => exact ⟨p, h, by rwa [List.append_nil]⟩
  | @ask op next r own w' _ ih =>
    obtain ⟨q, hq, hknown⟩ := ih (h.2 r) (hc hp h.1 r)
    exact ⟨q, hq, by rwa [List.append_cons]⟩

end Program

end Arbiter
