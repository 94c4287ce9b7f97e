import Arbiter.Proofs.Judging.ApplyCourse
import Arbiter.Proofs.Session.Work
import Arbiter.Proofs.Stream.ConsumerCourse

/-!
The course of a consumer's work, call by call (`keeps_consume`): that of the consumer, with the
applying of each outcome spelled out as the calls to the store that it is made of.
-/

namespace Arbiter

/-- How far a consumer's work has come. -/
inductive DeliveryPlace where
  | between (p : ConsumerPlace)
  /-- The store was asked about the outcome of an entry. -/
  | within (home : Cursor) (left : Bool) (e : Entry) (o : Outcome) (es : List Entry)
    (q : ApplyPlace)

/-- Where the work is while the outcome of an entry is applied. -/
def DeliveryPlace.applying (home : Cursor) (left : Bool) (e : Entry) (o : Outcome)
    (es : List Entry) : ApplyPlace → DeliveryPlace
  | .arriving => between (.applying home left e o es)
  | .ended r => between (.disposed home left e es (.ofApply r))
  | q => within home left e o es q

section Deliver

variable (scoring : Scoring) (c : Consumer)

/-- **The course of a consumer's work.** -/
def deliveryCourse : Course WorkInterface DeliveryPlace where
  may
    | .between (.applying _ _ _ o _), .store call => (applyCourse scoring o).may .arriving call
    | .between p, .outer (.command words) => (consumerCourse c).may p (.command words)
    | .between p, .outer (.pause milliseconds) => (consumerCourse c).may p (.pause milliseconds)
    | .between p, .outer .stopping => (consumerCourse c).may p .stopping
    | .within _ _ _ o _ q, .store call => (applyCourse scoring o).may q call
    | _, _ => False
  next
    | .between (.applying home left e o es), .store call, r =>
      .applying home left e o es ((applyCourse scoring o).next .arriving call r)
    | .between p, .outer (.command words), r =>
      .between ((consumerCourse c).next p (.command words) r)
    | .between p, .outer (.pause milliseconds), r =>
      .between ((consumerCourse c).next p (.pause milliseconds) r)
    | .between p, .outer .stopping, r => .between ((consumerCourse c).next p .stopping r)
    | .within home left e o es q, .store call, r =>
      .applying home left e o es ((applyCourse scoring o).next q call r)
    | p, _, _ => p

variable {scoring} {c}

lemma keeps_applying (home : Cursor) (left : Bool) (e : Entry) (o : Outcome) (es : List Entry) :
    (Work.apply scoring o).Keeps (deliveryCourse scoring c)
      (fun q r => q = .between (.disposed home left e es (.ofApply r)))
      (.between (.applying home left e o es)) := by
  have hcalls : ∀ p call, (applyCourse scoring o).may p call →
      (Work.store call).Keeps (deliveryCourse scoring c)
        (fun q r => q = .applying home left e o es ((applyCourse scoring o).next p call r))
        (.applying home left e o es p) := by
    intro p call hcall
    cases p with
    | arriving | found | informed | outrun => exact ⟨hcall, fun r => rfl⟩
    | ended => exact hcall.elim
  refine Program.Keeps.mono ?_ (Program.Keeps.expand_at _ hcalls (keeps_apply scoring o))
  rintro q r ⟨p, rfl, rfl⟩
  rfl

lemma keeps_asking (p : ConsumerPlace) (op : ConsumerCall) (hop : (consumerCourse c).may p op) :
    (Work.ofConsumer scoring op).Keeps (deliveryCourse scoring c)
      (fun q r => q = .between ((consumerCourse c).next p op r)) (.between p) := by
  cases op with
  | apply o =>
    cases p with
    | applying home left e o' es =>
      obtain rfl : o = o' := ConsumerCall.apply.inj hop
      exact keeps_applying home left e o es
    | starting => rcases hop with h | h | h | ⟨id, h⟩ <;> cases h
    | brokenOff => rcases hop with h | h <;> cases h
    | stopped => exact hop.elim
    | turning | reading | acknowledging | pausing => cases hop
  | command words => cases p <;> exact ⟨hop, fun r => rfl⟩
  | pause milliseconds => cases p <;> exact ⟨hop, fun r => rfl⟩
  | stopping => cases p <;> exact ⟨hop, fun r => rfl⟩

theorem keeps_consume (n : Nat) : (Duty.consume scoring c n).work.Keeps (deliveryCourse scoring c)
    (fun _ _ => True) (.between .starting) := by
  refine Program.Keeps.bind (fun _ _ _ => ?_)
    (Program.Keeps.expand_at DeliveryPlace.between keeps_asking (keeps_run n))
  trivial

end Deliver

end Arbiter
