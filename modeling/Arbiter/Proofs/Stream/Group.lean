import Arbiter.Proofs.Program.Log
import Arbiter.Proofs.Text.Numeral
import Arbiter.Stream.Consumer
import Mathlib.Data.List.Nodup

/-!
A group of consumers on its server: the entries that its members have read and not yet acknowledged,
in the order of their ids. The server lists as many of them from the front as it is asked for, and
hands an entry over to another member if it was left idle for long enough (`Group.Obeys`). A command
that breaks down may have been carried out all the same, and time passes after each
(`Group.Serves`). A listing is read as the entries that it lists (`PendingEntry.ofReply_listing`).
-/

namespace Arbiter

/-- The entries of a group that are not acknowledged, in the order of their ids. -/
structure Group where
  stream : String
  name : String
  pending : List PendingEntry

namespace PendingEntry

/-- An entry as a server lists it. -/
def row (e : PendingEntry) : Reply :=
  .array [.bulk (Utf8.encode e.id), .bulk (Utf8.encode e.owner), .int (.ofNat e.idle),
    .int (.ofNat e.deliveries)]

/-- The numbers of the entry have 64 bits. -/
structure Fits (e : PendingEntry) : Prop where
  idle : e.idle < UInt64.size
  deliveries : e.deliveries < UInt64.size

end PendingEntry

namespace Group

/-- What the server answers when it is asked for `count` entries. -/
def listing (g : Group) (count : Nat) : Reply :=
  .array ((g.pending.take count).map PendingEntry.row)

/-- The group after an entry that was idle for at least `least` milliseconds is handed over. -/
def handOver (g : Group) (consumer : String) (least : Nat) (id : String) : Group :=
  { g with
    pending := g.pending.map fun e =>
      if e.id = id ∧ least ≤ e.idle then { e with owner := consumer, idle := 0 } else e }

/-- The group some milliseconds later. -/
def later (g : Group) (milliseconds : Nat) : Group :=
  { g with pending := g.pending.map fun e => { e with idle := e.idle + milliseconds } }

/-- The ids of the entries, and who owns each. -/
def owners (g : Group) : List (String × String) := g.pending.map fun e => (e.id, e.owner)

/-- A command, its answer, and what the group is after it. -/
inductive Obeys (g : Group) : Command → Answered → Group → Prop
  | lists (count : Nat) :
      Obeys g ["XPENDING", g.stream, g.name, "-", "+", Numeral.text count] (.ok (g.listing count)) g
  /-- An entry is handed over, whatever is answered. -/
  | hands (consumer id : String) (least : Nat) (a : Answered) :
      Obeys g ["XCLAIM", g.stream, g.name, consumer, Numeral.text least, id, "JUSTID"] a
        (g.handOver consumer least id)
  | fails (words : Command) (text : String) : Obeys g words (.error text) g

/-- The commands of a log with their answers, and what the group is in the end. -/
inductive Serves : Group → List (Exchange ConsumerInterface) → Group → Prop
  | nil (g : Group) : Serves g [] g
  | next {g m g' : Group} {words : Command} {a : Answered} {log : List (Exchange ConsumerInterface)}
      (h : g.Obeys words a m) (milliseconds : Nat) (hlog : (m.later milliseconds).Serves log g') :
      Serves g (⟨.command words, a⟩ :: log) g'

end Group

/-- The consumer belongs to the group. -/
structure Consumer.IsMember (c : Consumer) (g : Group) : Prop where
  stream : c.stream = g.stream
  group : c.group = g.name

/-! ### Reading a listing -/

namespace Reply

lemma text_encode (s : String) : (Reply.bulk (Utf8.encode s)).text = .ok s := by
  unfold Reply.text bulkText
  dsimp only
  rw [Utf8.read?_encode]

/-- A number of 64 bits is read as it is, even when its sign bit is set. -/
lemma number_ofNat {n : Nat} (h : n < UInt64.size) :
    (Reply.int (.ofNat n)).number .uint64 = .ok (n : Int) := by
  have hbits : (Int64.ofNat n).toUInt64.toNat = n := by
    rw [Int64.toUInt64_ofNat', UInt64.toNat_ofNat_of_lt' h]
  have hsigned : Span.uint64.holds (Int64.ofNat n).toInt = true → (Int64.ofNat n).toInt = n := by
    intro hholds
    have hnonneg : 0 ≤ (Int64.ofNat n).toInt := (Span.holds_iff.1 hholds).1
    rw [Int64.toInt_ofNat'] at hnonneg ⊢
    have hsize : n < 2 ^ 64 := h
    rw [Int.bmod_def, show Int64.size = 2 ^ 64 from rfl] at hnonneg ⊢
    omega
  unfold number
  dsimp only
  split
  · rename_i hholds
    rw [hsigned hholds]
  · rw [hbits]

end Reply

namespace PendingEntry

lemma ofItems_row {e : PendingEntry} (h : e.Fits) :
    ofItems (.bulk (Utf8.encode e.id)) (.bulk (Utf8.encode e.owner)) (.int (.ofNat e.idle))
      (.int (.ofNat e.deliveries)) = .ok e := by
  unfold ofItems
  rw [Reply.text_encode, Reply.text_encode, Reply.number_ofNat h.idle,
    Reply.number_ofNat h.deliveries]
  rfl

lemma ofRows_rows {es : List PendingEntry} (h : ∀ e ∈ es, e.Fits) :
    ofRows (es.map row) = .ok es := by
  induction es with
  | nil => rfl
  | cons e es ih =>
    rw [List.map_cons, row, ofRows, ofItems_row (h e List.mem_cons_self),
      ih fun e he => h e (List.mem_cons_of_mem _ he)]
    rfl

theorem ofReply_listing {g : Group} (h : ∀ e ∈ g.pending, e.Fits) (count : Nat) :
    ofReply (g.listing count) = .ok (g.pending.take count) := by
  unfold Group.listing ofReply
  dsimp only
  rw [ofRows_rows fun e he => h e (List.mem_of_mem_take he)]
  change (if (g.pending.take count).isEmpty then _ else _) = _
  split
  · rename_i hempty
    rw [List.isEmpty_iff.1 hempty]
    rfl
  · rfl

end PendingEntry

/-! ### Owners -/

namespace Group

variable {g g' m : Group} {owner : String} {ids : List String}

/-- The owners after the entries of some ids are handed over. -/
def handed (owner : String) (ids : List String) (os : List (String × String)) :
    List (String × String) :=
  os.map fun o => if o.1 ∈ ids then (o.1, owner) else o

lemma handed_nil (os : List (String × String)) : handed owner [] os = os := by
  unfold handed
  simp only [List.not_mem_nil, if_false, List.map_id']

lemma handed_handed (id : String) (os : List (String × String)) :
    handed owner ids (handed owner [id] os) = handed owner (id :: ids) os := by
  unfold handed
  rw [List.map_map]
  refine List.map_congr_left fun o _ => ?_
  by_cases hid : o.1 = id
  · simp [hid]
  · simp [hid]

lemma handed_owners (g : Group) : handed owner ids g.owners =
    g.pending.map fun e => (e.id, if e.id ∈ ids then owner else e.owner) := by
  unfold handed owners
  rw [List.map_map]
  refine List.map_congr_left fun e _ => ?_
  dsimp only [Function.comp_apply]
  split <;> rfl

lemma mem_handed (hd : (g.pending.map (·.id)).Nodup) {e : PendingEntry} (he : e ∈ g.pending)
    {x : String} : (e.id, x) ∈ handed owner ids g.owners ↔
      x = if e.id ∈ ids then owner else e.owner := by
  rw [handed_owners, List.mem_map]
  constructor
  · rintro ⟨y, hy, hyx⟩
    obtain ⟨hid, hx⟩ := Prod.mk.inj hyx
    rw [List.inj_on_of_nodup_map hd hy he hid] at hx
    exact hx.symm
  · rintro rfl
    exact ⟨e, he, rfl⟩

lemma owners_later (g : Group) (milliseconds : Nat) : (g.later milliseconds).owners = g.owners := by
  unfold owners later
  rw [List.map_map]
  rfl

lemma owners_handOver {least : Nat} {id : String}
    (h : ∀ e ∈ g.pending, e.id = id → least ≤ e.idle) :
    (g.handOver owner least id).owners = handed owner [id] g.owners := by
  unfold owners handOver handed
  rw [List.map_map, List.map_map]
  refine List.map_congr_left fun e he => ?_
  by_cases hid : e.id = id
  · simp [hid, h e he hid]
  · simp [hid]

/-- The entries of these ids are as idle in the group, or more. -/
def LeavesIdle (g : Group) (es : List PendingEntry) : Prop :=
  ∀ e ∈ es, ∀ x ∈ g.pending, x.id = e.id → e.idle ≤ x.idle

lemma leavesIdle_of_nodup (hd : (g.pending.map (·.id)).Nodup) {es : List PendingEntry}
    (hes : es ⊆ g.pending) : g.LeavesIdle es := by
  intro e he x hx hid
  exact Nat.le_of_eq (congrArg PendingEntry.idle (List.inj_on_of_nodup_map hd (hes he) hx hid.symm))

lemma LeavesIdle.later {es : List PendingEntry} (h : g.LeavesIdle es) (milliseconds : Nat) :
    (g.later milliseconds).LeavesIdle es := by
  intro e he x hx hid
  obtain ⟨y, hy, rfl⟩ := List.mem_map.1 hx
  exact Nat.le_trans (h e he y hy hid) (Nat.le_add_right _ _)

lemma LeavesIdle.handOver {es : List PendingEntry} {least : Nat} {id : String}
    (h : g.LeavesIdle es) (hid : ∀ e ∈ es, e.id ≠ id) :
    (g.handOver owner least id).LeavesIdle es := by
  intro e he x hx hx'
  obtain ⟨y, hy, rfl⟩ := List.mem_map.1 hx
  split at hx'
  · rename_i hy'
    exact absurd (hx'.symm.trans hy'.1) (hid e he)
  · rename_i hy'
    rw [if_neg hy']
    exact h e he y hy hx'

end Group

end Arbiter
