import Arbiter.Proofs.Program.Course
import Arbiter.Stream.Consumer
import Mathlib.Tactic.Lemma

/-!
The course of a consumer of results (`keeps_run`). It makes sure of its group and takes entries
over; then it reads, takes on the entries that were read one by one, and reads on. An entry with a
readable outcome has it applied first, and an entry is acknowledged unless its outcome is to be
delivered again. A batch that broke off or left an entry behind ends in a pause, after which the
consumer reads its own entries; where any other batch leads is known as soon as it is read.
-/

namespace Arbiter

/-- The outcome that an entry carries, if it can be read. -/
def Entry.outcome? (e : Entry) : Option Outcome :=
  e.payload.bind fun p => (Decoder.decode Outcome.decoder (Utf8.encode p)).toOption

/-- The entries that a read was answered with, if the answer can be read. -/
def Entry.ofAnswered (a : Answered) : Option (List Entry) :=
  a.toOption.bind fun reply => (ofRead reply).toOption

/-- How far a consumer has come. -/
inductive ConsumerPlace where
  /-- Nothing was read yet. -/
  | starting
  /-- A batch is over. -/
  | turning (cursor : Cursor)
  | reading (cursor : Cursor)
  /-- The outcome of an entry is to be applied. Other entries of the batch follow; when all are
  acknowledged, the consumer reads on from `home`, unless one was left before. -/
  | applying (home : Cursor) (left : Bool) (e : Entry) (o : Outcome) (es : List Entry)
  /-- An entry is to be acknowledged. -/
  | acknowledging (home : Cursor) (left : Bool) (e : Entry) (es : List Entry)
  /-- A batch broke off. -/
  | brokenOff
  /-- An entry was left behind. -/
  | pausing
  | stopped

/-- Where a batch goes on, with some entries to go. -/
def ConsumerPlace.on (home : Cursor) (left : Bool) : List Entry → ConsumerPlace
  | [] => if left then pausing else turning home
  | e :: es =>
    match e.outcome? with
    | none => acknowledging home left e es
    | some o => applying home left e o es

/-- Where a batch goes on once it is known what becomes of an entry. -/
def ConsumerPlace.disposed (home : Cursor) (left : Bool) (e : Entry) (es : List Entry) :
    Disposition → ConsumerPlace
  | .acknowledge => acknowledging home left e es
  | .redeliver => on home true es

/-- Where a batch leads. -/
def ConsumerPlace.over (cursor : Cursor) : BatchEnd → ConsumerPlace
  | .failed => brokenOff
  | .retry => pausing
  | .settled n => turning (cursor.advance (.settled n))

/-- Where a batch begins. -/
def ConsumerPlace.ofAnswered (cursor : Cursor) (a : Answered) : ConsumerPlace :=
  match Entry.ofAnswered a with
  | none => brokenOff
  | some entries => on (cursor.advance (.settled entries.length)) false entries

namespace ConsumerPlace

lemma on_of_none {home : Cursor} {left : Bool} {e : Entry} {es : List Entry}
    (h : e.outcome? = none) : on home left (e :: es) = acknowledging home left e es := by
  simp only [on, h]

lemma on_of_some {home : Cursor} {left : Bool} {e : Entry} {es : List Entry} {o : Outcome}
    (h : e.outcome? = some o) : on home left (e :: es) = applying home left e o es := by
  simp only [on, h]

lemma ofAnswered_of_none {cursor : Cursor} {a : Answered} (h : Entry.ofAnswered a = none) :
    ofAnswered cursor a = brokenOff := by
  unfold ofAnswered
  rw [h]

lemma ofAnswered_of_some {cursor : Cursor} {a : Answered} {entries : List Entry}
    (h : Entry.ofAnswered a = some entries) :
    ofAnswered cursor a = on (cursor.advance (.settled entries.length)) false entries := by
  unfold ofAnswered
  rw [h]

end ConsumerPlace

/-- Whether the server has taken an acknowledgement. -/
def Consumer.tookAck (a : Answered) : Bool :=
  match a with
  | .ok reply => (reply.number .int64).isOk
  | .error _ => false

section Consume

variable (c : Consumer)

/-- **The course of a consumer.** -/
def consumerCourse : Course ConsumerInterface ConsumerPlace where
  may
    | .starting, op => op = .stopping ∨ op = .command c.createGroup ∨ op = .command c.listPending ∨
        ∃ id, op = .command (c.claim id)
    | .turning _, op => op = .stopping
    | .reading cursor, op => op = .command (c.read cursor)
    | .applying _ _ _ o _, op => op = .apply o
    | .acknowledging _ _ e _, op => op = .command (c.acknowledge e.id)
    | .brokenOff, op => op = .command c.createGroup ∨ op = .pause Consumer.retryPause
    | .pausing, op => op = .pause Consumer.retryPause
    | .stopped, _ => False
  next
    | .starting, .stopping, stop => if stop then .stopped else .reading .backlog
    | .turning cursor, .stopping, stop => if stop then .stopped else .reading cursor
    | .reading cursor, .command _, a => .ofAnswered cursor a
    | .applying home left e _ es, .apply _, r => .disposed home left e es (.ofApply r)
    | .acknowledging home left _ es, .command _, a =>
      if Consumer.tookAck a then .on home left es else .brokenOff
    | .brokenOff, .pause _, _ => .turning .backlog
    | .pausing, .pause _, _ => .turning .backlog
    | p, _, _ => p

variable {c}

/-! ### Commands -/

namespace Consumer

lemma read_inj {cursor cursor' : Cursor} : c.read cursor = c.read cursor' ↔ cursor = cursor' := by
  refine ⟨fun h => ?_, fun h => h ▸ rfl⟩
  cases cursor <;> cases cursor' <;> first | rfl | simp [read, Cursor.start] at h

lemma acknowledge_inj {id id' : String} : c.acknowledge id = c.acknowledge id' ↔ id = id' := by
  simp [acknowledge]

lemma read_ne_acknowledge {cursor : Cursor} {id : String} : c.read cursor ≠ c.acknowledge id := by
  simp [read, acknowledge]

/-- Only a place that reads allows a read. -/
lemma eq_reading_of_may {p : ConsumerPlace} {cursor : Cursor}
    (h : (consumerCourse c).may p (.command (c.read cursor))) : p = .reading cursor := by
  cases p with
  | starting =>
    rcases h with h | h | h | ⟨id, h⟩
    all_goals simp [read, createGroup, listPending, claim] at h
  | reading cursor' => rw [read_inj.1 (ConsumerCall.command.inj h)]
  | acknowledging home left e es => exact absurd (ConsumerCall.command.inj h) read_ne_acknowledge
  | brokenOff =>
    rcases h with h | h
    all_goals simp [read, createGroup] at h
  | turning | applying | pausing => cases h
  | stopped => exact h.elim

lemma exists_acknowledging_of_may {p : ConsumerPlace} {id : String}
    (h : (consumerCourse c).may p (.command (c.acknowledge id))) :
    ∃ home left e es, p = .acknowledging home left e es ∧ e.id = id := by
  cases p with
  | starting =>
    rcases h with h | h | h | ⟨id, h⟩
    all_goals simp [acknowledge, createGroup, listPending, claim] at h
  | reading cursor => exact absurd (ConsumerCall.command.inj h).symm read_ne_acknowledge
  | acknowledging home left e es =>
    exact ⟨home, left, e, es, rfl, (acknowledge_inj.1 (ConsumerCall.command.inj h)).symm⟩
  | brokenOff =>
    rcases h with h | h
    all_goals simp [acknowledge, createGroup] at h
  | turning | applying | pausing => cases h
  | stopped => exact h.elim

end Consumer

/-! ### One batch -/

lemma process_eq (e : Entry) : Consumer.process e =
    match e.outcome? with
    | none => .done .acknowledge
    | some o => .ask (.apply o) fun r => .done (.ofApply r) := by
  unfold Consumer.process Entry.outcome?
  rcases e.payload with _ | p
  · rfl
  rcases hd : Decoder.decode Outcome.decoder (Utf8.encode p) with f | o
  · simp only [hd, Option.bind_some]
    rfl
  · simp only [hd, Option.bind_some]
    rfl

lemma keeps_process (home : Cursor) (left : Bool) (e : Entry) (es : List Entry) :
    (Consumer.process e).Keeps (consumerCourse c) (fun q d => q = .disposed home left e es d)
      (.on home left (e :: es)) := by
  rw [process_eq, ConsumerPlace.on]
  rcases e.outcome? with _ | o
  · rfl
  · exact ⟨rfl, fun _ => rfl⟩

/-- Where the entries of a batch lead. -/
def batchEnds (home : Cursor) (left : Bool) : ConsumerPlace → Except String Bool → Prop
  | q, .error _ => q = .brokenOff
  | q, .ok b => q = .on home (left || b) []

/-- Where a batch that was read leads. -/
def batchOver (cursor : Cursor) : ConsumerPlace → Except String BatchEnd → Prop
  | q, .error _ => q = .over cursor .failed
  | q, .ok ended => q = .over cursor ended

lemma keeps_processAll (home : Cursor) (left : Bool) (es : List Entry) :
    (c.processAll es).run.Keeps (consumerCourse c) (batchEnds home left) (.on home left es) := by
  induction es generalizing left with
  | nil =>
    show ConsumerPlace.on home left [] = .on home (left || false) []
    rw [Bool.or_false]
  | cons e es ih =>
    have hprocess : (ExceptT.lift (Consumer.process e) : Consuming Disposition).run.Keeps
        (consumerCourse c) (Program.orEnds (batchEnds home left)
          fun q d => q = .disposed home left e es d) (.on home left (e :: es)) :=
      (keeps_process home left e es).bind fun q d hq => hq
    refine Program.Keeps.bind_run hprocess fun q d hq => ?_
    subst hq
    rcases d with _ | _
    · refine ⟨rfl, fun a => ?_⟩
      rcases a with text | reply
      · rfl
      show Program.Keeps (consumerCourse c) (batchEnds home left)
        ((ExceptT.mk (pure (reply.number .int64)) : Consuming Int) >>= fun _ => c.processAll es).run
        (if (reply.number .int64).isOk then .on home left es else .brokenOff)
      rcases reply.number .int64 with text | n
      · rfl
      · exact ih left
    · have hrest : (c.processAll es).run.Keeps (consumerCourse c)
          (Program.orEnds (batchEnds home left) fun q b => q = .on home true [])
          (.on home true es) := by
        refine (ih true).mono fun q r hq => ?_
        rcases r with text | b
        · exact hq
        · exact hq
      exact Program.Keeps.bind_run hrest fun q b hq => by
        show q = .on home (left || true) []
        rw [hq, Bool.or_true]

lemma keeps_batch (cursor : Cursor) :
    (c.batch cursor).run.Keeps (consumerCourse c) (batchOver cursor) (.reading cursor) := by
  have hread : (Consumer.send (c.read cursor)).run.Keeps (consumerCourse c)
      (Program.orEnds (batchOver cursor) fun q reply => q = .ofAnswered cursor (.ok reply))
      (.reading cursor) := by
    refine ⟨rfl, fun a => ?_⟩
    rcases a with text | reply
    · rfl
    · rfl
  unfold Consumer.batch
  refine Program.Keeps.bind_run hread ?_
  rintro _ reply rfl
  have hanswered : Entry.ofAnswered (.ok reply) = (Entry.ofRead reply).toOption := rfl
  rcases hentries : Entry.ofRead reply with f | entries
  · rw [hentries] at hanswered
    rw [ConsumerPlace.ofAnswered_of_none hanswered]
    rfl
  rw [hentries] at hanswered
  rw [ConsumerPlace.ofAnswered_of_some hanswered]
  have hall : (c.processAll entries).run.Keeps (consumerCourse c)
      (Program.orEnds (batchOver cursor)
        fun q b => q = .on (cursor.advance (.settled entries.length)) b [])
      (.on (cursor.advance (.settled entries.length)) false entries) := by
    refine (keeps_processAll _ false entries).mono fun q r hq => ?_
    rcases r with text | b
    · exact hq
    · exact hq
  refine Program.Keeps.bind_run hall fun q b hq => ?_
  rw [hq]
  cases b <;> rfl

/-! ### Rounds -/

lemma keeps_ensureGroup {p : ConsumerPlace}
    (hmay : (consumerCourse c).may p (.command c.createGroup))
    (hnext : ∀ a, (consumerCourse c).next p (.command c.createGroup) a = p) :
    c.ensureGroup.run.Keeps (consumerCourse c) (fun q _ => q = p) p := by
  refine ⟨hmay, fun a => ?_⟩
  rw [hnext]
  rcases a with text | reply
  · show Program.Keeps _ _ (ite _ _ _) p
    split
    · rfl
    · rfl
  · rfl

lemma keeps_round (cursor : Cursor) :
    (c.round cursor).Keeps (consumerCourse c) (fun q next => q = .turning next)
      (.reading cursor) := by
  have hfinish : ∀ ended : BatchEnd, (if ended.pauses then
        (Program.call (I := ConsumerInterface) (.pause Consumer.retryPause)).bind fun _ =>
          .done (cursor.advance ended)
      else .done (cursor.advance ended)).Keeps (consumerCourse c) (fun q next => q = .turning next)
        (.over cursor ended) := by
    intro ended
    cases ended with
    | settled n => rfl
    | retry => exact ⟨rfl, fun _ => rfl⟩
    | failed => exact ⟨.inr rfl, fun _ => rfl⟩
  refine (keeps_batch cursor).bind fun q r hq => ?_
  rcases r with text | ended
  · obtain rfl : q = .over cursor .failed := hq
    show Program.Keeps _ _ (ite _ _ _) _
    split
    · have hgroup := keeps_ensureGroup (c := c) (p := .brokenOff) (.inl rfl) fun _ => rfl
      exact hgroup.bind fun q _ hq => hq ▸ hfinish .failed
    · exact hfinish .failed
  · obtain rfl : q = .over cursor ended := hq
    exact hfinish ended

lemma keeps_rounds (n : Nat) (cursor : Cursor) :
    (c.rounds n cursor).Keeps (consumerCourse c) (fun _ _ => True) (.turning cursor) := by
  induction n generalizing cursor with
  | zero => trivial
  | succ n ih =>
    refine ⟨rfl, fun stop => ?_⟩
    cases stop with
    | true => trivial
    | false => exact (keeps_round cursor).bind fun q next hq => hq ▸ ih next

lemma keeps_rounds_starting (n : Nat) :
    (c.rounds n .backlog).Keeps (consumerCourse c) (fun _ _ => True) .starting := by
  cases n with
  | zero => trivial
  | succ n =>
    refine ⟨.inl rfl, fun stop => ?_⟩
    cases stop with
    | true => trivial
    | false => exact (keeps_round .backlog).bind fun q next hq => hq ▸ keeps_rounds n next

lemma keeps_claimAll (es : List PendingEntry) :
    (c.claimAll es).run.Keeps (consumerCourse c) (fun q _ => q = .starting) .starting := by
  induction es with
  | nil => rfl
  | cons e es ih =>
    show Program.Keeps _ _ (ExceptT.run (ite _ _ _)) _
    split
    · refine ⟨.inr (.inr (.inr ⟨e.id, rfl⟩)), fun a => ?_⟩
      rcases a with text | reply
      · rfl
      · exact ih
    · exact ih

lemma keeps_claimAbandoned :
    c.claimAbandoned.run.Keeps (consumerCourse c) (fun q _ => q = .starting) .starting := by
  refine ⟨.inr (.inr (.inl rfl)), fun a => ?_⟩
  rcases a with text | reply
  · rfl
  show Program.Keeps _ _ (ExceptT.run (ExceptT.mk (pure (PendingEntry.ofReply reply)) >>= _)) _
  rcases PendingEntry.ofReply reply with text | es
  · rfl
  · exact keeps_claimAll es

theorem keeps_run (n : Nat) :
    (c.run n).Keeps (consumerCourse c) (fun _ _ => True) .starting := by
  have hgroup := keeps_ensureGroup (c := c) (p := .starting) (.inr (.inl rfl)) fun _ => rfl
  refine hgroup.bind fun q r hq => ?_
  subst hq
  rcases r with text | _
  · trivial
  refine keeps_claimAbandoned.bind fun q _ hq => ?_
  subst hq
  refine Program.Keeps.bind (fun _ _ _ => ?_) (keeps_rounds_starting n)
  trivial

end Consume

/-- A consumer of results. -/
def Consumer.someConsumer : Consumer := ⟨"results", "judges", "first"⟩

end Arbiter
