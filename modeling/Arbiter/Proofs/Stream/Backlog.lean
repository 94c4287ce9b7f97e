import Arbiter.Proofs.Program.Log
import Arbiter.Proofs.Stream.ConsumerCourse

/-!
When a consumer reads new entries. It does so only where nothing that it read before is left behind:
its backlog was found empty, and each entry that it got was acknowledged since, or the backlog was
found empty since. After a batch that broke off or left an entry to be delivered again, it pauses
and reads its backlog (`fresh_read_leaves_nothing_behind`). What is known of the log at each place
of the consumer's course (`Known`) is kept by every step (`preserves_known`).
-/

namespace Arbiter

namespace Consumer

variable (c : Consumer)

/-! ### What a log shows -/

def IsRead (x : Exchange ConsumerInterface) : Prop := ∃ cursor, x.op = .command (c.read cursor)

/-- The consumer's backlog is found empty. -/
def Drains (x : Exchange ConsumerInterface) : Prop :=
  ∃ a, x = ⟨.command (c.read .backlog), a⟩ ∧ Entry.ofAnswered a = some []

/-- The entry is acknowledged, or the consumer's backlog is found empty. -/
def Settles (e : Entry) (x : Exchange ConsumerInterface) : Prop :=
  (∃ a, x = ⟨.command (c.acknowledge e.id), a⟩ ∧ tookAck a = true) ∨ c.Drains x

/-- All entries that were read are settled since, but for some. -/
def SettledBut (es : List Entry) (log : List (Exchange ConsumerInterface)) : Prop :=
  ∀ {before cursor a rest entries}, log = before ++ ⟨.command (c.read cursor), a⟩ :: rest →
    Entry.ofAnswered a = some entries → ∀ e ∈ entries, e ∈ es ∨ ∃ y ∈ rest, c.Settles e y

/-- A batch is broken off, or an entry is to be delivered again. -/
def LeavesBehind (x : Exchange ConsumerInterface) : Prop :=
  (∃ cursor a, x = ⟨.command (c.read cursor), a⟩ ∧ Entry.ofAnswered a = none) ∨
    (∃ id a, x = ⟨.command (c.acknowledge id), a⟩ ∧ tookAck a = false) ∨
    ∃ o f, x = ⟨.apply o, .error f⟩ ∧ f.isRetryable = true

/-- The last batch was broken off, or left an entry to be delivered again. -/
def LeftBehind (log : List (Exchange ConsumerInterface)) : Prop :=
  ∃ before x mid, log = before ++ x :: mid ∧ c.IsRead x ∧ (∀ y ∈ mid, ¬ c.IsRead y) ∧
    ∃ y ∈ x :: mid, c.LeavesBehind y

variable {c} {log : List (Exchange ConsumerInterface)} {y : Exchange ConsumerInterface}

/-! ### Commands -/

lemma command_inj {words words' : Command} {a a' : Answered} :
    (⟨.command words, a⟩ : Exchange ConsumerInterface) = ⟨.command words', a'⟩ ↔
      words = words' ∧ a = a' := by
  constructor
  · intro h
    cases h
    exact ⟨rfl, rfl⟩
  · rintro ⟨rfl, rfl⟩
    rfl

lemma not_isRead_command {words : Command} {a : Answered} (h : words.head? ≠ some "XREADGROUP") :
    ¬ c.IsRead ⟨.command words, a⟩ := by
  rintro ⟨cursor, hop⟩
  obtain rfl : words = c.read cursor := ConsumerCall.command.inj hop
  exact h rfl

lemma not_isRead_stopping {b : Bool} : ¬ c.IsRead ⟨.stopping, b⟩ := by
  rintro ⟨cursor, h⟩
  cases h

lemma not_isRead_apply {o : Outcome} {r : Except ApplyFailure Applied} :
    ¬ c.IsRead ⟨.apply o, r⟩ := by
  rintro ⟨cursor, h⟩
  cases h

lemma not_leavesBehind_stopping {b : Bool} : ¬ c.LeavesBehind ⟨.stopping, b⟩ := by
  rintro (⟨_, _, h, -⟩ | ⟨_, _, h, -⟩ | ⟨_, _, h, -⟩) <;> cases h

lemma not_leavesBehind_apply {o : Outcome} {r : Except ApplyFailure Applied}
    (hr : Disposition.ofApply r = .acknowledge) : ¬ c.LeavesBehind ⟨.apply o, r⟩ := by
  rintro (⟨_, _, h, -⟩ | ⟨_, _, h, -⟩ | ⟨_, f, h, hf⟩)
  · cases h
  · cases h
  · cases h
    rw [Disposition.ofApply, if_pos hf] at hr
    cases hr

/-! ### One more exchange -/

lemma unread_snoc (h : ∀ z ∈ log, ¬ c.IsRead z) (hy : ¬ c.IsRead y) :
    ∀ z ∈ log ++ [y], ¬ c.IsRead z :=
  List.forall_mem_append.2 ⟨h, List.forall_mem_singleton.2 hy⟩

/-- Where an exchange stands in a log with one more at the end. -/
lemma snoc_eq_append_cons {before rest : List (Exchange ConsumerInterface)}
    {x : Exchange ConsumerInterface} (h : log ++ [y] = before ++ x :: rest) :
    (rest = [] ∧ log = before ∧ y = x) ∨ ∃ mid, rest = mid ++ [y] ∧ log = before ++ x :: mid := by
  rcases rest.eq_nil_or_concat with rfl | ⟨mid, z, rfl⟩
  · obtain ⟨hlog, hy⟩ := List.append_inj' h rfl
    exact .inl ⟨rfl, hlog, List.singleton_inj.1 hy⟩
  · rw [List.concat_eq_append, ← List.cons_append, ← List.append_assoc] at h
    obtain ⟨hlog, hy⟩ := List.append_inj' h rfl
    obtain rfl := List.singleton_inj.1 hy
    exact .inr ⟨mid, List.concat_eq_append, hlog⟩

lemma SettledBut.snoc {es : List Entry} (h : c.SettledBut es log) (hy : ¬ c.IsRead y) :
    c.SettledBut es (log ++ [y]) := by
  intro before cursor a rest entries hlog ha e he
  rcases snoc_eq_append_cons hlog with ⟨rfl, rfl, rfl⟩ | ⟨mid, rfl, hold⟩
  · exact absurd ⟨cursor, rfl⟩ hy
  · refine (h hold ha e he).imp_right ?_
    rintro ⟨z, hz, hsettles⟩
    exact ⟨z, List.mem_append_left _ hz, hsettles⟩

lemma SettledBut.acknowledged {e : Entry} {es : List Entry} (h : c.SettledBut (e :: es) log)
    {a : Answered} (ha : tookAck a = true) :
    c.SettledBut es (log ++ [⟨.command (c.acknowledge e.id), a⟩]) := by
  intro before cursor a' rest entries hlog ha' e' he'
  rcases snoc_eq_append_cons hlog with ⟨rfl, rfl, hread⟩ | ⟨mid, rfl, hold⟩
  · exact absurd (command_inj.1 hread).1.symm read_ne_acknowledge
  rcases h hold ha' e' he' with hmem | ⟨z, hz, hsettles⟩
  · rcases List.mem_cons.1 hmem with rfl | hmem
    · exact .inr ⟨_, List.mem_append_right _ (List.mem_singleton_self _), .inl ⟨a, rfl, ha⟩⟩
    · exact .inl hmem
  · exact .inr ⟨z, List.mem_append_left _ hz, hsettles⟩

/-- What is read is to be settled, and all else was. -/
lemma SettledBut.read (h : c.SettledBut [] log) {cursor : Cursor} {a : Answered}
    {entries : List Entry} (ha : Entry.ofAnswered a = some entries) :
    c.SettledBut entries (log ++ [⟨.command (c.read cursor), a⟩]) := by
  intro before cursor' a' rest entries' hlog ha' e he
  rcases snoc_eq_append_cons hlog with ⟨rfl, rfl, hread⟩ | ⟨mid, rfl, hold⟩
  · obtain ⟨-, rfl⟩ := command_inj.1 hread
    rw [ha] at ha'
    cases ha'
    exact .inl he
  · rcases h hold ha' e he with hmem | ⟨z, hz, hsettles⟩
    · cases hmem
    · exact .inr ⟨z, List.mem_append_left _ hz, hsettles⟩

/-- Once the backlog is found empty, all is settled. -/
lemma settledBut_of_drains (hy : c.Drains y) (log : List (Exchange ConsumerInterface)) :
    c.SettledBut [] (log ++ [y]) := by
  intro before cursor a rest entries hlog ha e he
  rcases snoc_eq_append_cons hlog with ⟨rfl, rfl, rfl⟩ | ⟨mid, rfl, hlog⟩
  · obtain ⟨a', hread, ha'⟩ := hy
    obtain ⟨-, rfl⟩ := command_inj.1 hread
    rw [ha] at ha'
    cases ha'
    cases he
  · exact .inr ⟨y, List.mem_append_right _ (List.mem_singleton_self _), .inr hy⟩

lemma LeftBehind.of_snoc (h : c.LeftBehind (log ++ [y])) (hy : ¬ c.LeavesBehind y) :
    c.LeftBehind log := by
  obtain ⟨before, x, rest, hlog, hx, hrest, z, hz, hleaves⟩ := h
  have hne : z ≠ y := by
    rintro rfl
    exact hy hleaves
  rcases snoc_eq_append_cons hlog with ⟨rfl, rfl, rfl⟩ | ⟨mid, rfl, rfl⟩
  · exact absurd (List.mem_singleton.1 hz) hne
  · have hmid := fun w hw => hrest w (List.mem_append_left [y] hw)
    refine ⟨before, x, mid, rfl, hx, hmid, z, ?_, hleaves⟩
    rcases List.mem_cons.1 hz with rfl | hz
    · exact List.mem_cons_self
    · rcases List.mem_append.1 hz with hz | hz
      · exact List.mem_cons_of_mem _ hz
      · exact absurd (List.mem_singleton.1 hz) hne

lemma not_leftBehind_read {cursor : Cursor} {a : Answered} {entries : List Entry}
    (ha : Entry.ofAnswered a = some entries) :
    ¬ c.LeftBehind (log ++ [⟨.command (c.read cursor), a⟩]) := by
  rintro ⟨before, x, rest, hlog, hx, hrest, z, hz, hleaves⟩
  rcases snoc_eq_append_cons hlog with ⟨rfl, rfl, rfl⟩ | ⟨mid, rfl, rfl⟩
  · rw [List.mem_singleton.1 hz] at hleaves
    rcases hleaves with ⟨_, a', hread, ha'⟩ | ⟨_, _, hread, -⟩ | ⟨_, _, hread, -⟩
    · rw [(command_inj.1 hread).2, ha'] at ha
      cases ha
    · exact read_ne_acknowledge (command_inj.1 hread).1
    · cases hread
  · exact hrest _ (List.mem_append_right _ (List.mem_singleton_self _)) ⟨cursor, rfl⟩

/-! ### What is known at each place -/

section Known

variable (c)

/-- In a batch from which nothing was left yet: where new entries are read next, all but the
entries to come is settled. -/
def Working (home : Cursor) (left : Bool) (es : List Entry)
    (log : List (Exchange ConsumerInterface)) : Prop :=
  left = false →
    (home = .fresh → (∃ y ∈ log, c.Drains y) ∧ c.SettledBut es log) ∧ ¬ c.LeftBehind log

/-- Where the consumer reads on, as some last steps have led there. -/
def ReadsOn (cursor : Cursor) (last : List (Exchange ConsumerInterface))
    (log : List (Exchange ConsumerInterface)) : Prop :=
  (cursor = .fresh → (∃ y ∈ log, c.Drains y) ∧ c.SettledBut [] log) ∧
    (c.LeftBehind log → cursor = .backlog ∧ last <:+ log)

/-- What is known of the log at each place. -/
def Known : ConsumerPlace → List (Exchange ConsumerInterface) → Prop
  | .starting, log => ∀ y ∈ log, ¬ c.IsRead y
  | .turning cursor, log => c.ReadsOn cursor [⟨.pause 1000, ()⟩] log
  | .reading cursor, log => c.ReadsOn cursor [⟨.pause 1000, ()⟩, ⟨.stopping, false⟩] log
  | .applying home left e _ es, log => c.Working home left (e :: es) log
  | .acknowledging home left e es, log => c.Working home left (e :: es) log
  | .brokenOff, _ => True
  | .pausing, _ => True
  | .stopped, _ => True

end Known

lemma Working.known_on {home : Cursor} {left : Bool} {es : List Entry}
    (h : c.Working home left es log) : c.Known (.on home left es) log := by
  cases es with
  | nil =>
    cases left with
    | false => exact ⟨(h rfl).1, fun hleft => absurd hleft (h rfl).2⟩
    | true => trivial
  | cons e es =>
    rcases ho : e.outcome? with _ | o
    · rw [ConsumerPlace.on_of_none ho]
      exact h
    · rw [ConsumerPlace.on_of_some ho]
      exact h

lemma Working.snoc {home : Cursor} {left : Bool} {es : List Entry}
    (h : c.Working home left es log) (hread : ¬ c.IsRead y) (hleaves : ¬ c.LeavesBehind y) :
    c.Working home left es (log ++ [y]) := by
  intro hleft
  obtain ⟨hfresh, hnot⟩ := h hleft
  refine ⟨fun hhome => ?_, fun hbehind => hnot (hbehind.of_snoc hleaves)⟩
  obtain ⟨⟨z, hz, hdrains⟩, hsettled⟩ := hfresh hhome
  exact ⟨⟨z, List.mem_append_left _ hz, hdrains⟩, hsettled.snoc hread⟩

lemma Working.acknowledged {home : Cursor} {left : Bool} {e : Entry} {es : List Entry}
    (h : c.Working home left (e :: es) log) {a : Answered} (ha : tookAck a = true) :
    c.Working home left es (log ++ [⟨.command (c.acknowledge e.id), a⟩]) := by
  intro hleft
  obtain ⟨hfresh, hnot⟩ := h hleft
  refine ⟨fun hhome => ?_, fun hbehind => hnot (hbehind.of_snoc ?_)⟩
  · obtain ⟨⟨z, hz, hdrains⟩, hsettled⟩ := hfresh hhome
    exact ⟨⟨z, List.mem_append_left _ hz, hdrains⟩, hsettled.acknowledged ha⟩
  · rintro (⟨_, _, hop, -⟩ | ⟨_, a', hop, ha'⟩ | ⟨_, _, hop, -⟩)
    · exact read_ne_acknowledge (command_inj.1 hop).1.symm
    · rw [(command_inj.1 hop).2, ha'] at ha
      cases ha
    · cases hop

lemma ReadsOn.working {cursor : Cursor} {last : List (Exchange ConsumerInterface)}
    (h : c.ReadsOn cursor last log) {a : Answered} {entries : List Entry}
    (ha : Entry.ofAnswered a = some entries) :
    c.Working (cursor.advance (.settled entries.length)) false entries
      (log ++ [⟨.command (c.read cursor), a⟩]) := by
  refine fun _ => ⟨fun hhome => ?_, not_leftBehind_read ha⟩
  cases cursor with
  | fresh =>
    obtain ⟨⟨z, hz, hdrains⟩, hsettled⟩ := h.1 rfl
    exact ⟨⟨z, List.mem_append_left _ hz, hdrains⟩, hsettled.read ha⟩
  | backlog =>
    cases entries with
    | nil =>
      have hdrains : c.Drains ⟨.command (c.read .backlog), a⟩ := ⟨a, rfl, ha⟩
      exact ⟨⟨_, List.mem_append_right _ (List.mem_singleton_self _), hdrains⟩,
        settledBut_of_drains hdrains log⟩
    | cons e es => cases hhome

/-- A consumer that has paused reads its backlog. -/
lemma readsOn_paused (log : List (Exchange ConsumerInterface)) :
    c.ReadsOn .backlog [⟨.pause 1000, ()⟩] (log ++ [⟨.pause 1000, ()⟩]) := by
  refine ⟨fun h => ?_, fun _ => ⟨rfl, List.suffix_append ..⟩⟩
  cases h

lemma ReadsOn.going {cursor : Cursor} (h : c.ReadsOn cursor [⟨.pause 1000, ()⟩] log) :
    c.ReadsOn cursor [⟨.pause 1000, ()⟩, ⟨.stopping, false⟩] (log ++ [⟨.stopping, false⟩]) := by
  constructor
  · intro hcursor
    obtain ⟨⟨z, hz, hdrains⟩, hsettled⟩ := h.1 hcursor
    exact ⟨⟨z, List.mem_append_left _ hz, hdrains⟩, hsettled.snoc not_isRead_stopping⟩
  · intro hbehind
    obtain ⟨hcursor, before, rfl⟩ := h.2 (hbehind.of_snoc not_leavesBehind_stopping)
    exact ⟨hcursor, before, List.append_cons before _ _⟩

lemma readsOn_start (h : ∀ y ∈ log, ¬ c.IsRead y) (last : List (Exchange ConsumerInterface)) :
    c.ReadsOn .backlog last log := by
  refine ⟨fun hfresh => ?_, ?_⟩
  · cases hfresh
  · rintro ⟨before, x, mid, rfl, hx, -⟩
    exact absurd hx (h x (List.mem_append_right _ List.mem_cons_self))

theorem preserves_known : (consumerCourse c).Preserves c.Known := by
  intro p log op hp hop r
  cases p with
  | starting =>
    rcases hop with rfl | rfl | rfl | ⟨id, rfl⟩
    · cases r with
      | true => trivial
      | false => exact readsOn_start (unread_snoc hp not_isRead_stopping) _
    · exact unread_snoc hp (not_isRead_command (by simp [createGroup]))
    · exact unread_snoc hp (not_isRead_command (by simp [listPending]))
    · exact unread_snoc hp (not_isRead_command (by simp [claim]))
  | turning cursor =>
    obtain rfl : op = .stopping := hop
    cases r with
    | true => trivial
    | false => exact ReadsOn.going hp
  | reading cursor =>
    obtain rfl : op = .command (c.read cursor) := hop
    show c.Known (.ofAnswered cursor r) _
    rcases ha : Entry.ofAnswered r with _ | entries
    · rw [ConsumerPlace.ofAnswered_of_none ha]
      trivial
    · rw [ConsumerPlace.ofAnswered_of_some ha]
      exact (ReadsOn.working hp ha).known_on
  | applying home left e o es =>
    obtain rfl : op = .apply o := hop
    show c.Known (.disposed home left e es (.ofApply r)) _
    rcases hr : Disposition.ofApply r with _ | _
    · exact Working.snoc hp not_isRead_apply (not_leavesBehind_apply hr)
    · -- the entry is left, so the next batch is one of the backlog
      exact Working.known_on fun h => by cases h
  | acknowledging home left e es =>
    obtain rfl : op = .command (c.acknowledge e.id) := hop
    show c.Known (if tookAck r then _ else _) _
    split
    · rename_i ha
      exact (Working.acknowledged hp ha).known_on
    · trivial
  | brokenOff =>
    rcases hop with rfl | rfl
    · trivial
    · exact readsOn_paused log
  | pausing =>
    obtain rfl : op = .pause 1000 := hop
    exact readsOn_paused log
  | stopped => exact hop.elim

/-- **New entries are read only when nothing that was read is left behind.** Whatever a consumer is
answered, when it reads new entries, its backlog was found empty before, and each entry that it got
was acknowledged since then, or the backlog was found empty since then. When the last batch broke
off or left an entry to be delivered again, it reads its backlog, and has paused for a second. -/
theorem fresh_read_leaves_nothing_behind (c : Consumer) (n : Nat)
    {log : List (Exchange ConsumerInterface)} {cursor : Cursor}
    {next : Answered → Program ConsumerInterface (Except String Unit)}
    (h : (c.run n).Leads log (.ask (.command (c.read cursor)) next)) :
    (cursor = .fresh →
      (∃ a, ⟨.command (c.read .backlog), a⟩ ∈ log ∧ Entry.ofAnswered a = some []) ∧
      ∀ before cursor' a rest entries, log = before ++ ⟨.command (c.read cursor'), a⟩ :: rest →
        Entry.ofAnswered a = some entries → ∀ e ∈ entries, ∃ y ∈ rest, c.Settles e y) ∧
    (c.LeftBehind log → cursor = .backlog ∧
      ∃ before, log = before ++ [⟨.pause 1000, ()⟩, ⟨.stopping, false⟩]) := by
  have hstart : c.Known .starting [] := fun y hy => by cases hy
  obtain ⟨p, hkeeps, hknown⟩ := (keeps_run n).exists_place preserves_known hstart h
  obtain rfl := eq_reading_of_may hkeeps.1
  obtain ⟨hfresh, hbehind⟩ := hknown
  refine ⟨fun hcursor => ?_, fun hleft => ?_⟩
  · obtain ⟨⟨y, hy, a, rfl, ha⟩, hsettled⟩ := hfresh hcursor
    refine ⟨⟨a, hy, ha⟩, fun before cursor' a' rest entries hlog ha' e he => ?_⟩
    rcases hsettled hlog ha' e he with hmem | hsettles
    · cases hmem
    · exact hsettles
  · obtain ⟨hcursor, before, hlog⟩ := hbehind hleft
    exact ⟨hcursor, before, hlog.symm⟩

/-- An answer with one entry, which has no message. -/
def oneEntry : Answered :=
  .ok (.array [.array [.bulk (Utf8.encode "results"), .array [.array [.bulk (Utf8.encode "1-0")]]]])

/-- A consumer starts, and is to read its backlog. -/
def startLog : List (Exchange ConsumerInterface) :=
  [⟨.command someConsumer.createGroup, .ok .okay⟩,
    ⟨.command someConsumer.listPending, .ok .nil⟩, ⟨.stopping, false⟩]

/-- The entry is acknowledged, and the backlog is found empty. -/
def emptyingLog : List (Exchange ConsumerInterface) :=
  [⟨.command (someConsumer.acknowledge "1-0"), .ok (.int 1)⟩, ⟨.stopping, false⟩,
    ⟨.command (someConsumer.read .backlog), .ok .nil⟩, ⟨.stopping, false⟩]

theorem fresh_read_leaves_nothing_behind_one :
    ∃ y ∈ emptyingLog, someConsumer.Settles ⟨"1-0", none⟩ y := by
  have hleads : (someConsumer.run 3).Leads
      (startLog ++ ⟨.command (someConsumer.read .backlog), oneEntry⟩ :: emptyingLog)
      (.ask (.command (someConsumer.read .fresh)) _) :=
    .ask (.ask (.ask (.ask (.ask (.ask (.ask (.ask (.here _))))))))
  have h := (fresh_read_leaves_nothing_behind someConsumer 3 hleads).1 rfl
  exact h.2 startLog .backlog oneEntry emptyingLog [⟨"1-0", none⟩] rfl (by decide) _
    (List.mem_singleton_self _)

end Consumer

end Arbiter
