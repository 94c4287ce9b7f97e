import Arbiter.Proofs.Session.Calls
import Arbiter.Proofs.Session.Kept
import Arbiter.Proofs.Stream.Acknowledge
import Mathlib.Data.List.Nodup

/-!
Acknowledged entries in a session, with others at work on the store. What the store tells a consumer
about a submission was so at one moment since the entry was read, and what is final then is final
when the entry is acknowledged, unless a new submission has taken its place (`settled_of_vouches`,
`settled_of_mem_calls`). So no entry is acknowledged before its outcome is settled, and none that
the store has failed (`acknowledged_is_settled`). New submissions take the place of others only when
the ids run out, as in `spentStore`.
-/

namespace Arbiter

/-- The submission has the id and a verdict. -/
def Submission.IsFinalUnder (id : SubmissionId) (x : Submission) : Prop :=
  x.id = id ∧ x.status.isFinal = true

namespace Session

variable {s : Session} {i : Nat} {m : Move} {x : Exchange WorkInterface}

/-- **What the store vouches for.** The submission is gone at the moment of the call, or it is final
after it. -/
lemma settled_of_vouches {id : SubmissionId} (h : s.exchange? i m = some x) (hx : x.Vouches id) :
    s.store.find? id = none ∨ ∃ y, (s.step m).store.row? id = some y ∧ y.isPending = false := by
  obtain ⟨t, d, next, hmakes⟩ := makes_of_exchange? h
  rcases hx with rfl | ⟨y, hfinal, rfl⟩ | ⟨v, y, hfinal, rfl⟩
  · obtain ⟨hfind, -⟩ := hmakes.run_of_ok
    exact .inl (Except.ok.inj hfind)
  · obtain ⟨hfind, hstore⟩ := hmakes.run_of_ok
    rw [hstore]
    exact .inr ⟨y, (Store.find?_eq_some.1 (Except.ok.inj hfind)).1,
      Submission.isPending_eq_false.2 hfinal⟩
  · obtain ⟨-, hstore⟩ := hmakes.run_of_ok
    have hstore : (s.step m).store = (s.store.complete t.now id v).2 := hstore
    rcases Store.pending_or_not (s.store.find? id) with ⟨z, hz, hp⟩ | hnot
    · have hid : id = (z.judged v t.now).id := (Store.id_of_row? (Store.find?_eq_some.1 hz).1).symm
      rw [hstore, Store.complete_of_isPending hz hp, Store.row?_settle, if_pos hid]
      exact .inr ⟨_, rfl, Fate.isPending_judged hfinal t.now⟩
    · rw [hstore, Store.complete_of_not_isPending hnot]
      rcases hz : s.store.find? id with _ | z
      · exact .inl rfl
      · exact .inr ⟨z, (Store.find?_eq_some.1 hz).1, hnot z hz⟩

lemma settled_of_mem_calls (hs : s.IsFair) {ms : List Move} {id : SubmissionId}
    (hmem : x ∈ s.calls i ms) (hx : x.Vouches id) :
    (∃ m₁ m₂, ms = m₁ ++ m₂ ∧ (s.after m₁).store.find? id = none) ∨
      (s.Spares (Submission.IsFinalUnder id) ms →
        ∃ y, (s.after ms).store.row? id = some y ∧ y.status.isFinal = true) := by
  obtain ⟨log, log', hlog⟩ := List.append_of_mem hmem
  obtain ⟨m₁, m, m₂, hat, -, -⟩ := exists_callAt hlog
  rcases settled_of_vouches hat.call hx with hgone | ⟨y, hy, hp⟩
  · exact .inl ⟨m₁, m :: m₂, hat.split, hgone⟩
  · refine .inr fun hspares => ?_
    have hfinal := Submission.isPending_eq_false.1 hp
    rw [hat.split, spares_append] at hspares
    rw [hat.split, after_append, after_cons]
    exact ⟨y, row?_after_of_spared ((hs.after m₁).step m) hspares.2.2 hy hp
      ⟨Store.id_of_row? hy, hfinal⟩, hfinal⟩

/-- **No entry is acknowledged before it is settled.** Let no read give one id to two entries. When
a consumer acknowledges an entry, the last read has returned it; and its outcome, if it has one, is
pending, or names a submission that was not there at some moment since the read, or one that is
final now, if none that was created since the read took the place of a final one. As long as the ids
of a store that was filled from the empty one last, none takes a place. And when a call to the store
fails a consumer, the entry at hand is acknowledged nowhere in its batch. -/
theorem acknowledged_is_settled (s : Store) (i : Nat) (ms : List Move) {scoring : Scoring}
    {c : Consumer} {n : Nat} {w : Work Ended}
    (htask : ((opened s).after ms).tasks[i]? = some ⟨.consume scoring c n, w⟩)
    (hids : ∀ cursor a entries, ⟨.outer (.command (c.read cursor)), a⟩ ∈ (opened s).calls i ms →
      Entry.ofAnswered a = some entries → (entries.map (·.id)).Nodup) :
    (∀ before m rest id a,
      (opened s).CallAt i ms before m rest ⟨.outer (.command (c.acknowledge id)), a⟩ →
        ∃ b₁ m₀ b₂ cursor a₀ entries,
          (opened s).CallAt i before b₁ m₀ b₂ ⟨.outer (.command (c.read cursor)), a₀⟩ ∧
          (∀ x ∈ (((opened s).after b₁).step m₀).calls i b₂, ¬ c.Reads x) ∧
          Entry.ofAnswered a₀ = some entries ∧ (∃ e ∈ entries, e.id = id) ∧
          (∀ e ∈ entries, e.id = id → ∀ o, e.outcome? = some o →
            o.status = .pending ∨
            (∃ b₃ b₄, b₂ = b₃ ++ b₄ ∧
              ((opened s).after (b₁ ++ m₀ :: b₃)).store.find? o.submissionId = none) ∨
            ((((opened s).after b₁).step m₀).Spares (Submission.IsFinalUnder o.submissionId) b₂ →
              ∃ y, ((opened s).after before).store.row? o.submissionId = some y ∧
                y.status.isFinal = true)) ∧
          (s.Numbered → (opened s).Throughout Store.HasIds before →
            ∀ named, (((opened s).after b₁).step m₀).Spares (Submission.IsFinalUnder named) b₂)) ∧
    ∀ before cursor a entries m₁ call f m₂ rest,
      (opened s).calls i ms = before ++ ⟨.outer (.command (c.read cursor)), a⟩ ::
        (m₁ ++ ⟨.store call, .error f⟩ :: m₂) ++ rest →
      Entry.ofAnswered a = some entries → (∀ x ∈ m₁ ++ m₂, ¬ c.Reads x) →
        ∃ e o, entries[m₁.countP Exchange.concludes]? = some e ∧ e.outcome? = some o ∧
          ∀ a', ⟨.outer (.command (c.acknowledge e.id)), a'⟩ ∉ m₁ ++ m₂ := by
  have hleads := leads_calls s i ms htask
  constructor
  · intro before m rest id a hat
    rw [hat.calls_eq] at hleads hids
    obtain ⟨next, hnext⟩ := hleads.before
    -- the log shows the entry at hand, and what was told of its submission since the read
    obtain ⟨e, es, ⟨entries, since, hbatch, hdrop, hvouched⟩, rfl⟩ :=
      Consumer.acknowledge_of_leads hnext
    obtain ⟨log, cursor, a₀, hlog, ha₀⟩ := hbatch.read
    obtain ⟨b₁, m₀, b₂, hread, -, rfl⟩ := exists_callAt hlog
    have hfair : ((opened s).after b₁).IsFair := (isFair_opened s).after b₁
    have hmem : e ∈ entries := List.mem_of_mem_drop (hdrop ▸ List.mem_cons_self)
    refine ⟨b₁, m₀, b₂, cursor, a₀, entries, hread, hbatch.last, ha₀, ⟨e, hmem, rfl⟩, ?_, ?_⟩
    · intro e' he' hid o ho
      have hnodup := hids cursor a₀ entries
        (List.mem_append_left _ (hlog ▸ List.mem_append_right _ List.mem_cons_self)) ha₀
      obtain rfl := List.inj_on_of_nodup_map hnodup he' hmem hid
      refine (hvouched o ho).imp_right ?_
      rintro ⟨x, hx, hvouches⟩
      rw [hread.split]
      simp only [after_append, after_cons]
      exact settled_of_mem_calls (hfair.step m₀) hx hvouches
    · -- as long as ids last, new ones are above all that were given out
      intro hs hi named
      rw [hread.split, throughout_append] at hi
      exact (((sound_opened hs).after hi.1).spares _ hi.2).2
  · intro before cursor a entries m₁ call f m₂ rest hcalls ha hlast
    have hnodup := hids cursor a entries (by rw [hcalls]; simp) ha
    rw [hcalls] at hleads
    exact Consumer.not_acknowledged_of_failed hleads ha hnodup hlast

/-- A read that returns one entry. -/
def replyWith (e : Entry) : Answered :=
  .ok (.array [.array [.bulk (Utf8.encode "results"), .array [.array [.bulk (Utf8.encode e.id),
    .array [.bulk (Utf8.encode Entry.payloadField),
      .bulk (Utf8.encode (e.payload.getD ""))]]]]])

/-- A task's turn in which nothing fails and a command is answered so. -/
def answeringTurn (task : Nat) (a : Answered) : Turn :=
  ⟨task, ⟨0, 0⟩, none, fun
    | .enqueue _ => .ok ()
    | .command _ => a
    | .pause _ => ()
    | .now => ⟨0, 0⟩
    | .stopping => false⟩

/-- The command is sent, and its answer passes the test. -/
def sends (words : List String) (p : Answered → Bool) : Exchange WorkInterface → Bool
  | ⟨.outer (.command sent), a⟩ => sent == words && p a
  | _ => false

lemma eq_of_sends {words : List String} {p : Answered → Bool} {x : Exchange WorkInterface}
    (h : sends words p x = true) : ∃ a, x = ⟨.outer (.command words), a⟩ ∧ p a = true := by
  rcases x with ⟨call | call, a⟩
  · cases h
  · cases call with
    | command sent =>
      obtain ⟨hsent, hp⟩ := Bool.and_eq_true_iff.1 (show (sent == words && p a) = true from h)
      exact ⟨a, by rw [eq_of_beq hsent], hp⟩
    | _ => cases h

/-- An entry with an outcome of the first submission. -/
def acceptedEntry : Entry := ⟨"1-0", some "\x7b\"submissionId\":1,\"status\":\"ACCEPTED\"\x7d"⟩

/-- A submission is stored, and a consumer starts. -/
def consumerMoves : List Move :=
  submitMoves ++ [.turn (smoothTurn 0), .start (.consume reportedScore Consumer.someConsumer 1)]

/-- The submission's outcome is read, applied and acknowledged. -/
def deliveryMoves : List Move :=
  [.ok .okay, .ok .nil, .ok .nil, replyWith acceptedEntry, .ok .nil, .ok .nil, .ok .nil,
    .ok (.int 1)].map fun a => .turn (answeringTurn 1 a)

/-- An answer to a command that is a read returns the one entry. -/
def returnsAccepted : Exchange WorkInterface → Bool
  | ⟨.outer (.command words), a⟩ =>
    words.head? != some "XREADGROUP" || Entry.ofAnswered a == some [acceptedEntry]
  | _ => true

lemma ofAnswered_of_mem_deliveryCalls {cursor : Cursor} {a : Answered}
    (h : ⟨.outer (.command (Consumer.someConsumer.read cursor)), a⟩ ∈
      (opened smallStore).calls 1 (consumerMoves ++ deliveryMoves)) :
    Entry.ofAnswered a = some [acceptedEntry] := by
  have hall : ((opened smallStore).calls 1 (consumerMoves ++ deliveryMoves)).all
      returnsAccepted = true := by
    decide +kernel
  have hreturns := List.all_eq_true.1 hall _ h
  simpa [returnsAccepted, Consumer.read] using hreturns

theorem acknowledged_is_settled_accepted : ∃ before m rest a,
    (opened smallStore).CallAt 1 (consumerMoves ++ deliveryMoves) before m rest
      ⟨.outer (.command (Consumer.someConsumer.acknowledge "1-0")), a⟩ ∧
    ((∃ moves, ((opened smallStore).after moves).store.find? 1 = none) ∨
      ∃ y, ((opened smallStore).after before).store.row? 1 = some y ∧ y.status.isFinal = true) := by
  have hids : ∀ cursor a entries, ⟨.outer (.command (Consumer.someConsumer.read cursor)), a⟩ ∈
      (opened smallStore).calls 1 (consumerMoves ++ deliveryMoves) →
        Entry.ofAnswered a = some entries → (entries.map (·.id)).Nodup := by
    intro cursor a entries hmem ha
    rw [ofAnswered_of_mem_deliveryCalls hmem] at ha
    cases ha
    decide
  have hstarted : ((opened smallStore).after consumerMoves).tasks[1]? =
      some ⟨.consume reportedScore Consumer.someConsumer 1,
        (Duty.consume reportedScore Consumer.someConsumer 1).work⟩ := rfl
  obtain ⟨w, htask, -⟩ := leads_calls_of_task hstarted deliveryMoves
  rw [← after_append] at htask
  have h := (acknowledged_is_settled smallStore 1 (consumerMoves ++ deliveryMoves) htask hids).1
  have hany : ((opened smallStore).calls 1 (consumerMoves ++ deliveryMoves)).any
      (sends (Consumer.someConsumer.acknowledge "1-0") fun _ => true) = true := by
    decide +kernel
  obtain ⟨x, hmem, hsends⟩ := List.any_eq_true.1 hany
  obtain ⟨a, rfl, -⟩ := eq_of_sends hsends
  obtain ⟨log, log', hlog⟩ := List.append_of_mem hmem
  obtain ⟨before, m, rest, hat, -, -⟩ := exists_callAt hlog
  obtain ⟨b₁, m₀, b₂, cursor, a₀, entries, hread, -, ha₀, -, hall, hspares⟩ :=
    h before m rest "1-0" a hat
  have hmem₀ : ⟨.outer (.command (Consumer.someConsumer.read cursor)), a₀⟩ ∈
      (opened smallStore).calls 1 (consumerMoves ++ deliveryMoves) := by
    rw [hat.calls_eq, hread.calls_eq]
    exact List.mem_append_left _ (List.mem_append_right _ List.mem_cons_self)
  rw [ofAnswered_of_mem_deliveryCalls hmem₀] at ha₀
  cases ha₀
  have houtcome : acceptedEntry.outcome? = some ⟨1, .accepted, none, none, none, none, none⟩ := by
    decide +kernel
  have hthroughout : (opened smallStore).Throughout Store.HasIds
      (consumerMoves ++ deliveryMoves) := by
    decide +kernel
  rw [hat.split, throughout_append] at hthroughout
  refine ⟨before, m, rest, a, hat, ?_⟩
  rcases hall acceptedEntry (List.mem_singleton_self _) rfl _ houtcome with
    hpending | ⟨b₃, b₄, -, hgone⟩ | hfinal
  · cases hpending
  · exact .inl ⟨_, hgone⟩
  · exact .inr (hfinal (hspares (fun _ _ => rfl) hthroughout.1 1))

/-- Two submissions are pending, under the least id and under the greatest. -/
def spentStore : Store :=
  (smallStore.insertSubmission
    (.ofDraft Int64.minValue ⟨1, 0⟩ ⟨10, 1, "cpp", "x"⟩)).insertSubmission
    (.ofDraft Int64.maxValue ⟨1, 0⟩ ⟨10, 1, "cpp", "x"⟩)

/-- An entry with an outcome of the submission under the least id. -/
def leastEntry : Entry :=
  ⟨"1-0", some "\x7b\"submissionId\":-9223372036854775808,\"status\":\"ACCEPTED\"\x7d"⟩

/-- A consumer starts and comes to its first read; a submit is taken on as well. -/
def startingMoves : List Move :=
  [.start (.consume reportedScore Consumer.someConsumer 1),
    .start (.submit ⟨1, .user⟩ 10 "lean" "example")] ++
    [.ok .okay, .ok .nil, .ok .nil].map fun a => .turn (answeringTurn 0 a)

/-- The read returns the entry. -/
def readingMove : Move := .turn (answeringTurn 0 (replyWith leastEntry))

/-- The outcome is applied, and then a submission is created. -/
def overtakingMoves : List Move := [0, 0, 0, 1, 1, 1].map fun task => .turn (smoothTurn task)

/-- The entry is acknowledged. -/
def acknowledgingMove : Move := .turn (answeringTurn 0 (.ok (.int 1)))

/-- **An entry is acknowledged unsettled when the ids run out.** The submission that it names is
there from the read on, its verdict is stored, and then the next submission takes its place: it is
pending when the entry is acknowledged. -/
theorem acknowledged_unsettled : spentStore.Numbered ∧
    leastEntry.outcome? = some ⟨Int64.minValue, .accepted, none, none, none, none, none⟩ ∧
    ∃ a₀ a,
      (opened spentStore).CallAt 0 (startingMoves ++ readingMove :: overtakingMoves)
        startingMoves readingMove overtakingMoves
        ⟨.outer (.command (Consumer.someConsumer.read .backlog)), a₀⟩ ∧
      Entry.ofAnswered a₀ = some [leastEntry] ∧
      ((opened spentStore).after (startingMoves ++ [readingMove])).Throughout
        (fun s => s.find? Int64.minValue ≠ none) overtakingMoves ∧
      (opened spentStore).CallAt 0
        (startingMoves ++ readingMove :: overtakingMoves ++ [acknowledgingMove])
        (startingMoves ++ readingMove :: overtakingMoves) acknowledgingMove []
        ⟨.outer (.command (Consumer.someConsumer.acknowledge "1-0")), a⟩ ∧
      (((opened spentStore).after (startingMoves ++ readingMove :: overtakingMoves)).store.row?
        Int64.minValue).map (·.status) = some .pending := by
  have hsmall : smallStore.Numbered := fun _ _ => rfl
  -- the kernel decodes the entry's text
  have hread : (((opened spentStore).after startingMoves).exchange? 0 readingMove).any
      (sends (Consumer.someConsumer.read .backlog)
        fun a => Entry.ofAnswered a == some [leastEntry]) = true := by
    decide +kernel
  have hacknowledge : (((opened spentStore).after
      (startingMoves ++ readingMove :: overtakingMoves)).exchange? 0 acknowledgingMove).any
      (sends (Consumer.someConsumer.acknowledge "1-0") fun _ => true) = true := by
    decide +kernel
  obtain ⟨x₀, hx₀, hsends₀⟩ := (Option.any_eq_true ..).1 hread
  obtain ⟨a₀, rfl, ha₀⟩ := eq_of_sends hsends₀
  obtain ⟨x, hx, hsends⟩ := (Option.any_eq_true ..).1 hacknowledge
  obtain ⟨a, rfl, -⟩ := eq_of_sends hsends
  exact ⟨(hsmall.insertSubmission _).insertSubmission _, by decide +kernel, a₀, a, ⟨rfl, hx₀⟩,
    eq_of_beq ha₀, by decide +kernel, ⟨rfl, hx⟩, by decide +kernel⟩

end Session

end Arbiter
