import Arbiter.Proofs.Program.Log
import Arbiter.Proofs.Stream.DeliveryCourse

/-!
What the log of a consumer shows when an entry is acknowledged. The entries of a batch are taken on
in their order, and each is through with its acknowledgement, or with the call to the store that
failed; so the entry at hand is told by the number of those that are through (`LastBatch`, `ToGo`).
An entry is acknowledged only when it is at hand, and when its outcome, if it has one, is pending or
was found settled by the store since the entry was read (`acknowledge_of_leads`). An entry that the
store has failed is not acknowledged in its batch (`not_acknowledged_of_failed`).
-/

namespace Arbiter

namespace Exchange

/-- An entry is through: it is acknowledged, or the store has failed its outcome. -/
def concludes : Exchange WorkInterface → Bool
  | ⟨.outer (.command words), _⟩ => words.head? == some "XACK"
  | ⟨.store _, .error _⟩ => true
  | _ => false

/-- The store shows that the submission is gone or final, or makes it final if it is there. -/
def Vouches (id : SubmissionId) (x : Exchange WorkInterface) : Prop :=
  x = ⟨.store (.find id), .ok none⟩ ∨
    (∃ y : Submission, y.status.isFinal = true ∧ x = ⟨.store (.find id), .ok (some y)⟩) ∨
    ∃ v y, v.status.isFinal = true ∧ x = ⟨.store (.complete id v), .ok y⟩

end Exchange

/-- The outcome of an entry, if it has one, is pending, or was found settled by the store. -/
def Entry.IsVouched (e : Entry) (log : List (Exchange WorkInterface)) : Prop :=
  ∀ o, e.outcome? = some o → o.status = .pending ∨ ∃ x ∈ log, x.Vouches o.submissionId

namespace Consumer

variable (c : Consumer)

def Reads (x : Exchange WorkInterface) : Prop :=
  ∃ cursor, x.op = .outer (.command (c.read cursor))

/-- The last batch of a log: what was read, and what was asked and answered since. -/
structure LastBatch (entries : List Entry) (since log : List (Exchange WorkInterface)) : Prop where
  read : ∃ before cursor a, log = before ++ ⟨.outer (.command (c.read cursor)), a⟩ :: since ∧
    Entry.ofAnswered a = some entries
  last : ∀ x ∈ since, ¬ c.Reads x

/-- Some entries of the last batch are to go, and something is known of what was asked and answered
since it was read. -/
def ToGo (es : List Entry) (known : List (Exchange WorkInterface) → Prop)
    (log : List (Exchange WorkInterface)) : Prop :=
  ∃ entries since, c.LastBatch entries since log ∧
    entries.drop (since.countP Exchange.concludes) = es ∧ known since

/-- What is known of the log at each place. -/
def Shown : DeliveryPlace → List (Exchange WorkInterface) → Prop
  | .between (.applying _ _ e o es), log =>
    e.outcome? = some o ∧ c.ToGo (e :: es) (fun _ => True) log
  | .between (.acknowledging _ _ e es), log => c.ToGo (e :: es) e.IsVouched log
  | .within _ _ e o es .outrun, log => e.outcome? = some o ∧ c.ToGo (e :: es) e.IsVouched log
  | .within _ _ e o es _, log => e.outcome? = some o ∧ c.ToGo (e :: es) (fun _ => True) log
  | .between _, _ => True

variable {c} {log : List (Exchange WorkInterface)} {x : Exchange WorkInterface}
  {e : Entry} {o : Outcome} {es : List Entry}
  {known known' : List (Exchange WorkInterface) → Prop}

lemma LastBatch.snoc {entries : List Entry} {since : List (Exchange WorkInterface)}
    (h : c.LastBatch entries since log) (hx : ¬ c.Reads x) :
    c.LastBatch entries (since ++ [x]) (log ++ [x]) := by
  obtain ⟨before, cursor, a, rfl, ha⟩ := h.read
  refine ⟨⟨before, cursor, a, ?_, ha⟩, ?_⟩
  · rw [List.append_assoc, List.cons_append]
  · exact List.forall_mem_append.2 ⟨h.last, List.forall_mem_singleton.2 hx⟩

lemma ToGo.snoc (h : c.ToGo es known log) (hx : ¬ c.Reads x) (hgo : x.concludes = false)
    (hknown : ∀ since, known since → known' (since ++ [x])) : c.ToGo es known' (log ++ [x]) := by
  obtain ⟨entries, since, hbatch, hdrop, hk⟩ := h
  refine ⟨entries, since ++ [x], hbatch.snoc hx, ?_, hknown since hk⟩
  rw [List.countP_append, List.countP_singleton, hgo]
  exact hdrop

lemma ToGo.through (h : c.ToGo (e :: es) known log) (hx : ¬ c.Reads x)
    (hgo : x.concludes = true) : c.ToGo es (fun _ => True) (log ++ [x]) := by
  obtain ⟨entries, since, hbatch, hdrop, -⟩ := h
  refine ⟨entries, since ++ [x], hbatch.snoc hx, ?_, trivial⟩
  rw [List.countP_append, List.countP_singleton, hgo]
  show entries.drop (_ + 1) = es
  rw [← List.drop_drop, hdrop]
  rfl

lemma toGo_read {cursor : Cursor} {a : Answered} {entries : List Entry}
    (ha : Entry.ofAnswered a = some entries) (log : List (Exchange WorkInterface)) :
    c.ToGo entries (fun _ => True) (log ++ [⟨.outer (.command (c.read cursor)), a⟩]) := by
  refine ⟨entries, [], ⟨⟨log, cursor, a, rfl, ha⟩, fun x hx => ?_⟩, rfl, trivial⟩
  cases hx

lemma shown_on {home : Cursor} {left : Bool} (h : c.ToGo es (fun _ => True) log) :
    c.Shown (.between (.on home left es)) log := by
  cases es with
  | nil => cases left <;> trivial
  | cons e es =>
    rcases ho : e.outcome? with _ | o
    · rw [ConsumerPlace.on_of_none ho]
      obtain ⟨entries, since, hbatch, hdrop, -⟩ := h
      refine ⟨entries, since, hbatch, hdrop, fun o ho' => ?_⟩
      rw [ho] at ho'
      cases ho'
    · rw [ConsumerPlace.on_of_some ho]
      exact ⟨ho, h⟩

lemma outer_command_inj {words words' : Command} {a a' : Answered} :
    (⟨.outer (.command words), a⟩ : Exchange WorkInterface) = ⟨.outer (.command words'), a'⟩ ↔
      words = words' ∧ a = a' := by
  constructor
  · intro h
    cases h
    exact ⟨rfl, rfl⟩
  · rintro ⟨rfl, rfl⟩
    rfl

/-! ### While an outcome is applied -/

lemma not_reads_store {call : StoreCall} {r : Except Failure call.Result} :
    ¬ c.Reads ⟨.store call, r⟩ := by
  rintro ⟨cursor, h⟩
  cases h

lemma isVouched_of_vouches (ho : e.outcome? = some o) (hx : x.Vouches o.submissionId)
    (since : List (Exchange WorkInterface)) : e.IsVouched (since ++ [x]) := by
  intro o' ho'
  rw [ho] at ho'
  cases ho'
  exact .inr ⟨x, List.mem_append_right _ (List.mem_singleton_self _), hx⟩

lemma isVouched_snoc {since : List (Exchange WorkInterface)} (h : e.IsVouched since)
    (x : Exchange WorkInterface) : e.IsVouched (since ++ [x]) := by
  intro o ho
  refine (h o ho).imp_right ?_
  rintro ⟨y, hy, hvouches⟩
  exact ⟨y, List.mem_append_left _ hy, hvouches⟩

section Applying

variable {home : Cursor} {left : Bool} {call : StoreCall}

lemma shown_redelivered (h : c.ToGo (e :: es) known log) (f : Failure) :
    c.Shown (.applying home left e o es (.ended (.error (.store f))))
      (log ++ [⟨.store call, .error f⟩]) :=
  shown_on (h.through not_reads_store rfl)

lemma shown_settled {a : Except ApplyFailure Applied} (ha : Disposition.ofApply a = .acknowledge)
    {r : call.Result} (h : c.ToGo (e :: es) known log)
    (hvouched : ∀ since, known since → e.IsVouched (since ++ [⟨.store call, .ok r⟩])) :
    c.Shown (.applying home left e o es (.ended a)) (log ++ [⟨.store call, .ok r⟩]) := by
  show c.Shown (.between (.disposed home left e es (.ofApply a))) _
  rw [ha]
  exact h.snoc not_reads_store rfl hvouched

lemma shown_seen (ho : e.outcome? = some o) (h : c.ToGo (e :: es) (fun _ => True) log)
    (y : Option Submission) : c.Shown (.applying home left e o es (.seen o y))
      (log ++ [⟨.store (.find o.submissionId), .ok y⟩]) := by
  rcases y with _ | y
  · exact shown_settled rfl h fun since _ => isVouched_of_vouches ho (.inl rfl) since
  by_cases hfinal : y.status.isFinal = true
  · rw [ApplyPlace.seen, if_pos hfinal]
    exact shown_settled rfl h fun since _ =>
      isVouched_of_vouches ho (.inr (.inl ⟨y, hfinal, rfl⟩)) since
  rw [ApplyPlace.seen, if_neg hfinal]
  split
  · rename_i hmay
    refine shown_settled rfl h fun since _ o' ho' => .inl ?_
    rw [ho] at ho'
    cases ho'
    have hpending : y.status = .pending := by simpa [Status.isFinal] using hfinal
    simpa [Status.mayBecome, hpending, Status.isFinal] using hmay
  · exact ⟨ho, h.snoc not_reads_store rfl fun _ _ => trivial⟩

lemma shown_applying (scoring : Scoring) {q : ApplyPlace}
    (h : c.Shown (.applying home left e o es q) log)
    (hmay : (applyCourse scoring o).may q call) (r : Except Failure call.Result) :
    c.Shown (.applying home left e o es ((applyCourse scoring o).next q call r))
      (log ++ [⟨.store call, r⟩]) := by
  cases q with
  | arriving =>
    obtain ⟨ho, htogo⟩ := h
    obtain rfl : call = .find o.submissionId := hmay
    rcases r with f | y
    · exact shown_redelivered htogo f
    · exact shown_seen ho htogo y
  | found y =>
    obtain ⟨ho, htogo⟩ := h
    obtain rfl : call = .findProblem y.problemId := hmay
    rcases r with f | p
    · exact shown_redelivered htogo f
    · exact ⟨ho, htogo.snoc not_reads_store rfl fun _ _ => trivial⟩
  | informed y p =>
    obtain ⟨ho, htogo⟩ := h
    obtain ⟨rfl, hfinal⟩ := hmay
    rcases r with f | z
    · exact shown_redelivered htogo f
    have hvouches : Exchange.Vouches o.submissionId
        ⟨.store (.complete o.submissionId (Verdict.ofOutcome scoring o p)), .ok z⟩ :=
      .inr (.inr ⟨_, z, hfinal, rfl⟩)
    rcases z with _ | z
    · refine ⟨ho, htogo.snoc not_reads_store rfl fun since _ => ?_⟩
      exact isVouched_of_vouches ho hvouches since
    · exact shown_settled rfl htogo fun since _ => isVouched_of_vouches ho hvouches since
  | outrun =>
    obtain ⟨ho, htogo⟩ := h
    obtain rfl : call = .find o.submissionId := hmay
    rcases r with f | y
    · exact shown_redelivered htogo f
    · -- the completion that came too late has vouched for the submission already
      rcases y with _ | y
      · exact shown_settled rfl htogo fun since hv => isVouched_snoc hv _
      · exact shown_settled rfl htogo fun since hv => isVouched_snoc hv _
  | ended a => exact hmay.elim

end Applying

/-! ### The whole course -/

/-- A command that ends a batch, or belongs to none, leads where nothing is to be known. -/
lemma shown_command {scoring : Scoring} {p : ConsumerPlace} (h : c.Shown (.between p) log)
    {words : Command} (hop : (deliveryCourse scoring c).may (.between p) (.outer (.command words)))
    (a : Answered) : c.Shown (.between ((consumerCourse c).next p (.command words) a))
      (log ++ [⟨.outer (.command words), a⟩]) := by
  cases p with
  | reading cursor =>
    obtain rfl : words = c.read cursor := ConsumerCall.command.inj hop
    show c.Shown (.between (.ofAnswered cursor a)) _
    rcases ha : Entry.ofAnswered a with _ | entries
    · rw [ConsumerPlace.ofAnswered_of_none ha]
      trivial
    · rw [ConsumerPlace.ofAnswered_of_some ha]
      exact shown_on (toGo_read ha log)
  | acknowledging home left e es =>
    obtain rfl : words = c.acknowledge e.id := ConsumerCall.command.inj hop
    show c.Shown (.between (if tookAck a then _ else _)) _
    split
    · refine shown_on (ToGo.through h ?_ rfl)
      rintro ⟨cursor, hread⟩
      simp [acknowledge, read] at hread
    · trivial
  | applying => cases hop
  | starting | turning | brokenOff | pausing | stopped => trivial

theorem preserves_shown (scoring : Scoring) : (deliveryCourse scoring c).Preserves c.Shown := by
  intro p log op hp hop r
  cases p with
  | within home left e o es q =>
    rcases op with call | call
    · have hmay : (applyCourse scoring o).may q call := hop
      cases q with
      | arriving | found | informed | outrun => exact shown_applying scoring (o := o) hp hmay r
      | ended => exact hmay.elim
    · exact hop.elim
  | between p =>
    rcases op with call | call
    · cases p with
      | applying home left e o es =>
        have hmay : (applyCourse scoring o).may .arriving call := hop
        exact shown_applying scoring (o := o) hp hmay r
      | _ => exact hop.elim
    · cases call with
      | command words =>
        have hnext : (deliveryCourse scoring c).next (.between p) (.outer (.command words)) r =
            .between ((consumerCourse c).next p (.command words) r) := by
          cases p <;> rfl
        rw [hnext]
        exact shown_command hp hop r
      | pause milliseconds =>
        cases p with
        | brokenOff | pausing => trivial
        | stopped => exact hop.elim
        | starting => rcases hop with h | h | h | ⟨id, h⟩ <;> cases h
        | turning | reading | applying | acknowledging => cases hop
      | stopping =>
        cases p with
        | starting | turning => cases r <;> trivial
        | stopped => exact hop.elim
        | brokenOff => rcases hop with h | h <;> cases h
        | reading | applying | acknowledging | pausing => cases hop
      | enqueue | now => cases p <;> exact hop.elim

/-! ### Logs of a consumer's work -/

section Logs

variable {scoring : Scoring} {n : Nat} {w : Work Ended}

lemma exists_shown (h : (Duty.consume scoring c n).work.Leads log w) :
    ∃ p, w.Keeps (deliveryCourse scoring c) (fun _ _ => True) p ∧ c.Shown p log := by
  have hstart : c.Shown (.between .starting) [] := trivial
  exact (keeps_consume n).exists_place (preserves_shown scoring) hstart h

/-- **What the log shows when an entry is acknowledged.** The entry is the one at hand, and its
outcome, if it has one, is pending or was found settled. -/
theorem acknowledge_of_leads {id : String} {next : Answered → Work Ended}
    (h : (Duty.consume scoring c n).work.Leads log
      (.ask (.outer (.command (c.acknowledge id))) next)) :
    ∃ e es, c.ToGo (e :: es) e.IsVouched log ∧ e.id = id := by
  obtain ⟨p, ⟨hmay, -⟩, hshown⟩ := exists_shown h
  cases p with
  | within => exact hmay.elim
  | between p =>
    have hconsumer : (consumerCourse c).may p (.command (c.acknowledge id)) := by
      cases p <;> exact hmay
    obtain ⟨home, left, e, es, rfl, hid⟩ := exists_acknowledging_of_may hconsumer
    exact ⟨e, es, hshown, hid⟩

theorem apply_of_leads {call : StoreCall} {next : Except Failure call.Result → Work Ended}
    (h : (Duty.consume scoring c n).work.Leads log (.ask (.store call) next)) :
    ∃ e es o, c.ToGo (e :: es) (fun _ => True) log ∧ e.outcome? = some o := by
  obtain ⟨p, ⟨hmay, -⟩, hshown⟩ := exists_shown h
  cases p with
  | within home left e o es q =>
    cases q with
    | outrun =>
      obtain ⟨ho, entries, since, hbatch, hdrop, -⟩ := hshown
      exact ⟨e, es, o, ⟨entries, since, hbatch, hdrop, trivial⟩, ho⟩
    | arriving | found | informed | ended => exact ⟨e, es, o, hshown.2, hshown.1⟩
  | between p =>
    cases p with
    | applying home left e o es => exact ⟨e, es, o, hshown.2, hshown.1⟩
    | _ => exact hmay.elim

lemma LastBatch.unique {entries entries' : List Entry}
    {since since' : List (Exchange WorkInterface)} (h : c.LastBatch entries since log)
    (h' : c.LastBatch entries' since' log) : entries = entries' ∧ since = since' := by
  obtain ⟨before, cursor, a, rfl, ha⟩ := h.read
  obtain ⟨before', cursor', a', hlog, ha'⟩ := h'.read
  rcases List.append_eq_append_iff.1 hlog with ⟨mid, rfl, hmid⟩ | ⟨mid, rfl, hmid⟩
  · rcases mid with _ | ⟨y, mid⟩
    · obtain ⟨hread, rfl⟩ := List.cons_eq_cons.1 hmid
      obtain ⟨-, rfl⟩ := outer_command_inj.1 hread
      exact ⟨Option.some.inj (ha.symm.trans ha'), rfl⟩
    · obtain ⟨-, rfl⟩ := List.cons_eq_cons.1 hmid
      exact absurd ⟨cursor', rfl⟩ (h.last _ (List.mem_append_right _ List.mem_cons_self))
  · rcases mid with _ | ⟨y, mid⟩
    · obtain ⟨hread, rfl⟩ := List.cons_eq_cons.1 hmid
      obtain ⟨-, rfl⟩ := outer_command_inj.1 hread
      exact ⟨Option.some.inj (ha.symm.trans ha'), rfl⟩
    · obtain ⟨-, rfl⟩ := List.cons_eq_cons.1 hmid
      exact absurd ⟨cursor, rfl⟩ (h'.last _ (List.mem_append_right _ List.mem_cons_self))

/-- The entry at hand is told by the number of those that are through. -/
lemma ToGo.getElem? {entries : List Entry} {since : List (Exchange WorkInterface)}
    (h : c.ToGo (e :: es) known log) (hbatch : c.LastBatch entries since log) :
    entries[since.countP Exchange.concludes]? = some e ∧ known since := by
  obtain ⟨entries', since', hbatch', hdrop, hknown⟩ := h
  obtain ⟨rfl, rfl⟩ := hbatch.unique hbatch'
  refine ⟨?_, hknown⟩
  rw [← List.head?_drop, hdrop]
  rfl

lemma getElem?_of_acknowledged {before since rest : List (Exchange WorkInterface)}
    {cursor : Cursor} {a a' : Answered} {entries : List Entry} {id : String}
    (h : (Duty.consume scoring c n).work.Leads
      (before ++ ⟨.outer (.command (c.read cursor)), a⟩ :: since ++
        ⟨.outer (.command (c.acknowledge id)), a'⟩ :: rest) w)
    (ha : Entry.ofAnswered a = some entries) (hlast : ∀ x ∈ since, ¬ c.Reads x) :
    (entries.map (·.id))[since.countP Exchange.concludes]? = some id := by
  obtain ⟨next, hnext⟩ := h.before
  obtain ⟨e, es, htogo, rfl⟩ := acknowledge_of_leads hnext
  rw [List.getElem?_map, (htogo.getElem? ⟨⟨before, cursor, a, rfl, ha⟩, hlast⟩).1]
  rfl

/-- So many entries of a batch are through when one of them is acknowledged. -/
lemma countP_of_acknowledged {before since rest : List (Exchange WorkInterface)}
    {cursor : Cursor} {a a' : Answered} {entries : List Entry} {e : Entry} {k : Nat}
    (h : (Duty.consume scoring c n).work.Leads
      (before ++ ⟨.outer (.command (c.read cursor)), a⟩ :: since ++
        ⟨.outer (.command (c.acknowledge e.id)), a'⟩ :: rest) w)
    (ha : Entry.ofAnswered a = some entries) (hids : (entries.map (·.id)).Nodup)
    (hlast : ∀ x ∈ since, ¬ c.Reads x) (hk : entries[k]? = some e) :
    since.countP Exchange.concludes = k := by
  have hid : (entries.map (·.id))[k]? = some e.id := by
    rw [List.getElem?_map, hk]
    rfl
  have hbound := (List.getElem?_eq_some_iff.1 hid).1
  have hacked := getElem?_of_acknowledged h ha hlast
  exact ((List.getElem?_inj hbound hids).1 (hid.trans hacked.symm)).symm

theorem not_acknowledged_of_failed {before m₁ m₂ rest : List (Exchange WorkInterface)}
    {cursor : Cursor} {a : Answered} {entries : List Entry} {call : StoreCall} {f : Failure}
    (h : (Duty.consume scoring c n).work.Leads
      (before ++ ⟨.outer (.command (c.read cursor)), a⟩ ::
        (m₁ ++ ⟨.store call, .error f⟩ :: m₂) ++ rest) w)
    (ha : Entry.ofAnswered a = some entries) (hids : (entries.map (·.id)).Nodup)
    (hlast : ∀ x ∈ m₁ ++ m₂, ¬ c.Reads x) :
    ∃ e o, entries[m₁.countP Exchange.concludes]? = some e ∧ e.outcome? = some o ∧
      ∀ a', ⟨.outer (.command (c.acknowledge e.id)), a'⟩ ∉ m₁ ++ m₂ := by
  obtain ⟨hlast₁, hlast₂⟩ := List.forall_mem_append.1 hlast
  have hfailed : (Duty.consume scoring c n).work.Leads
      (before ++ ⟨.outer (.command (c.read cursor)), a⟩ :: m₁ ++ ⟨.store call, .error f⟩ ::
        (m₂ ++ rest)) w := by
    simpa using h
  obtain ⟨next, hnext⟩ := hfailed.before
  obtain ⟨e, es, o, htogo, ho⟩ := apply_of_leads hnext
  obtain ⟨hat, -⟩ := htogo.getElem? ⟨⟨before, cursor, a, rfl, ha⟩, hlast₁⟩
  refine ⟨e, o, hat, ho, fun a' hmem => ?_⟩
  -- acknowledged before the failure, too few entries were through; after it, too many
  rcases List.mem_append.1 hmem with hmem | hmem
  · obtain ⟨l, l', rfl⟩ := List.append_of_mem hmem
    have hl := (List.forall_mem_append.1 hlast₁).1
    have hleads : (Duty.consume scoring c n).work.Leads
        (before ++ ⟨.outer (.command (c.read cursor)), a⟩ :: l ++
          ⟨.outer (.command (c.acknowledge e.id)), a'⟩ ::
            (l' ++ ⟨.store call, .error f⟩ :: (m₂ ++ rest))) w := by
      simpa using h
    have hcount := countP_of_acknowledged hleads ha hids hl hat
    rw [List.countP_append, List.countP_cons_of_pos rfl] at hcount
    omega
  · obtain ⟨l, l', rfl⟩ := List.append_of_mem hmem
    have hl : ∀ x ∈ m₁ ++ ⟨.store call, .error f⟩ :: l, ¬ c.Reads x :=
      List.forall_mem_append.2 ⟨hlast₁, List.forall_mem_cons.2
        ⟨not_reads_store, (List.forall_mem_append.1 hlast₂).1⟩⟩
    have hleads : (Duty.consume scoring c n).work.Leads
        (before ++ ⟨.outer (.command (c.read cursor)), a⟩ ::
          (m₁ ++ ⟨.store call, .error f⟩ :: l) ++
            ⟨.outer (.command (c.acknowledge e.id)), a'⟩ :: (l' ++ rest)) w := by
      simpa using h
    have hcount := countP_of_acknowledged hleads ha hids hl hat
    rw [List.countP_append, List.countP_cons_of_pos rfl] at hcount
    omega

end Logs

end Consumer

end Arbiter
