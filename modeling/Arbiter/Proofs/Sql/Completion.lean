import Arbiter.Proofs.Program.Log
import Arbiter.Proofs.Sql.CompleteCourse

/-!
A completion in a database is all or nothing. Whatever the server answers and wherever it fails, the
commit is sent only after the verdict, and for an accepted one its count, were written in the open
transaction (`Written`), and the answer tells what came of it (`Comes`). A server that keeps what a
transaction wrote just when it carries out the commit (`Ledger.Serves`) has in the end written both
or neither (`complete_all_or_nothing`). What is known of the log, and of the server's ledger, at
each place of the course is kept by every step (`preserves_known`, `stands_of_takes`).
-/

namespace Arbiter

/-! ### What a server keeps -/

/-- The statements that were carried out for good, and those of the transaction that is open. -/
structure Ledger where
  kept : List Statement
  pending : Option (List Statement)

namespace Ledger

/-- What carrying out a call makes of a ledger. -/
def after (b : Ledger) : SqlCall → Ledger
  | .start => { b with pending := some [] }
  | .run s =>
    match b.pending with
    | some ss => { b with pending := some (ss ++ [s]) }
    | none => { b with kept := b.kept ++ [s] }
  | .commit => ⟨b.kept ++ b.pending.getD [], none⟩
  | .rollback => ⟨b.kept, none⟩

/-- A call that is answered was carried out. One that fails may have been carried out or not, and
the transaction may be lost with it. -/
inductive Takes (b : Ledger) : Exchange SqlInterface → Ledger → Prop
  | answered {op : SqlCall} {a : SqlReply} : Takes b ⟨op, .ok a⟩ (b.after op)
  | carriedOut {op : SqlCall} {e : SqlFault} : Takes b ⟨op, .error e⟩ (b.after op)
  | refused {op : SqlCall} {e : SqlFault} : Takes b ⟨op, .error e⟩ b
  | lost {op : SqlCall} {e : SqlFault} : Takes b ⟨op, .error e⟩ ⟨b.kept, none⟩

/-- What the calls of a log, and their answers, may make of a ledger. -/
inductive Serves (b : Ledger) : List (Exchange SqlInterface) → Ledger → Prop
  | nil : Serves b [] b
  | snoc {log : List (Exchange SqlInterface)} {x : Exchange SqlInterface} {m b' : Ledger}
      (h : Serves b log m) (hx : m.Takes x b') : Serves b (log ++ [x]) b'

variable {b b' : Ledger} {log : List (Exchange SqlInterface)} {x : Exchange SqlInterface}

lemma serves_nil : b.Serves [] b' ↔ b' = b := by
  constructor
  · generalize hlog : [] = log
    intro h
    cases h with
    | nil => rfl
    | snoc => simp at hlog
  · rintro rfl
    exact .nil

lemma serves_snoc : b.Serves (log ++ [x]) b' ↔ ∃ m, b.Serves log m ∧ m.Takes x b' := by
  constructor
  · generalize hlog : log ++ [x] = long
    intro h
    cases h with
    | nil => simp at hlog
    | snoc h hx =>
      obtain ⟨rfl, hlast⟩ := List.append_inj' hlog rfl
      obtain rfl : x = _ := List.head_eq_of_cons_eq hlast
      exact ⟨_, h, hx⟩
  · rintro ⟨m, h, hx⟩
    exact .snoc h hx

end Ledger

namespace Repository

variable (id : SubmissionId) (v : Verdict)

/-! ### What a log shows -/

/-- A row of the pending submission was answered, and can be read. -/
def Judged (r : SubmissionRow) (log : List (Exchange SqlInterface)) : Prop :=
  ∃ a : SqlReply, ⟨.run (judgement id v), .ok a⟩ ∈ log ∧ a.record? = some (.ok r)

/-- All was written in one transaction: the verdict into the submission of the row, and the count of
its problem once if the verdict is an accepted one, and not else. -/
inductive Written (r : SubmissionRow) : List (Exchange SqlInterface) → Prop
  | judged {a b : SqlReply} (hb : b.record? = some (.ok r)) (hv : v.status ≠ .accepted) :
      Written r [⟨.start, .ok a⟩, ⟨.run (judgement id v), .ok b⟩]
  | counted {a b c : SqlReply} (hb : b.record? = some (.ok r)) (hv : v.status = .accepted) :
      Written r [⟨.start, .ok a⟩, ⟨.run (judgement id v), .ok b⟩,
        ⟨.run (acceptance r.record.problemId), .ok c⟩]

/-- The call fails, or the row that it is answered with cannot be read. -/
inductive Disturbs : Exchange SqlInterface → Prop
  | failed {op : SqlCall} {e : SqlFault} : Disturbs ⟨op, .error e⟩
  | unreadable {a : SqlReply} {e : SqlFault} (h : a.record? = some (.error e)) :
      Disturbs ⟨.run (judgement id v), .ok a⟩

/-- What a completion comes to, with the log of it. -/
inductive Comes : List (Exchange SqlInterface) → Except Failure (Option Submission) → Prop
  | committed {r : SubmissionRow} {log : List (Exchange SqlInterface)} {a : SqlReply}
      (h : Written id v r log) : Comes (log ++ [⟨.commit, .ok a⟩]) (r.submission.map some)
  | missed {a b c : SqlReply} (h : b.record? = none) :
      Comes [⟨.start, .ok a⟩, ⟨.run (judgement id v), .ok b⟩, ⟨.rollback, .ok c⟩] (.ok none)
  | failed {log : List (Exchange SqlInterface)} {x : Exchange SqlInterface} (hx : x ∈ log)
      (h : Disturbs id v x) (f : Failure) : Comes log (.error f)

/-- The statements of a completion that is kept. -/
def writes (problem : ProblemId) : List Statement :=
  judgement id v :: if v.status = .accepted then [acceptance problem] else []

/-- **A completion is all or nothing**, as far as a log of it shows. -/
structure IsAllOrNothing (log : List (Exchange SqlInterface))
    (w : Program SqlInterface (Except Failure (Option Submission))) : Prop where
  /-- The commit is sent only when all is written. -/
  commit : ∀ {before rest a}, log = before ++ ⟨.commit, a⟩ :: rest → ∃ r, Written id v r before
  /-- No other statements are sent than the update of what is pending under the id, and the count
  for the problem of its row, which is for an accepted verdict only. -/
  statement : ∀ {before rest s a}, log = before ++ ⟨.run s, a⟩ :: rest →
    s = judgement id v ∧
        s.parameters.take 2 = [SqlValue.ofInt64 id, SqlValue.ofInt16 Status.pending.code] ∨
      v.status = .accepted ∧ ∃ r, Judged id v r before ∧ s = acceptance r.record.problemId
  /-- It comes to the submission only after the commit, and to none only when none matched. -/
  answer : ∀ {a}, w = .done a → Comes id v log a
  /-- The server keeps both writes or neither. -/
  kept : ∀ {b b' : Ledger}, b.pending = none → b.Serves log b' →
    b'.kept = b.kept ∨ ∃ r, Judged id v r log ∧ b'.kept = b.kept ++ writes id v r.record.problemId
  /-- Both are kept when a submission is told, and neither when none is. -/
  told : ∀ {b b' : Ledger} {y}, w = .done (.ok y) → b.pending = none → b.Serves log b' →
    match y with
    | none => b'.kept = b.kept
    | some y => ∃ r, r.submission = .ok y ∧ Judged id v r log ∧
        b'.kept = b.kept ++ writes id v r.record.problemId

namespace CompletePlace

variable {id v}

/-- What is known of the log at a place. -/
def Known (id : SubmissionId) (v : Verdict) : CompletePlace → List (Exchange SqlInterface) → Prop
  | .arriving, log => log = []
  | .opened, log => ∃ a : SqlReply, log = [⟨.start, .ok a⟩]
  | .judged r, log => v.status = .accepted ∧ ∃ a b : SqlReply, b.record? = some (.ok r) ∧
      log = [⟨.start, .ok a⟩, ⟨.run (judgement id v), .ok b⟩]
  | .written r, log => Written id v r log
  | .committed r, log => ∃ before, ∃ a : SqlReply, Written id v r before ∧
      log = before ++ [⟨.commit, .ok a⟩]
  | .missed, log => ∃ a b : SqlReply, b.record? = none ∧
      log = [⟨.start, .ok a⟩, ⟨.run (judgement id v), .ok b⟩]
  | .left, log => ∃ a b c : SqlReply, b.record? = none ∧
      log = [⟨.start, .ok a⟩, ⟨.run (judgement id v), .ok b⟩, ⟨.rollback, .ok c⟩]
  | .undoing tried, log => (∃ x ∈ log, Disturbs id v x) ∧ ∀ r ∈ tried, Judged id v r log
  | .failed tried, log => (∃ x ∈ log, Disturbs id v x) ∧ ∀ r ∈ tried, Judged id v r log

/-- What a server's ledger is at a place, when it had kept some statements before. -/
def Stands (id : SubmissionId) (v : Verdict) (kept : List Statement) :
    CompletePlace → Ledger → Prop
  | .arriving, b => b = ⟨kept, none⟩
  | .opened, b => b = ⟨kept, some []⟩
  | .judged _, b => v.status = .accepted ∧ b = ⟨kept, some [judgement id v]⟩
  | .written r, b => b = ⟨kept, some (writes id v r.record.problemId)⟩
  | .committed r, b => b.kept = kept ++ writes id v r.record.problemId
  | .undoing (some r), b => b.kept = kept ∨ b.kept = kept ++ writes id v r.record.problemId
  | .failed (some r), b => b.kept = kept ∨ b.kept = kept ++ writes id v r.record.problemId
  | _, b => b.kept = kept

variable {p : CompletePlace} {log : List (Exchange SqlInterface)} {kept : List Statement}
  {b b' : Ledger}

lemma judged_snoc {r : SubmissionRow} (h : Judged id v r log) (x : Exchange SqlInterface) :
    Judged id v r (log ++ [x]) := by
  obtain ⟨a, ha, hrecord⟩ := h
  exact ⟨a, List.mem_append_left _ ha, hrecord⟩

lemma known_undoing {op : SqlCall} {e : SqlFault} {tried : Option SubmissionRow}
    (h : ∀ r ∈ tried, Judged id v r log) :
    Known id v (.undoing tried) (log ++ [⟨op, .error e⟩]) := by
  have hfails : ⟨op, .error e⟩ ∈ log ++ [(⟨op, .error e⟩ : Exchange SqlInterface)] := by simp
  exact ⟨⟨_, hfails, .failed⟩, fun r hr => judged_snoc (h r hr) _⟩

lemma judged_of_written {r : SubmissionRow} (h : Written id v r log) : Judged id v r log := by
  cases h with
  | judged hb => exact ⟨_, by simp, hb⟩
  | counted hb => exact ⟨_, by simp, hb⟩

lemma preserves_known (id : SubmissionId) (v : Verdict) :
    (completeCourse id v).Preserves (Known id v) := by
  intro p log op hp hop x
  cases p with
  | arriving =>
    obtain rfl : op = .start := hop
    obtain rfl : log = [] := hp
    rcases x with e | a
    · exact ⟨⟨⟨.start, .error e⟩, by simp, .failed⟩, by simp⟩
    · exact ⟨a, rfl⟩
  | opened =>
    obtain rfl : op = .run (judgement id v) := hop
    obtain ⟨a, rfl⟩ := hp
    rcases x with e | b
    · exact known_undoing (by simp)
    show Known id v (.shown v b.record?) _
    rcases hb : b.record? with _ | e | r
    · exact ⟨a, b, hb, rfl⟩
    · exact ⟨⟨⟨.run (judgement id v), .ok b⟩, by simp, .unreadable hb⟩, by simp⟩
    · by_cases hv : v.status = .accepted
      · simp only [shown, hv, if_true]
        exact ⟨hv, a, b, hb, rfl⟩
      · simp only [shown, hv, if_false]
        exact .judged hb hv
  | judged r =>
    obtain rfl : op = .run (acceptance r.record.problemId) := hop
    obtain ⟨hv, a, b, hb, rfl⟩ := hp
    rcases x with e | c
    · exact known_undoing (by simp)
    · exact .counted hb hv
  | written r =>
    obtain rfl : op = .commit := hop
    have hwritten : Written id v r log := hp
    rcases x with e | a
    · -- whether this commit was carried out is not known, but what it would keep is
      refine known_undoing fun r' hr => ?_
      obtain rfl : r = r' := Option.some.inj hr
      exact judged_of_written hwritten
    · exact ⟨log, a, hwritten, rfl⟩
  | missed =>
    obtain rfl : op = .rollback := hop
    obtain ⟨a, b, hb, rfl⟩ := hp
    rcases x with e | c
    · exact known_undoing (by simp)
    · exact ⟨a, b, c, hb, rfl⟩
  | undoing tried =>
    obtain ⟨⟨y, hy, hdisturbs⟩, htried⟩ := hp
    exact ⟨⟨y, List.mem_append_left _ hy, hdisturbs⟩, fun r hr => judged_snoc (htried r hr) _⟩
  | committed | left | failed => exact hop.elim

lemma stands_of_takes (hp : p.Stands id v kept b) {op : SqlCall}
    (hop : (completeCourse id v).may p op) {x : Except SqlFault SqlReply} (h : b.Takes ⟨op, x⟩ b') :
    ((completeCourse id v).next p op x).Stands id v kept b' := by
  cases p with
  | arriving =>
    obtain rfl : op = .start := hop
    obtain rfl : b = ⟨kept, none⟩ := hp
    cases h <;> rfl
  | opened =>
    obtain rfl : op = .run (judgement id v) := hop
    obtain rfl : b = ⟨kept, some []⟩ := hp
    cases h with
    | @answered _ a =>
      show Stands id v kept (.shown v a.record?) _
      rcases a.record? with _ | e | r
      · rfl
      · rfl
      · by_cases hv : v.status = .accepted
        · simp only [shown, hv, if_true]
          exact ⟨hv, rfl⟩
        · simp only [shown, hv, if_false]
          simp [Stands, Ledger.after, writes, hv]
    | carriedOut | refused | lost => rfl
  | judged r =>
    obtain rfl : op = .run (acceptance r.record.problemId) := hop
    obtain ⟨hv, rfl⟩ := hp
    cases h with
    | answered =>
      show (_ : Ledger) = _
      simp [Ledger.after, writes, hv]
    | carriedOut | refused | lost => rfl
  | written r =>
    obtain rfl : op = .commit := hop
    obtain rfl : b = ⟨kept, some (writes id v r.record.problemId)⟩ := hp
    cases h with
    | answered => rfl
    | carriedOut => exact .inr rfl
    | refused | lost => exact .inl rfl
  | missed =>
    obtain rfl : op = .rollback := hop
    have hkept : b.kept = kept := hp
    cases h <;> exact hkept
  | undoing tried =>
    obtain rfl : op = .rollback := hop
    cases tried <;> cases h <;> exact hp
  | committed | left | failed => exact hop.elim

/-- Wherever a completion stops, both are kept or neither. -/
lemma kept_of_stands (hknown : p.Known id v log) (h : p.Stands id v kept b) :
    b.kept = kept ∨ ∃ r, Judged id v r log ∧ b.kept = kept ++ writes id v r.record.problemId := by
  cases p with
  | arriving | opened | written =>
    obtain rfl : b = ⟨kept, _⟩ := h
    exact .inl rfl
  | judged =>
    obtain ⟨-, rfl⟩ := h
    exact .inl rfl
  | missed | left => exact .inl h
  | committed r =>
    obtain ⟨before, a, hwritten, rfl⟩ := hknown
    exact .inr ⟨r, judged_snoc (judged_of_written hwritten) _, h⟩
  | undoing tried | failed tried =>
    rcases tried with _ | r
    · exact .inl h
    · rcases h with hnone | hboth
      · exact .inl hnone
      · exact .inr ⟨r, hknown.2 r rfl, hboth⟩

/-- The commit is sent only when all is written. -/
lemma written_of_may_commit (h : (completeCourse id v).may p .commit) (hknown : p.Known id v log) :
    ∃ r, Written id v r log := by
  cases p with
  | written r => exact ⟨r, hknown⟩
  | arriving | opened | judged | missed | undoing => cases h
  | committed | left | failed => exact h.elim

/-- No other statements are sent than those of a completion. -/
lemma eq_of_may_run {s : Statement} (h : (completeCourse id v).may p (.run s))
    (hknown : p.Known id v log) : s = judgement id v ∨
      v.status = .accepted ∧ ∃ r, Judged id v r log ∧ s = acceptance r.record.problemId := by
  cases p with
  | opened => exact .inl (SqlCall.run.inj h)
  | judged r =>
    obtain ⟨hv, a, b, hb, rfl⟩ := hknown
    exact .inr ⟨hv, r, ⟨b, by simp, hb⟩, SqlCall.run.inj h⟩
  | arriving | written | missed | undoing => cases h
  | committed | left | failed => exact h.elim

lemma comes_of_ends {a : Except Failure (Option Submission)} (h : completeEnds p a)
    (hknown : p.Known id v log) : Comes id v log a := by
  cases p with
  | committed r =>
    obtain rfl : a = r.submission.map some := h
    obtain ⟨before, a, hwritten, rfl⟩ := hknown
    exact .committed hwritten
  | left =>
    obtain rfl : a = .ok none := h
    obtain ⟨a, b, c, hb, rfl⟩ := hknown
    exact .missed hb
  | failed tried =>
    obtain ⟨f, rfl⟩ := h
    obtain ⟨⟨x, hx, hdisturbs⟩, -⟩ := hknown
    exact .failed hx hdisturbs f
  | arriving | opened | judged | written | missed | undoing => exact h.elim

/-- A completion that comes to a submission has been committed. -/
lemma kept_of_ends_some {y : Submission} (h : completeEnds p (.ok (some y)))
    (hknown : p.Known id v log) (hstands : p.Stands id v kept b) :
    ∃ r, r.submission = .ok y ∧ Judged id v r log ∧
      b.kept = kept ++ writes id v r.record.problemId := by
  cases p with
  | committed r =>
    obtain ⟨before, a, hwritten, rfl⟩ := hknown
    have hy : .ok (some y) = r.submission.map some := h
    rcases hr : r.submission with f | z
    · rw [hr] at hy
      cases hy
    · rw [hr] at hy
      cases hy
      exact ⟨r, hr, judged_snoc (judged_of_written hwritten) _, hstands⟩
  | left => cases h
  | failed =>
    obtain ⟨f, hf⟩ := h
    cases hf
  | arriving | opened | judged | written | missed | undoing => exact h.elim

lemma kept_of_ends_none (h : completeEnds p (.ok none)) (hstands : p.Stands id v kept b) :
    b.kept = kept := by
  cases p with
  | committed r =>
    have hnone : .ok none = r.submission.map some := h
    rcases hr : r.submission with f | z <;> rw [hr] at hnone <;> cases hnone
  | left => exact hstands
  | failed =>
    obtain ⟨f, hf⟩ := h
    cases hf
  | arriving | opened | judged | written | missed | undoing => exact h.elim

lemma exists_place {w : Program SqlInterface (Except Failure (Option Submission))}
    (h : (complete id v).run.Leads log w) :
    ∃ p : CompletePlace, w.Keeps (completeCourse id v) completeEnds p ∧ p.Known id v log ∧
      ∀ b b' : Ledger, b.pending = none → b.Serves log b' → p.Stands id v b.kept b' := by
  let known (p : CompletePlace) (log : List (Exchange SqlInterface)) : Prop :=
    p.Known id v log ∧
      ∀ b b' : Ledger, b.pending = none → b.Serves log b' → p.Stands id v b.kept b'
  have hsteps : (completeCourse id v).Preserves known := by
    intro p log op hp hop x
    refine ⟨preserves_known id v hp.1 hop x, ?_⟩
    intro b b' hb hserves
    obtain ⟨m, hm, hx⟩ := Ledger.serves_snoc.1 hserves
    exact stands_of_takes (hp.2 b m hb hm) hop hx
  have hstart : known .arriving [] := by
    refine ⟨rfl, ?_⟩
    intro b b' hb hserves
    obtain rfl := Ledger.serves_nil.1 hserves
    obtain ⟨kept, pending⟩ := b'
    obtain rfl : pending = none := hb
    rfl
  exact Program.Keeps.exists_place hsteps (keeps_complete id v) hstart h

end CompletePlace

open CompletePlace in
/-- **A completion is all or nothing**, whatever a server answers and wherever it fails, as far as
it has come. -/
theorem complete_all_or_nothing {id : SubmissionId} {v : Verdict}
    {log : List (Exchange SqlInterface)}
    {w : Program SqlInterface (Except Failure (Option Submission))}
    (h : (complete id v).run.Leads log w) : IsAllOrNothing id v log w where
  commit := by
    rintro before rest a rfl
    obtain ⟨next, hnext⟩ := h.before
    obtain ⟨p, hkeeps, hknown, -⟩ := exists_place hnext
    exact written_of_may_commit hkeeps.1 hknown
  statement := by
    rintro before rest s a rfl
    obtain ⟨next, hnext⟩ := h.before
    obtain ⟨p, hkeeps, hknown, -⟩ := exists_place hnext
    rcases eq_of_may_run hkeeps.1 hknown with rfl | hcount
    · exact .inl ⟨rfl, rfl⟩
    · exact .inr hcount
  answer := by
    rintro a rfl
    obtain ⟨p, hends, hknown, -⟩ := exists_place h
    exact comes_of_ends hends hknown
  kept := by
    intro b b' hb hserves
    obtain ⟨p, -, hknown, hstands⟩ := exists_place h
    exact kept_of_stands hknown (hstands b b' hb hserves)
  told := by
    rintro b b' y rfl hb hserves
    obtain ⟨p, hends, hknown, hstands⟩ := exists_place h
    rcases y with _ | y
    · exact kept_of_ends_none hends (hstands b b' hb hserves)
    · exact kept_of_ends_some hends hknown (hstands b b' hb hserves)

/-! ### A commit that fails -/

/-- The row of the submission 1 to the problem 10, accepted, as it is answered. -/
def acceptedReply : SqlReply :=
  .rows [[("id", .int 1), ("problem_id", .int 10), ("user_id", .int 2), ("language", .text "lean"),
    ("code", .text ""), ("status", .ofInt16 Status.accepted.code), ("create_time", .time ⟨0, 0⟩),
    ("update_time", .time ⟨0, 0⟩), ("is_deleted", .bool false)]]

/-- An accepted verdict, with its figures left out. -/
def acceptedVerdict : Verdict := ⟨.accepted, none, none, none, none, none⟩

/-- A log whose commit fails, and so does the rollback after it. -/
def unsureLog : List (Exchange SqlInterface) :=
  [⟨.start, .ok (.affected 0)⟩, ⟨.run (judgement 1 acceptedVerdict), .ok acceptedReply⟩,
    ⟨.run (acceptance 10), .ok (.affected 1)⟩, ⟨.commit, .error .poolClosed⟩,
    ⟨.rollback, .error .poolClosed⟩]

lemma leads_unsureLog : (complete 1 acceptedVerdict).run.Leads unsureLog
    (.done (.error SqlFault.poolClosed.failure)) := by
  rw [run_complete]
  exact .ask (.ask (.ask (.ask (.ask (.here _)))))

/-- A commit that fails may have been carried out: then the verdict and its count are kept, and
otherwise neither. -/
theorem complete_all_or_nothing_unsure :
    IsAllOrNothing 1 acceptedVerdict unsureLog (.done (.error SqlFault.poolClosed.failure)) ∧
      Ledger.Serves ⟨[], none⟩ unsureLog
        ⟨[judgement 1 acceptedVerdict, acceptance 10], none⟩ ∧
      Ledger.Serves ⟨[], none⟩ unsureLog ⟨[], none⟩ := by
  have hstart : Ledger.Serves ⟨[], none⟩ [⟨.start, .ok (.affected 0)⟩] ⟨[], some []⟩ :=
    .snoc .nil .answered
  have hjudged := hstart.snoc
    (x := ⟨.run (judgement 1 acceptedVerdict), .ok acceptedReply⟩) .answered
  have hcounted := hjudged.snoc (x := ⟨.run (acceptance 10), .ok (.affected 1)⟩) .answered
  refine ⟨complete_all_or_nothing leads_unsureLog, ?_, ?_⟩
  · have hcommit := hcounted.snoc (x := ⟨.commit, .error .poolClosed⟩) .carriedOut
    exact hcommit.snoc (x := ⟨.rollback, .error .poolClosed⟩) .carriedOut
  · have hcommit := hcounted.snoc (x := ⟨.commit, .error .poolClosed⟩) .lost
    exact hcommit.snoc (x := ⟨.rollback, .error .poolClosed⟩) .refused

end Repository

end Arbiter
