import Arbiter.Proofs.Json.Reading
import Arbiter.Proofs.Judging.Retry
import Arbiter.Proofs.Program.Log

/-!
The judge's information about a submission is stored as it was given; where none was given a summary
is stored, and that is a JSON text that says what the same record says (`Submission.IsInformed`,
`judgeInfo_tells_record`). It is written from the figures of the verdict, not from the reported
ones, so it cannot say anything else (`isInformed_judged`).
-/

namespace Arbiter

/-- The status and the figures of the submission, as JSON. -/
def Submission.figures (x : Submission) : Json :=
  .obj
    [("memory", .ofOption .ofInt32 x.memory), ("runTime", .ofOption .ofInt32 x.runTime),
      ("score", .ofOption .ofInt32 x.score), ("status", .str x.status.name)]

/-- The judge's information is stored as it was given; if none was given there is a text in its
place that says what the rest of the record says. -/
structure Submission.IsInformed (x : Submission) (given : Option String) : Prop where
  asGiven : ∀ text, given = some text → x.judgeInfo = some text
  summed : given = none →
    ∃ text, x.judgeInfo = some text ∧ Json.read? (Utf8.encode text) = some x.figures

lemma Json.isReadable_ofInt32 (depth : Nat) (n : Option Int32) :
    (Json.ofOption Json.ofInt32 n).IsReadable depth := by
  rcases n with _ | n
  · trivial
  · exact Decoder.holds_int64_of_int32 (Decoder.holds_toInt32 n)

lemma Verdict.read?_summary (status : Status) (runTime memory score : Option Int32) :
    Json.read? (Utf8.encode (summary status runTime memory score).text) =
      some (summary status runTime memory score) := by
  have hbytes : Utf8.encode (summary status runTime memory score).text =
      (summary status runTime memory score).bytes := by
    unfold Utf8.encode Json.text
    rw [String.toList_ofList]
    rfl
  rw [hbytes]
  apply Json.read?_bytes
  exact ⟨by decide, Json.isReadable_ofInt32 _ memory, Json.isReadable_ofInt32 _ runTime,
    Json.isReadable_ofInt32 _ score, trivial, trivial⟩

lemma Submission.isInformed_judged (x : Submission) (scoring : Scoring) (o : Outcome)
    (p : Option Problem) (now : Instant) :
    (x.judged (.ofOutcome scoring o p) now).IsInformed o.judgeInfo where
  asGiven text h := by
    show some (o.judgeInfo.getD _) = some text
    rw [h, Option.getD_some]
  summed h := by
    refine ⟨_, ?_, Verdict.read?_summary _ _ _ _⟩
    show some (o.judgeInfo.getD _) = some _
    rw [h, Option.getD_none]
    rfl

/-- All verdicts that are written in applying an outcome are its own. -/
lemma asks_apply_complete (scoring : Scoring) (o : Outcome) :
    (apply scoring o).run.Asks fun c => ∀ id v, c = StoreCall.complete id v →
      id = o.submissionId ∧ ∃ p, v = Verdict.ofOutcome scoring o p := by
  refine (keeps_apply scoring o).asks fun place c hc => ?_
  rintro id v rfl
  cases place with
  | arriving | found | outrun => cases hc
  | informed x p =>
    obtain ⟨hcall, -⟩ := hc
    cases hcall
    exact ⟨rfl, p, rfl⟩
  | ended => exact hc.elim

/-- What a store answers when it writes a verdict is what is stored from then on. -/
lemma Store.complete_eq_some {s t : Store} {now : Instant} {id : SubmissionId} {v : Verdict}
    {y : Submission} (h : s.complete now id v = (some y, t)) :
    t.find? id = some y ∧ ∃ x : Submission, y = x.judged v now := by
  rcases pending_or_not (s.find? id) with ⟨x, hx, hp⟩ | hn
  · rw [complete_of_isPending hx hp] at h
    cases h
    exact ⟨find?_settle_judged hx v now, x, rfl⟩
  · rw [complete_of_not_isPending hn] at h
    cases h

/-- **The stored information tells the truth.** Whatever an outcome is applied to, and whatever is
answered in between, each verdict that is written is for the submission of the outcome, and what
stands in its record then is the judge's information as the outcome gives it, or, if it gives none,
a text that is read as an object with the status, the run time, the memory and the score of that
same record, and nothing else. Applied to a live pending submission with nobody else at work, a
final outcome is written so. -/
theorem judgeInfo_tells_record (scoring : Scoring) (o : Outcome) :
    (∀ log w, (apply scoring o).run.Leads log w → ∀ x ∈ log, ∀ id v, x.op = .complete id v →
      id = o.submissionId ∧ ∀ (s t : Store) (now : Instant) (y : Submission),
        s.complete now id v = (some y, t) → t.find? id = some y ∧ y.IsInformed o.judgeInfo) ∧
      ∀ (s : Store) (now : Instant) (x : Submission), s.find? o.submissionId = some x →
        x.isPending = true → o.status.isFinal = true → ∃ y,
          s.told scoring now o = .ok (.now y) ∧
          (s.applied scoring now o).find? o.submissionId = some y ∧ y.IsInformed o.judgeInfo := by
  constructor
  · intro log w hw x hx id v hop
    obtain ⟨hid, p, rfl⟩ := (asks_apply_complete scoring o).of_mem_log hw x hx id v hop
    refine ⟨hid, fun s t now y hy => ?_⟩
    obtain ⟨hfind, x, rfl⟩ := Store.complete_eq_some hy
    exact ⟨hfind, x.isInformed_judged scoring o p now⟩
  · intro s now x hx hp ho
    refine ⟨_, Store.told_of_isPending hx hp ho, ?_, x.isInformed_judged scoring o _ now⟩
    rw [Store.applied_of_isPending hx hp ho]
    exact Store.find?_settle_judged hx _ now

/-- A report of five milliseconds and a score above the total, on a limit that was exceeded. -/
def Outcome.tooSlow : Outcome :=
  { Outcome.ofStatus 1 .timeLimitExceeded with runTime := some 5, score := some 300 }

theorem judgeInfo_tells_record_tooSlow : ∃ y text,
    Store.twoPending.told reportedScore ⟨1, 0⟩ .tooSlow = .ok (.now y) ∧
      y.judgeInfo = some text ∧ y.runTime = some 1001 ∧
      Json.read? (Utf8.encode text) = some (.obj
        [("memory", .null), ("runTime", .int 1001), ("score", .int 100),
          ("status", .str "TIME_LIMIT_EXCEEDED")]) := by
  obtain ⟨-, hstore⟩ := judgeInfo_tells_record reportedScore .tooSlow
  obtain ⟨y, htold, -, hinformed⟩ := hstore .twoPending ⟨1, 0⟩ _ rfl rfl rfl
  obtain ⟨text, htext, hread⟩ := hinformed.summed rfl
  refine ⟨y, text, htold, htext, ?_⟩
  cases htold
  exact ⟨rfl, hread⟩

end Arbiter
