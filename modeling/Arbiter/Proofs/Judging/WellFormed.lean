import Arbiter.Proofs.Judging.Terms

/-!
What stands in a submission, as far as judging writes it (`Submission.verdict`). Every verdict of a
final outcome is well formed for the problem that it was made with, whatever the judge reports and
however it is scored (`Verdict.isWellFormed_ofOutcome`). Whether it is depends on the problem's
terms alone, so it lasts while the problem's counters move (`Verdict.IsWellFormed.congr`).
-/

namespace Arbiter

/-- The text has a character that is not white space. -/
def HasInk (text : String) : Prop := ∃ c ∈ text.toList, isBlankChar c = false

lemma hasInk_of_not_isBlankText {text : String} (h : isBlankText text = false) : HasInk text := by
  unfold isBlankText at h
  obtain ⟨c, hc, hblank⟩ := List.all_eq_false.1 h
  exact ⟨c, hc, by simpa using hblank⟩

lemma HasInk.append {text : String} (h : HasInk text) (more : String) : HasInk (text ++ more) := by
  obtain ⟨c, hc, hblank⟩ := h
  refine ⟨c, ?_, hblank⟩
  rw [String.toList_append]
  exact List.mem_append_left _ hc

namespace Verdict

/-- The score is one that the problem allows: it is there just in case the problem is, and in
scored mode, and it lies between zero and the total, at the end that the status asks for. -/
structure IsScoredBy (v : Verdict) (p : Option Problem) : Prop where
  present : v.score.isSome = true ↔ ∃ q, p = some q ∧ q.isScored = true
  bounds : ∀ q ∈ p, ∀ n ∈ v.score, 0 ≤ n ∧ n ≤ max q.totalScore 0
  accepted : v.status = .accepted → ∀ q ∈ p, ∀ n ∈ v.score, n = max q.totalScore 0
  compileError : v.status = .compileError → ∀ n ∈ v.score, n = 0

/-- Nothing is written before judging, and then all is there that belongs to the status. -/
structure IsWellFormed (v : Verdict) (p : Option Problem) : Prop where
  pending : v.status = .pending → v = ⟨.pending, none, none, none, none, none⟩
  judgeInfo : v.status.isFinal = true → v.judgeInfo.isSome = true
  message : v.status.isFinal = true → (v.errorMessage = none ↔ v.status = .accepted)
  ink : ∀ m ∈ v.errorMessage, HasInk m
  usage : v.status = .compileError ∨ v.status = .systemError → v.runTime = none ∧ v.memory = none
  score : v.status.isFinal = true → v.IsScoredBy p

/-! ### Verdicts of outcomes -/

section OfOutcome

variable (scoring : Scoring) {o : Outcome} (p : Option Problem)

lemma hasInk_defaultMessage {status : Status} (h : status.isFinal = true)
    (ha : status ≠ .accepted) : HasInk (defaultMessage status p) := by
  cases status with
  | pending => cases h
  | accepted => exact absurd rfl ha
  | timeLimitExceeded =>
    rcases p with _ | p
    · exact hasInk_of_not_isBlankText (by decide)
    · have hlimit : HasInk "Time limit of " := hasInk_of_not_isBlankText (by decide)
      exact (hlimit.append _).append _
  | memoryLimitExceeded =>
    rcases p with _ | p
    · exact hasInk_of_not_isBlankText (by decide)
    · have hlimit : HasInk "Memory limit of " := hasInk_of_not_isBlankText (by decide)
      exact (hlimit.append _).append _
  | compileError | wrongAnswer | runtimeError | systemError =>
    refine hasInk_of_not_isBlankText ?_
    dsimp only [defaultMessage]
    decide

/-- There is a message just in case the outcome is not an acceptance, and it says something. -/
lemma message_cases (ho : o.status.isFinal = true) :
    (o.status = .accepted ∧ message o p = none) ∨
      o.status ≠ .accepted ∧ ∃ m, message o p = some m ∧ HasInk m := by
  have hsome : o.status ≠ .accepted → message o p = some
      ((o.errorMessage.filter fun m => !isBlankText m).getD (defaultMessage o.status p)) := by
    intro ha
    unfold message
    cases hstatus : o.status with
    | accepted => exact absurd hstatus ha
    | pending =>
      rw [hstatus] at ho
      cases ho
    | _ => rfl
  by_cases ha : o.status = .accepted
  · refine .inl ⟨ha, ?_⟩
    unfold message
    rw [ha]
  · refine .inr ⟨ha, _, hsome ha, ?_⟩
    rcases hm : o.errorMessage.filter fun m => !isBlankText m with _ | m
    · exact hasInk_defaultMessage p ho ha
    · have hblank := (Option.filter_eq_some_iff.1 hm).2
      rw [Bool.not_eq_true'] at hblank
      exact hasInk_of_not_isBlankText hblank

lemma int32Max_eq (a b : Int32) : max a b = if a ≤ b then b else a := rfl

lemma int32Min_eq (a b : Int32) : min a b = if a ≤ b then a else b := rfl

lemma clamp_bounds {total : Int32} (h : 0 ≤ total) (n : Int32) :
    0 ≤ max 0 (min total n) ∧ max 0 (min total n) ≤ total := by
  rw [int32Max_eq, int32Min_eq]
  grind

/-- The score lies between zero and the total, whatever the policy gives. -/
lemma scoreOf_bounds (o : Outcome) (q : Problem) :
    0 ≤ scoreOf scoring o q ∧ scoreOf scoring o q ≤ max q.totalScore 0 := by
  have htotal : 0 ≤ max q.totalScore 0 := by
    rw [int32Max_eq]
    grind
  unfold scoreOf
  dsimp only
  split
  · exact ⟨htotal, Int32.le_refl _⟩
  · exact ⟨Int32.le_refl _, htotal⟩
  · exact clamp_bounds htotal _

lemma isScoredBy_ofOutcome (o : Outcome) : (ofOutcome scoring o p).IsScoredBy p := by
  have hscore : ∀ n ∈ (ofOutcome scoring o p).score, ∃ q, p = some q ∧ scoreOf scoring o q = n := by
    intro n hn
    obtain ⟨q, hq, hn⟩ := Option.map_eq_some_iff.1 hn
    exact ⟨q, (Option.filter_eq_some_iff.1 hq).1, hn⟩
  refine ⟨?_, ?_, ?_, ?_⟩
  · show ((p.filter _).map _).isSome = true ↔ _
    rw [Option.isSome_map, Option.isSome_iff_exists]
    simp only [Option.filter_eq_some_iff]
  · intro q hq n hn
    obtain ⟨q', rfl, rfl⟩ := hscore n hn
    cases hq
    exact scoreOf_bounds scoring o q
  · intro (hstatus : o.status = .accepted) q hq n hn
    obtain ⟨q', rfl, rfl⟩ := hscore n hn
    cases hq
    unfold scoreOf
    rw [hstatus]
  · intro (hstatus : o.status = .compileError) n hn
    obtain ⟨q, -, rfl⟩ := hscore n hn
    unfold scoreOf
    rw [hstatus]

theorem isWellFormed_ofOutcome (ho : o.status.isFinal = true) :
    (ofOutcome scoring o p).IsWellFormed p where
  pending hpending := by
    have hpending : o.status = .pending := hpending
    rw [hpending] at ho
    cases ho
  judgeInfo _ := rfl
  message _ := by
    show message o p = none ↔ o.status = .accepted
    rcases message_cases p ho with ⟨ha, hm⟩ | ⟨ha, m, hm, -⟩
    · exact iff_of_true hm ha
    · rw [hm]
      exact iff_of_false (Option.some_ne_none m) ha
  ink m hm := by
    have hm : message o p = some m := hm
    rcases message_cases p ho with ⟨-, hnone⟩ | ⟨-, m', hm', hink⟩
    · rw [hnone] at hm
      cases hm
    · rw [hm'] at hm
      cases hm
      exact hink
  usage hstatus := by
    have hstatus : o.status = .compileError ∨ o.status = .systemError := hstatus
    have husage : usage o p = (none, none) := by
      unfold usage
      rcases hstatus with h | h <;> rw [h]
    exact Prod.mk.inj husage
  score _ := isScoredBy_ofOutcome scoring p o

end OfOutcome

/-! ### The terms of problems -/

lemma IsScoredBy.congr {v : Verdict} {p q : Problem} (h : p.terms = q.terms)
    (hv : v.IsScoredBy (some p)) : v.IsScoredBy (some q) := by
  have htotal : q.totalScore = p.totalScore := (congrArg Problem.totalScore h.symm :)
  have hscored : q.isScored = p.isScored := (congrArg Problem.isScored h.symm :)
  obtain ⟨hpresent, hbounds, haccepted, herror⟩ := hv
  simp only [Option.some.injEq, exists_eq_left', Option.mem_def, forall_eq'] at *
  rw [← hscored] at hpresent
  rw [← htotal] at hbounds haccepted
  constructor <;> simpa only [Option.some.injEq, exists_eq_left', Option.mem_def, forall_eq']

theorem IsWellFormed.congr {v : Verdict} {p q : Option Problem}
    (h : p.map (·.terms) = q.map (·.terms)) (hv : v.IsWellFormed p) : v.IsWellFormed q := by
  refine { hv with score := fun hfinal => ?_ }
  have hscore := hv.score hfinal
  rcases p with _ | p <;> rcases q with _ | q
  · exact hscore
  · cases h
  · cases h
  · exact hscore.congr (Option.some.inj h)

end Verdict

/-- What judging has written into a submission. -/
def Submission.verdict (x : Submission) : Verdict :=
  ⟨x.status, x.runTime, x.memory, x.judgeInfo, x.errorMessage, x.score⟩

lemma Submission.isWellFormed_ofDraft (id : SubmissionId) (now : Instant) (d : Draft)
    (p : Option Problem) : (Submission.ofDraft id now d).verdict.IsWellFormed p where
  pending _ := rfl
  judgeInfo h := by cases h
  message h := by cases h
  ink m hm := by cases hm
  usage _ := ⟨rfl, rfl⟩
  score h := by cases h

end Arbiter
