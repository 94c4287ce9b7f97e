import Arbiter.Proofs.Desk.SubmitCourse
import Arbiter.Proofs.Program.Log
import Mathlib.Data.List.Basic

/-!
The logs of a submit that is through (`submitLog_of_leads`): it looked the account and the problem
up, and either went no further, or could not store its submission, or stored it, had its job refused
and asked for the submission to be removed, or stored it, handed its job over and was counted. What
follows a submission that was stored is therefore known (`SubmitLog.of_created`).
-/

namespace Arbiter

/-- The account or the problem of a submit is looked up. -/
def Exchange.IsLookup (problem : ProblemId) (x : Exchange WorkInterface) : Prop :=
  (∃ u, x.op = .store (.findUser u)) ∨ x.op = .store (.findProblem problem)

/-- What a submit asked and was answered, against what it came to. -/
inductive SubmitLog (problem : ProblemId) :
    List (Exchange WorkInterface) → Except Failure SubmissionId → Prop
  /-- Nothing was stored, nor asked to be. -/
  | turnedAway {looks : List (Exchange WorkInterface)} (h : ∀ x ∈ looks, x.IsLookup problem)
      (f : Failure) : SubmitLog problem looks (.error f)
  /-- The submission could not be stored. -/
  | unstored {looks : List (Exchange WorkInterface)} (h : ∀ x ∈ looks, x.IsLookup problem)
      (d : Draft) (f : Failure) :
      SubmitLog problem (looks ++ [⟨.store (.create d), .error f⟩]) (.error f)
  /-- The job was refused. -/
  | refused {looks : List (Exchange WorkInterface)} (h : ∀ x ∈ looks, x.IsLookup problem)
      (d : Draft) (x : Submission) (f : DispatchFailure) (removed : Except Failure Bool) :
      SubmitLog problem (looks ++ [⟨.store (.create d), .ok x⟩, ⟨.outer (.enqueue x.id), .error f⟩,
        ⟨.store (.discard x.id), removed⟩]) (.error (.dispatch f))
  | accepted {looks : List (Exchange WorkInterface)} (h : ∀ x ∈ looks, x.IsLookup problem)
      (d : Draft) (x : Submission) (counted : Except Failure Unit) :
      SubmitLog problem (looks ++ [⟨.store (.create d), .ok x⟩, ⟨.outer (.enqueue x.id), .ok ()⟩,
        ⟨.store (.countSubmit problem), counted⟩]) (.ok x.id)

namespace SubmitLog

variable {problem : ProblemId} {log : List (Exchange WorkInterface)}
  {r : Except Failure SubmissionId}

lemma cons {x : Exchange WorkInterface} (hx : x.IsLookup problem) (h : SubmitLog problem log r) :
    SubmitLog problem (x :: log) r := by
  have hlooks : ∀ {looks : List (Exchange WorkInterface)}, (∀ y ∈ looks, y.IsLookup problem) →
      ∀ y ∈ x :: looks, y.IsLookup problem := fun h => List.forall_mem_cons.2 ⟨hx, h⟩
  cases h with
  | turnedAway h f => exact .turnedAway (hlooks h) f
  | unstored h d f => exact .unstored (hlooks h) d f
  | refused h d y f removed => exact .refused (hlooks h) d y f removed
  | accepted h d y counted => exact .accepted (hlooks h) d y counted

lemma not_isLookup_create (d : Draft) (a : Except Failure Submission) :
    ¬ Exchange.IsLookup problem ⟨.store (.create d), a⟩ := by
  rintro (⟨u, h⟩ | h) <;> cases h

/-- **What follows a submission that was stored.** It was stored once, and either its job was
refused and it was to be removed, or its job was handed over and it was counted. -/
theorem of_created {d : Draft} {x : Submission} {before rest : List (Exchange WorkInterface)}
    (h : SubmitLog problem (before ++ ⟨.store (.create d), .ok x⟩ :: rest) r) :
    (∀ e ∈ before, e.IsLookup problem) ∧
      ((∃ f removed, r = .error (.dispatch f) ∧
          rest = [⟨.outer (.enqueue x.id), .error f⟩, ⟨.store (.discard x.id), removed⟩]) ∨
        ∃ counted, r = .ok x.id ∧
          rest = [⟨.outer (.enqueue x.id), .ok ()⟩, ⟨.store (.countSubmit problem), counted⟩]) := by
  generalize hlog : before ++ ⟨.store (.create d), .ok x⟩ :: rest = log at h
  have hcut : ∀ {looks tail : List (Exchange WorkInterface)} {e : Exchange WorkInterface},
      (∀ y ∈ looks, y.IsLookup problem) → (∀ y ∈ tail, y.op ≠ .store (.create d)) →
        before ++ ⟨.store (.create d), .ok x⟩ :: rest = looks ++ e :: tail →
          looks = before ∧ e = ⟨.store (.create d), .ok x⟩ ∧ tail = rest := fun hlooks htail h =>
    (List.append_cons_inj_of_notMem (fun hmem => not_isLookup_create d _ (hlooks _ hmem))
      fun hmem => htail _ hmem rfl).1 h.symm
  cases h with
  | turnedAway h f =>
    exact absurd (h _ (hlog ▸ List.mem_append_right before List.mem_cons_self))
      (not_isLookup_create d _)
  | unstored h d' f =>
    obtain ⟨-, he, -⟩ := hcut h (by simp) hlog
    cases he
  | refused h d' x' f removed =>
    obtain ⟨rfl, he, rfl⟩ := hcut h (by simp) hlog
    cases he
    exact ⟨h, .inl ⟨f, removed, rfl, rfl⟩⟩
  | accepted h d' x' counted =>
    obtain ⟨rfl, he, rfl⟩ := hcut h (by simp) hlog
    cases he
    exact ⟨h, .inr ⟨counted, rfl, rfl⟩⟩

theorem op_of_error {f : Failure} (h : SubmitLog problem log (.error f))
    {e : Exchange WorkInterface} (he : e ∈ log) :
    e.IsLookup problem ∨ (∃ d, e.op = .store (.create d)) ∨ (∃ id, e.op = .outer (.enqueue id)) ∨
      ∃ d x, ⟨.store (.create d), .ok x⟩ ∈ log ∧ e.op = .store (.discard x.id) := by
  cases h with
  | turnedAway h => exact .inl (h e he)
  | unstored h d =>
    rcases List.mem_append.1 he with he | he
    · exact .inl (h e he)
    · rw [List.mem_singleton.1 he]
      exact .inr (.inl ⟨d, rfl⟩)
  | refused h d x f removed =>
    rcases List.mem_append.1 he with he' | he'
    · exact .inl (h e he')
    · rcases List.mem_cons.1 he' with rfl | he'
      · exact .inr (.inl ⟨d, rfl⟩)
      rcases List.mem_cons.1 he' with rfl | he'
      · exact .inr (.inr (.inl ⟨x.id, rfl⟩))
      rw [List.mem_singleton.1 he']
      exact .inr (.inr (.inr ⟨d, x, List.mem_append_right _ List.mem_cons_self, rfl⟩))

end SubmitLog

lemma submitLog_of_leads_create {problem : ProblemId} (d : Draft)
    {log : List (Exchange WorkInterface)} {r : Except Failure SubmissionId}
    {w : Work Ended}
    (hw : w = .ask (.store (.create d)) fun
      | .error f => .done (.submitted (.error f))
      | .ok x => .ask (.outer (.enqueue x.id)) fun
        | .error f =>
          .ask (.store (.discard x.id)) fun _ => .done (.submitted (.error (.dispatch f)))
        | .ok () => .ask (.store (.countSubmit problem)) fun _ => .done (.submitted (.ok x.id)))
    (h : w.Leads log (.done (.submitted r))) : SubmitLog problem log r := by
  subst hw
  -- a log that comes to the end has an answer to each call on the way there
  have hnil : ∀ e ∈ ([] : List (Exchange WorkInterface)), e.IsLookup problem := by simp
  rcases Program.leads_ask.1 h with ⟨-, hleft⟩ | ⟨stored, log₁, rfl, h₁⟩
  · cases hleft
  rcases stored with f | x
  · obtain ⟨rfl, hleft⟩ := Program.leads_done.1 h₁
    cases hleft
    exact .unstored hnil d f
  rcases Program.leads_ask.1 h₁ with ⟨-, hleft⟩ | ⟨sent, log₂, rfl, h₂⟩
  · cases hleft
  rcases sent with f | _
  · rcases Program.leads_ask.1 h₂ with ⟨-, hleft⟩ | ⟨removed, log₃, rfl, h₃⟩
    · cases hleft
    obtain ⟨rfl, hleft⟩ := Program.leads_done.1 h₃
    cases hleft
    exact .refused hnil d x f removed
  · rcases Program.leads_ask.1 h₂ with ⟨-, hleft⟩ | ⟨counted, log₃, rfl, h₃⟩
    · cases hleft
    obtain ⟨rfl, hleft⟩ := Program.leads_done.1 h₃
    cases hleft
    exact .accepted hnil d x counted

theorem submitLog_of_leads {c : Caller} {problem : ProblemId} {language code : String}
    {log : List (Exchange WorkInterface)} {r : Except Failure SubmissionId}
    (h : (Duty.submit c problem language code).work.Leads log (.done (.submitted r))) :
    SubmitLog problem log r := by
  -- before the submission is to be stored, whatever fails ends the submit
  have hnone : ∀ {log : List (Exchange WorkInterface)} {f : Failure} {e : Ended},
      (Program.done (.submitted (.error f)) : Work Ended).Leads log (.done e) →
        e = .submitted r → SubmitLog problem log r := by
    rintro log f e h rfl
    obtain ⟨rfl, h⟩ := Program.leads_done.1 h
    cases h
    exact .turnedAway (by simp) f
  revert h
  change (((Desk.submit c problem language code).run.expand _).bind _).Leads _ _ → _
  rw [run_submit]
  rcases checkLanguage language with reason | _
  · exact fun h => hnone h rfl
  rcases checkCode code with reason | _
  · exact fun h => hnone h rfl
  intro h
  rcases Program.leads_ask.1 h with ⟨-, hleft⟩ | ⟨found, log₁, rfl, h₁⟩
  · cases hleft
  refine .cons (.inl ⟨_, rfl⟩) ?_
  rcases found with f | _ | u
  · exact hnone h₁ rfl
  · exact hnone h₁ rfl
  change (Program.bind (Program.expand _ (ite _ _ _)) _).Leads _ _ at h₁
  split at h₁
  · rcases Program.leads_ask.1 h₁ with ⟨-, hleft⟩ | ⟨found, log₂, rfl, h₂⟩
    · cases hleft
    refine .cons (.inr rfl) ?_
    rcases found with f | _ | p
    · exact hnone h₂ rfl
    · exact hnone h₂ rfl
    change (Program.bind (Program.expand _ (ite _ _ _)) _).Leads _ _ at h₂
    split at h₂
    · exact hnone h₂ rfl
    · refine submitLog_of_leads_create ⟨problem, u.id, language, code⟩ ?_ h₂
      refine congrArg (Program.ask _) (funext fun stored => ?_)
      rcases stored with f | x
      · rfl
      refine congrArg (Program.ask _) (funext fun sent => ?_)
      rcases sent with f | _ <;> rfl
  · exact hnone h₁ rfl

end Arbiter
