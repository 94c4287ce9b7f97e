import Arbiter.Proofs.Desk.Circumstances
import Arbiter.Proofs.Desk.SubmitCourse
import Arbiter.Proofs.Store.Mask

/-!
Desk work and clocks. Work that only looks things up comes to the same at any time, and a submit
looks at no time at all: what it is told apart from times is the same on stores that differ in
times only (`answer_timeless`). So work of either kind (`IsClockless`), done twice on one store in
circumstances that differ in nothing but what the clocks read, comes to the same, hands over the
same jobs and leaves stores that differ in times only (`IsClockless.run_eq`).
-/

namespace Arbiter

/-- The times of submissions are hidden. -/
def Mask.untiming : Mask where
  hide x := { x with createTime := ⟨0, 0⟩, updateTime := ⟨0, 0⟩ }
  id_hide _ := rfl
  problemId_hide _ := rfl
  status_hide _ := rfl
  isDeleted_hide _ := rfl

lemma Mask.untiming_judged {x y : Submission} (h : untiming.hide x = untiming.hide y) (v : Verdict)
    (now now' : Instant) : untiming.hide (x.judged v now) = untiming.hide (y.judged v now') := by
  have hx : untiming.hide (x.judged v now) = untiming.hide ((untiming.hide x).judged v now) := rfl
  have hy : untiming.hide (y.judged v now') = untiming.hide ((untiming.hide y).judged v now') := rfl
  rw [hx, hy, h]
  rfl

namespace Store

/-- The store without times. -/
def untimed (s : Store) : Store := s.masked .untiming

variable {s t : Store} (h : s.untimed = t.untimed)
include h

lemma create_untimed (now now' : Instant) (d : Draft) :
    (s.create now d).2.untimed = (t.create now' d).2.untimed := by
  have hlast : s.lastId = t.lastId := (congrArg Store.lastId h :)
  unfold untimed at h ⊢
  rw [create_masked, create_masked, h]
  rfl

lemma discard_untimed (id : SubmissionId) : (s.discard id).1 = (t.discard id).1 ∧
    (s.discard id).2.untimed = (t.discard id).2.untimed := by
  have hd : ((s.discard id).1, (s.discard id).2.untimed) =
      ((t.discard id).1, (t.discard id).2.untimed) := by
    unfold untimed at h ⊢
    rw [← discard_masked, h, discard_masked]
  exact Prod.mk.inj hd

lemma countSubmit_untimed (p : ProblemId) :
    (s.countSubmit p).map untimed = (t.countSubmit p).map untimed := by
  unfold untimed at h ⊢
  rw [← countSubmit_masked, h, countSubmit_masked]

theorem run_untimed (now now' : Instant) (c : StoreCall) :
    (s.run now c).2.untimed = (t.run now' c).2.untimed := by
  cases c with
  | create d => exact create_untimed h now now' d
  | discard id => exact (discard_untimed h id).2
  | complete id v => exact (complete_masked h fun x y _ hxy => Mask.untiming_judged hxy v _ _).2
  | countSubmit p =>
    have hp := countSubmit_untimed h p
    simp only [run]
    generalize s.countSubmit p = s' at hp ⊢
    generalize t.countSubmit p = t' at hp ⊢
    rcases s' with _ | s' <;> rcases t' with _ | t'
    · exact h
    · cases hp
    · cases hp
    · exact Option.some.inj hp
  | _ => exact h

lemma appliedAll_untimed (scoring : Scoring) {os os' : List (Instant × Outcome)}
    (hos : os.map (·.2) = os'.map (·.2)) :
    (s.appliedAll scoring os).untimed = (t.appliedAll scoring os').untimed := by
  induction os generalizing s t os' with
  | nil =>
    obtain rfl := List.map_eq_nil_iff.1 hos.symm
    exact h
  | cons o os ih =>
    obtain ⟨o', os', rfl, ho, hos⟩ := List.map_eq_cons_iff.1 hos.symm
    have hfirst : (s.applied scoring o.1 o.2).untimed = (t.applied scoring o'.1 o'.2).untimed := by
      rw [ho]
      exact applied_masked h rfl rfl fun x y p _ hxy => Mask.untiming_judged hxy _ _ _
    exact ih hfirst hos.symm

end Store

/-! ### Desk work -/

namespace Circumstances

/-- The circumstances differ in what the clocks read, and in nothing else. -/
structure SameButClocks (k k' : Circumstances) : Prop where
  fault : k.fault = k'.fault
  outcomes : ∀ n id, (k.dispatch n id).1.map (·.2) = (k'.dispatch n id).1.map (·.2)
  answer : ∀ n id, (k.dispatch n id).2 = (k'.dispatch n id).2
  scoring : k.scoring = k'.scoring

end Circumstances

/-- The states differ in the times of submissions, and in nothing else. -/
structure DeskState.SameButTimes (d e : DeskState) : Prop where
  store : d.store.untimed = e.store.untimed
  calls : d.calls = e.calls
  jobs : d.jobs = e.jobs

lemma DeskState.sameButTimes_refl (d : DeskState) : d.SameButTimes d := ⟨rfl, rfl, rfl⟩

/-- Answers that pass for the same, where times do not count. Calls whose answers tell times, or
were ordered by them, may be answered with anything. -/
def timeless : Likeness DeskInterface
  | .store (.create _), r, r' => OnBoth Eq (fun x y => x.id = y.id) r r'
  | .store (.findUser _), r, r' => r = r'
  | .store (.findProblem _), r, r' => r = r'
  | .store (.discard _), r, r' => r = r'
  | .store (.countSubmit _), r, r' => r = r'
  | .store _, _, _ => True
  | .enqueue _, r, r' => r = r'

variable {k k' : Circumstances}

lemma timeless_error (c : StoreCall) (f : Failure) :
    timeless (.store c) (.error f) (.error f) := by
  cases c <;> first | rfl | trivial

lemma timeless_run {s t : Store} (h : s.untimed = t.untimed) (now now' : Instant) (c : StoreCall) :
    timeless (.store c) (s.run now c).1 (t.run now' c).1 := by
  have hproblems : s.problems = t.problems := (congrArg Store.problems h :)
  have husers : s.users = t.users := (congrArg Store.users h :)
  cases c with
  | create d =>
    have hlast : s.lastId = t.lastId := (congrArg Store.lastId h :)
    exact congrArg (· + 1) hlast
  | findUser id => exact congrArg (fun users => Except.ok (users.find? id)) husers
  | findProblem id => exact congrArg (fun problems => Except.ok (problems.find? id)) hproblems
  | discard id => exact congrArg Except.ok (Store.discard_untimed h id).1
  | countSubmit p =>
    have hp := Store.countSubmit_untimed h p
    simp only [timeless, Store.run]
    generalize s.countSubmit p = s' at hp ⊢
    generalize t.countSubmit p = t' at hp ⊢
    rcases s' with _ | s' <;> rcases t' with _ | t'
    · rfl
    · cases hp
    · cases hp
    · rfl
  | _ => trivial

theorem answer_timeless (hk : k.SameButClocks k') (op : DeskCall) {d e : DeskState}
    (h : d.SameButTimes e) : timeless op (k.answer op d).1 (k'.answer op e).1 ∧
      (k.answer op d).2.SameButTimes (k'.answer op e).2 := by
  obtain ⟨hstore, hcalls, hjobs⟩ := h
  cases op with
  | store c =>
    simp only [Circumstances.answer, ← hcalls, ← hk.fault]
    cases k.fault d.calls with
    | some f => exact ⟨timeless_error c f, hstore, rfl, hjobs⟩
    | none => exact ⟨timeless_run hstore _ _ c, Store.run_untimed hstore _ _ c, rfl, hjobs⟩
  | enqueue id =>
    simp only [Circumstances.answer, ← hcalls, ← hk.scoring, ← hjobs]
    refine ⟨hk.answer d.calls id, ?_, rfl, rfl⟩
    exact Store.appliedAll_untimed hstore k.scoring (hk.outcomes d.calls id)

/-- The call looks something up. -/
def DeskCall.IsReading : DeskCall → Prop
  | .store c => c.IsReading
  | .enqueue _ => False

/-- At any time the same is found. -/
lemma answer_of_isReading (hk : k.SameButClocks k') {op : DeskCall} (hop : op.IsReading)
    (d : DeskState) : k.answer op d = k'.answer op d := by
  cases op with
  | store c =>
    have hrun : d.store.run (k.now d.calls) c = d.store.run (k'.now d.calls) c := by
      cases c with
      | create | discard | complete | countSubmit => exact hop.elim
      | _ => rfl
    simp only [Circumstances.answer, hk.fault, hrun]
  | enqueue id => exact hop.elim

variable {α β : Type}

lemma interpret_of_reading (hk : k.SameButClocks k') {w : Program DeskInterface α}
    (hw : w.Asks DeskCall.IsReading) (d : DeskState) :
    w.interpret k.answer d = w.interpret k'.answer d := by
  induction w generalizing d with
  | done a => rfl
  | ask op next ih =>
    show (next (k.answer op d).1).interpret k.answer (k.answer op d).2 =
      (next (k'.answer op d).1).interpret k'.answer (k'.answer op d).2
    rw [answer_of_isReading hk hw.1, ih _ (hw.2 _)]

/-- The work looks things up only, or looks at no times. -/
def Program.IsClockless (w : Program DeskInterface α) : Prop :=
  w.Asks DeskCall.IsReading ∨ w.Alike timeless Eq w

namespace Program.IsClockless

lemma done (a : α) : (Program.done a : Program DeskInterface α).IsClockless := .inl trivial

lemma bind_done {w : Program DeskInterface α} (h : w.IsClockless) {f : α → Program DeskInterface β}
    (hf : ∀ a, ∃ b, f a = .done b) : (w.bind f).IsClockless := by
  choose g hg using hf
  obtain rfl : f = fun a => .done (g a) := funext hg
  rcases h with h | h
  · exact .inl (h.bind fun _ => trivial)
  · exact .inr (h.bind fun a b hab => .done (congrArg g hab))

theorem run_eq {w : Program DeskInterface α} (hw : w.IsClockless) (hk : k.SameButClocks k')
    (s : Store) : (k.run w s).1 = (k'.run w s).1 ∧ (k.run w s).2.SameButTimes (k'.run w s).2 := by
  rcases hw with hw | hw
  · have hrun : k.run w s = k'.run w s := interpret_of_reading hk hw _
    rw [hrun]
    exact ⟨rfl, DeskState.sameButTimes_refl _⟩
  · exact Alike.interpret (R := DeskState.SameButTimes) (fun op d e h => answer_timeless hk op h) hw
      (DeskState.sameButTimes_refl _)

end Program.IsClockless

/-! ### What callers ask for -/

section Reading

variable {ok : DeskCall → Prop}

lemma asks_bind {w : Desk α} {f : α → Desk β} (h : w.run.Asks ok) (hf : ∀ a, (f a).run.Asks ok) :
    (w >>= f).run.Asks ok := by
  refine Program.Asks.bind h fun r => ?_
  rcases r with f | a
  · trivial
  · exact hf a

lemma asks_deskStore {c : StoreCall} (hc : ok (.store c)) : (Desk.store c).run.Asks ok :=
  ⟨hc, fun _ => trivial⟩

lemma reading_resolve (c : Caller) : (Desk.resolve c).run.Asks DeskCall.IsReading := by
  refine asks_bind (asks_deskStore trivial) fun u => ?_
  rcases u with _ | u
  · trivial
  · dsimp only
    split <;> trivial

lemma reading_view (c : Caller) (id : SubmissionId) :
    (Desk.view c id).run.Asks DeskCall.IsReading := by
  refine asks_bind (reading_resolve c) fun a => asks_bind (asks_deskStore trivial) fun x => ?_
  rcases x with _ | x <;> trivial

lemma reading_list (c : Caller) (f : Filter) : (Desk.list c f).run.Asks DeskCall.IsReading := by
  refine asks_bind (reading_resolve c) fun a => ?_
  dsimp only
  split
  · trivial
  · exact asks_bind (asks_deskStore trivial) fun _ => trivial

lemma reading_best (c : Caller) (user : UserId) (problem : ProblemId) :
    (Desk.best c user problem).run.Asks DeskCall.IsReading :=
  asks_bind (reading_resolve c) fun _ => asks_bind (asks_deskStore trivial) fun _ => trivial

lemma reading_stats (user : UserId) : (Desk.stats user).run.Asks DeskCall.IsReading :=
  asks_bind (asks_deskStore trivial) fun _ => asks_bind (asks_deskStore trivial) fun _ => trivial

end Reading

theorem timeless_submit (c : Caller) (problem : ProblemId) (language code : String) :
    (Desk.submit c problem language code).run.Alike timeless Eq
      (Desk.submit c problem language code).run := by
  rw [run_submit]
  rcases checkLanguage language with reason | _
  · exact .done rfl
  rcases checkCode code with reason | _
  · exact .done rfl
  refine .ask fun r r' (hr : r = r') => ?_
  subst r'
  rcases r with f | _ | u
  · exact .done rfl
  · exact .done rfl
  dsimp only
  split
  · refine .ask fun r r' (hr : r = r') => ?_
    subst r'
    rcases r with f | _ | p
    · exact .done rfl
    · exact .done rfl
    dsimp only
    split
    · exact .done rfl
    · -- the submissions may differ in times, and from now on only the id counts
      refine .ask fun r r' hr => ?_
      rcases r with f | x <;> rcases r' with f' | x'
      · exact .done (congrArg _ hr)
      · exact hr.elim
      · exact hr.elim
      have hid : x.id = x'.id := hr
      dsimp only
      rw [hid]
      refine .ask fun r r' (hr : r = r') => ?_
      subst r'
      rcases r with f | _
      · exact .ask fun _ _ _ => .done rfl
      · exact .ask fun _ _ _ => .done rfl
  · exact .done rfl

end Arbiter
