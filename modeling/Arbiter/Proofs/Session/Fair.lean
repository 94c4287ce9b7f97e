import Arbiter.Proofs.Desk.SubmitCourse
import Arbiter.Proofs.Judging.ApplyCourse
import Arbiter.Proofs.Session.Run

/-!
Whatever a duty is told, its calls to the store are fair (`asks_work`): nothing writes a verdict
that is not final. Only submits and discards ask for more than judging does (`asks_judging`). In a
session, therefore, one move adds a new submission, or changes the store by the effect of one fair
call, or puts in a user or a problem (`IsFair.stir`); and new submissions keep coming under unused
ids (`Sound.after`).
-/

namespace Arbiter

namespace WorkCall

/-- If the call is one to the store, it is a fair one. -/
def IsFair : WorkCall → Prop
  | .store c => c.IsFair
  | .outer _ => True

/-- If the call is one to the store, it is one of judging. -/
def IsJudging : WorkCall → Prop
  | .store c => c.IsJudging
  | .outer _ => True

lemma IsJudging.isFair {c : WorkCall} (h : c.IsJudging) : c.IsFair := by
  rcases c with c | c
  · exact StoreCall.IsJudging.isFair h
  · trivial

end WorkCall

/-! ### Duties -/

/-- The duty neither submits nor discards. -/
def Duty.isJudging : Duty → Bool
  | .submit .. | .discard _ => false
  | _ => true

lemma asks_store {c : StoreCall} (hc : c.IsJudging) : (Work.store c).Asks WorkCall.IsJudging :=
  ⟨hc, fun _ => trivial⟩

lemma asks_outer (c : OuterCall) : (Work.outer c).Asks WorkCall.IsJudging :=
  ⟨trivial, fun _ => trivial⟩

lemma asks_workApply (scoring : Scoring) (o : Outcome) :
    (Work.apply scoring o).Asks WorkCall.IsJudging :=
  (asks_apply scoring o).expand fun _ hc => asks_store hc

/-- If the call of a sweep is one to the store, it is one of judging. -/
def SweepCall.IsJudging : SweepCall → Prop
  | .now => True
  | .store c => c.IsJudging

lemma asks_timeOut (scoring : Scoring) (timeoutSeconds : Nat) (ids : List SubmissionId) :
    (Sweep.timeOut scoring timeoutSeconds ids).Asks SweepCall.IsJudging := by
  induction ids with
  | nil => trivial
  | cons id ids ih =>
    have ha : (Sweep.applying (apply scoring (Sweep.outcome timeoutSeconds id)).run).Asks
        SweepCall.IsJudging :=
      (asks_apply _ _).expand fun _ hc => ⟨hc, fun _ => trivial⟩
    refine ha.bind fun r => ih.bind fun moved => ?_
    rcases r with f | _ | _ <;> trivial

lemma asks_sweep (scoring : Scoring) (timeoutSeconds : Nat) :
    (Sweep.once scoring timeoutSeconds).Asks SweepCall.IsJudging := by
  refine ⟨trivial, fun now => ⟨trivial, fun r => ?_⟩⟩
  rcases r with f | ids
  · trivial
  · exact (asks_timeOut scoring timeoutSeconds ids).bind fun _ => trivial

theorem asks_judging {d : Duty} (hd : d.isJudging = true) : d.work.Asks WorkCall.IsJudging := by
  cases d with
  | submit | discard => cases hd
  | apply scoring o => exact (asks_workApply scoring o).bind fun _ => trivial
  | sweep scoring timeoutSeconds =>
    refine ((asks_sweep scoring timeoutSeconds).expand fun op hop => ?_).bind fun _ => trivial
    cases op with
    | now => exact asks_outer .now
    | store c => exact asks_store hop
  | consume scoring c batches =>
    have h : (c.run batches).Asks fun _ => True := Program.asks_of_forall (fun _ => trivial) _
    refine (h.expand fun op _ => ?_).bind fun _ => trivial
    cases op with
    | apply o => exact asks_workApply scoring o
    | command | pause | stopping => exact asks_outer _
  | judge scoring delay o =>
    have h : (Simulation.judge delay o).Asks fun _ => True :=
      Program.asks_of_forall (fun _ => trivial) _
    refine (h.expand fun op _ => ?_).bind fun _ => trivial
    cases op with
    | apply o => exact asks_workApply scoring o
    | pause milliseconds => exact asks_outer _
  | stats user =>
    refine ⟨trivial, fun r => ?_⟩
    rcases r with f | n
    · trivial
    refine ⟨trivial, fun r => ?_⟩
    rcases r with f | n <;> trivial

lemma submitCourse_fair {problem : ProblemId} {p : SubmitPlace} {op : WorkCall}
    (h : (submitCourse problem).may p op) : op.IsFair := by
  cases p with
  | arriving =>
    rcases h with ⟨u, rfl⟩ | rfl
    · trivial
    · trivial
  | admitted => obtain ⟨d, -, rfl⟩ := h; trivial
  | stored | handedOver | refused => rw [show op = _ from h]; trivial
  | counted | takenBack => exact h.elim

/-- **All calls of all duties are fair.** -/
theorem asks_work (d : Duty) : d.work.Asks WorkCall.IsFair := by
  cases d with
  | submit c problem language code =>
    exact (keeps_submit problem c language code).asks fun _ _ h => submitCourse_fair h
  | discard id => exact ⟨trivial, fun _ => trivial⟩
  | _ => exact (asks_judging rfl).mono fun _ h => h.isFair

namespace Session

/-! ### Sessions -/

/-- What is left of every task asks for fair calls only. -/
def IsFair (s : Session) : Prop := ∀ t ∈ s.tasks, t.rest.Asks WorkCall.IsFair

theorem isFair_opened (s : Store) : (opened s).IsFair := by
  intro t ht; cases ht

theorem IsFair.step {s : Session} (hs : s.IsFair) (m : Move) : (s.step m).IsFair := by
  cases m with
  | start d =>
    intro t ht
    rcases List.mem_append.1 ht with ht | ht
    · exact hs t ht
    · rw [List.mem_singleton.1 ht]; exact asks_work d
  | insertUser | insertProblem => exact hs
  | turn t =>
    show (s.take t).IsFair
    rcases s.take_cases t with ⟨h, -⟩ | ⟨d, op, next, hget, h, -⟩
    · rw [h]; exact hs
    · rw [h]
      have hold := hs _ (List.mem_of_getElem? hget)
      intro u hu
      rcases List.mem_or_eq_of_mem_set hu with hu | hu
      · exact hs u hu
      · rw [hu]; exact hold.2 _

theorem IsFair.after {s : Session} (hs : s.IsFair) (ms : List Move) : (s.after ms).IsFair := by
  induction ms generalizing s with
  | nil => exact hs
  | cons m ms ih => exact ih (hs.step m)

/-! ### Moves -/

/-- What a move may do to the store. The submission is the one that it adds. -/
inductive Stir (s : Session) (m : Move) : Option Submission → Store → Prop
  | effect {t : Store} (h : s.store.Effect t) : Stir s m none t
  | created (now : Instant) (d : Draft) :
      Stir s m (some (s.store.create now d).1) (s.store.create now d).2
  | user (u : User) : Stir s m none (s.store.insertUser u)
  | problem {p : Problem} (hm : m = .insertProblem p) : Stir s m none (s.store.insertProblem p)

theorem IsFair.stir {s : Session} (hs : s.IsFair) (m : Move) :
    s.Stir m ((s.event? m).bind Event.created?) (s.step m).store := by
  cases m with
  | start d => exact .effect .nothing
  | insertUser u => exact .user u
  | insertProblem p => exact .problem rfl
  | turn t =>
    show s.Stir _ ((s.heard? t).bind _) (s.take t).store
    rcases s.take_cases t with ⟨h, he⟩ | ⟨d, op, next, hget, h, he⟩
    · rw [h, he]; exact .effect .nothing
    · rw [h, he]
      have hop : op.IsFair := (hs _ (List.mem_of_getElem? hget)).1
      show s.Stir _ (Event.created? ⟨d, op, _⟩) (t.answer s.store op).2
      rcases op with c | c
      · unfold Turn.answer
        rcases t.fault with _ | f
        · rcases Store.effect_run t.now s.store hop with ⟨dr, rfl⟩ | heff
          · exact .created t.now dr
          · cases c with
            | create dr => exact .created t.now dr
            | _ => exact .effect heff
        · cases c <;> exact .effect .nothing
      · exact .effect .nothing

/-! ### Ids -/

/-- A session whose tasks ask for fair calls only, and whose store gives out unused ids. -/
structure Sound (s : Session) : Prop where
  fair : s.IsFair
  numbered : s.store.Numbered

theorem sound_opened {s : Store} (hs : s.Numbered) : (opened s).Sound := ⟨isFair_opened s, hs⟩

lemma Stir.numbered {s : Session} {m : Move} {x : Option Submission} {t : Store}
    (h : s.Stir m x t) (hs : s.store.Numbered) (hi : s.store.HasIds) : t.Numbered := by
  cases h with
  | effect h => exact hs.effect h
  | created now d => exact hs.create hi now d
  | user | problem => exact hs

lemma Stir.lastId_le {s : Session} {m : Move} {x : Option Submission} {t : Store}
    (h : s.Stir m x t) (hi : s.store.HasIds) : s.store.lastId ≤ t.lastId := by
  cases h with
  | effect h => rw [h.lastId_eq]; exact Int64.le_refl _
  | created now d => exact Int64.le_of_lt (Store.lastId_lt_next hi)
  | user | problem => exact Int64.le_refl _

theorem Sound.step {s : Session} (hs : s.Sound) (hi : s.store.HasIds) (m : Move) :
    (s.step m).Sound :=
  ⟨hs.fair.step m, (hs.fair.stir m).numbered hs.numbered hi⟩

theorem Sound.after {s : Session} (hs : s.Sound) {ms : List Move}
    (hi : s.Throughout Store.HasIds ms) : (s.after ms).Sound := by
  induction ms generalizing s with
  | nil => exact hs
  | cons m ms ih => exact ih (hs.step hi.1 m) hi.2

end Session

end Arbiter
