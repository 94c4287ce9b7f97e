import Arbiter.Proofs.Http.Submitting
import Arbiter.Proofs.Session.Run

/-!
What went wrong inside stays inside. Failures of the store, of the program itself and of the
dispatcher come with details, and clients are told no more of them than the kind
(`Failure.SameKind`). Desk work never looks at the details either, so two runs whose calls fail
alike but for these are answered with the same response and leave the same behind
(`failure_details_stay_inside`): over any store and dispatcher (`Likeness.undetailed`), and over
stores in memory on clocks of their own (`Circumstances.SameButDetails`).
-/

namespace Arbiter

/-- The failures differ at most in details that are kept from clients. -/
inductive Failure.SameKind : Failure → Failure → Prop
  | refl (f : Failure) : SameKind f f
  | database (detail detail' : String) : SameKind (.database detail) (.database detail')
  | internal (detail detail' : String) : SameKind (.internal detail) (.internal detail')
  | dispatch (cause cause' : DispatchFailure) : SameKind (.dispatch cause) (.dispatch cause')

namespace Failure.SameKind

variable {f g : Failure}

lemma status_eq (h : f.SameKind g) : f.status = g.status := by cases h <;> rfl

lemma body_eq (h : f.SameKind g) : f.body = g.body := by cases h <;> rfl

end Failure.SameKind

/-- Nothing is hidden. -/
def Veil.clear : Veil where
  hide x := x
  bare_hide _ := rfl
  judged v now h := congrArg (·.judged v now) h

/-- The details of failures are kept from everyone, and nothing else is. -/
def Discretion.ofDetails : Discretion where
  veil := .clear
  isFor _ := True
  passes := Failure.SameKind
  view_hide _ _ := rfl
  passes_refl := .refl
  status_eq := Failure.SameKind.status_eq
  body_eq := Failure.SameKind.body_eq

/-- Calls to the store fail alike but for details or are answered the same, and jobs are refused
alike but for the reasons or handed over. -/
def Likeness.undetailed : Likeness DeskInterface
  | .store _ => OnBoth Failure.SameKind Eq
  | .enqueue _ => fun r r' => r.isOk = r'.isOk

lemma passes_of_isOk_eq {r r' : Except DispatchFailure Unit} (h : r.isOk = r'.isOk) :
    OnBoth (fun f g => Failure.SameKind (.dispatch f) (.dispatch g)) (fun _ _ => True) r r' := by
  rcases r with f | a <;> rcases r' with g | b
  · exact .dispatch f g
  · cases h
  · cases h
  · trivial

lemma likeness_ofDetails {u : UserId} {op : DeskCall} {a b : DeskInterface.Answer op}
    (h : Likeness.undetailed op a b) : Discretion.ofDetails.likeness u op a b := by
  cases op with
  | store c =>
    rcases a with f | a <;> rcases b with g | b
    · exact h
    · exact h
    · exact h
    · obtain rfl : a = b := h
      cases c with
      | findUser id => exact ⟨rfl, fun _ _ _ => trivial⟩
      | _ => exact rfl
  | enqueue id => exact passes_of_isOk_eq h

namespace Circumstances

/-- The same calls fail in both, and alike but for details; clocks may read anything. -/
structure SameButDetails (k k' : Circumstances) : Prop where
  fault : ∀ n, Option.Rel Failure.SameKind (k.fault n) (k'.fault n)
  outcomes : ∀ n id, (k.dispatch n id).1.map (·.2) = (k'.dispatch n id).1.map (·.2)
  refused : ∀ n id, (k.dispatch n id).2.isOk = (k'.dispatch n id).2.isOk
  scoring : k.scoring = k'.scoring

/-- The clocks of one, with the details of the other. -/
def detailedBy (k k' : Circumstances) : Circumstances where
  now := k.now
  fault := k'.fault
  dispatch n id := ((k.dispatch n id).1, (k'.dispatch n id).2)
  scoring := k.scoring

variable {k k' : Circumstances} (h : k.SameButDetails k')
include h

lemma SameButDetails.resemble : Discretion.ofDetails.Resemble k (k.detailedBy k') where
  now := rfl
  fault := h.fault
  outcomes _ _ := rfl
  answer n id := passes_of_isOk_eq (h.refused n id)
  scoring := rfl

lemma SameButDetails.sameButClocks : (k.detailedBy k').SameButClocks k' where
  fault := rfl
  outcomes := h.outcomes
  answer _ _ := rfl
  scoring := h.scoring

end Circumstances

lemma Store.veiled_ofDetails (s : Store) : s.veiled Discretion.ofDetails.veil = s := by
  have hrows : s.submissions.mapRows Veil.clear.hide Veil.clear.id_hide = s.submissions :=
    Table.ext (List.map_id' _)
  show { s with submissions := s.submissions.mapRows _ Veil.clear.id_hide } = s
  rw [hrows]

namespace Server

variable {secret : String} {now now' : Instant} {r : Request}

/-- The time of a request counts for its token only. -/
lemma respond_congr (h : authenticate secret now r = authenticate secret now' r) :
    respond secret now r = respond secret now' r := by
  unfold respond respondAt serveResource
  rw [h]

lemma alike_respond_undetailed (secret : String) (now : Instant) (r : Request) :
    ∃ u, (respond secret now r).Alike (Discretion.ofDetails.likeness u) Eq
      (respond secret now r) := by
  rcases htoken : authenticate secret now r with f | c
  · exact ⟨0, Discretion.alike_respond fun c hc => by cases htoken.symm.trans hc⟩
  · refine ⟨c.userId, Discretion.alike_respond fun c' hc' => ?_⟩
    cases htoken.symm.trans hc'
    rfl

end Server

/-- **The details of failures stay inside.** Whatever request is made, two runs in which the same
calls to the store and the dispatcher fail, with the same kinds of failures but for details of their
own, are answered with the same response: status, headers and body. So it is over any store and
dispatcher that are left the same by both, and they are left the same in the end. So it is over any
store in memory too, whatever the clocks read in the two runs: the same jobs are handed over, and
the stores afterwards differ at most in times. -/
theorem failure_details_stay_inside {secret : String} {now now' : Instant} {r : Request}
    (hr : Server.authenticate secret now r = Server.authenticate secret now' r) :
    (∀ (S : Type) (run run' : (op : DeskCall) → StateM S (DeskInterface.Answer op)),
      (∀ op s, Likeness.undetailed op (run op s).1 (run' op s).1 ∧ (run op s).2 = (run' op s).2) →
        ∀ s, (Server.respond secret now r).interpret run s =
          (Server.respond secret now' r).interpret run' s) ∧
      ∀ k k' : Circumstances, k.SameButDetails k' → ∀ s : Store,
        (k.run (Server.respond secret now r) s).1 = (k'.run (Server.respond secret now' r) s).1 ∧
          (k.run (Server.respond secret now r) s).2.store.untimed =
            (k'.run (Server.respond secret now' r) s).2.store.untimed ∧
          (k.run (Server.respond secret now r) s).2.jobs =
            (k'.run (Server.respond secret now' r) s).2.jobs := by
  obtain ⟨u, halike⟩ := Server.alike_respond_undetailed secret now r
  rw [← Server.respond_congr hr]
  refine ⟨?_, ?_⟩
  · intro S run run' hrun s
    have hcalls : ∀ op (s t : S), s = t →
        Discretion.ofDetails.likeness u op (run op s).1 (run' op t).1 ∧
          (run op s).2 = (run' op t).2 := by
      rintro op s _ rfl
      exact (hrun op s).imp_left likeness_ofDetails
    obtain ⟨hresponse, hstate⟩ := halike.interpret hcalls (rfl : s = s)
    exact Prod.ext hresponse hstate
  · intro k k' hk s
    -- first the details change, and then the clocks
    obtain ⟨hresponse, hlook⟩ := Discretion.run_alike halike hk.resemble (rfl : s.veiled .clear = _)
      (fun _ _ => trivial)
    obtain ⟨hresponse', hstate⟩ :=
      (Server.isClockless_respond secret now r).run_eq hk.sameButClocks s
    refine ⟨hresponse.trans hresponse', ?_, hlook.jobs.trans hstate.jobs⟩
    have hstore := hlook.store
    rw [Store.veiled_ofDetails, Store.veiled_ofDetails] at hstore
    exact (congrArg Store.untimed hstore).trans hstate.store

/-- The dispatcher refuses all jobs, and the store fails when the submission is to be taken back. -/
def Circumstances.refusing (now : Instant) (cause : DispatchFailure) : Circumstances where
  now _ := now
  fault n := if n = 4 then some (.database cause.text) else none
  dispatch _ _ := ([], .error cause)
  scoring := reportedScore

lemma Circumstances.sameButDetails_refusing (now now' : Instant) (cause cause' : DispatchFailure) :
    (refusing now cause).SameButDetails (refusing now' cause') where
  fault n := by
    unfold refusing
    dsimp only
    split
    · exact .some (.database _ _)
    · exact .none
  outcomes _ _ := rfl
  refused _ _ := rfl
  scoring := rfl

/-- What comes of posting a submission whose job is refused and that cannot be taken back. -/
def refusedPost (now : Instant) (cause : DispatchFailure) : Response × DeskState :=
  (Circumstances.refusing now cause).run (Server.respond "k" ⟨5, 0⟩ Server.postedRequest)
    Session.smallStore

theorem failure_details_stay_inside_refused :
    (refusedPost ⟨5, 0⟩ (.unavailable "no route to 10.0.0.7")).1 =
      (refusedPost ⟨6, 0⟩ (.unencodable "lone surrogate")).1 ∧
    ((refusedPost ⟨5, 0⟩ (.unavailable "no route to 10.0.0.7")).1.status,
      (refusedPost ⟨5, 0⟩ (.unavailable "no route to 10.0.0.7")).2.calls) = (503, 5) := by
  have hsame : Server.authenticate "k" ⟨5, 0⟩ Server.postedRequest =
      Server.authenticate "k" ⟨5, 0⟩ Server.postedRequest := rfl
  obtain ⟨-, hrefused⟩ := failure_details_stay_inside hsame
  obtain ⟨hresponse, -, -⟩ :=
    hrefused _ _ (Circumstances.sameButDetails_refusing ⟨5, 0⟩ ⟨6, 0⟩ _ _) Session.smallStore
  exact ⟨hresponse, by decide +kernel⟩

end Arbiter
