import Arbiter.Proofs.Desk.Discretion
import Arbiter.Proofs.Http.Admittance

/-!
What the server keeps from callers is what the desk keeps: a request with a caller's token is
answered alike by two runs whose calls are answered alike (`alike_respond`), whichever resource it
is for and whatever becomes of it.
-/

namespace Arbiter.Discretion

open Server

variable {D : Discretion} {u : UserId} {α β : Type}

lemma failure_eq {f g : Failure} (h : D.passes f g) : Response.failure f = .failure g := by
  unfold Response.failure
  rw [D.status_eq h, D.body_eq h]

lemma alike_answer {w w' : Desk α} (h : D.Agree u Eq w w') (response : α → Response) :
    (answer w response).Alike (D.likeness u) Eq (answer w' response) := by
  refine Program.Alike.bind h fun r r' hr => ?_
  rcases r with f | a <;> rcases r' with g | b
  · exact .done (failure_eq hr)
  · exact hr.elim
  · exact hr.elim
  · exact .done (congrArg response hr)

lemma alike_answerWith (part : Except Refusal α) {work : α → Desk β}
    (h : ∀ a, D.Agree u Eq (work a) (work a)) (response : β → Response) :
    (answerWith part work response).Alike (D.likeness u) Eq (answerWith part work response) := by
  rcases part with r | a
  · exact .done rfl
  · exact alike_answer (h a) response

lemma agree_orFail (r : Except Failure α) : D.Agree u Eq (orFail r) (orFail r) := by
  rcases r with f | a
  · exact agree_throw f
  · exact agree_pure rfl

theorem alike_serve {c : Caller} (hc : c.userId = u) (r : Request) (resource : Resource) :
    (serve c r resource).Alike (D.likeness u) Eq (serve c r resource) := by
  cases resource with
  | health => exact .done rfl
  | submissions =>
    refine alike_answerWith _ (fun b => ?_) _
    exact (agree_orFail _).bind fun _ _ _ => agree_submit hc _ _ _
  | submissionList =>
    refine alike_answerWith _ (fun b => ?_) _
    refine (agree_orFail _).bind fun _ _ _ => (agree_orFail _).bind fun f g hfg => ?_
    rw [hfg]
    exact agree_list hc g
  | bestSubmission => exact alike_answerWith _ (fun problem => agree_best hc _ problem) _
  | standing =>
    refine alike_answerWith _ (fun problem => ?_) _
    exact (agree_standing _ problem).bind fun a b hab => agree_pure (congrArg _ hab)
  | submission id => exact alike_answerWith _ (agree_view hc) _
  | userStats id => exact alike_answerWith _ agree_stats _

theorem alike_respond {secret : String} {now : Instant} {r : Request}
    (hr : ∀ c, authenticate secret now r = .ok c → c.userId = u) :
    (respond secret now r).Alike (D.likeness u) Eq (respond secret now r) := by
  rcases respond_cases secret now r with ⟨x, hx, -⟩ | ⟨c, resource, hadmits, hserve⟩
  · rw [hx]
    exact .done rfl
  · rw [hserve]
    refine (alike_serve (hr c hadmits.token) r resource).bind ?_
    rintro x _ rfl
    exact .done rfl

end Arbiter.Discretion
