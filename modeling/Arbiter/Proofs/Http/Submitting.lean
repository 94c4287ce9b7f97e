import Arbiter.Proofs.Http.Admittance
import Arbiter.Proofs.Http.ClaimedRole
import Arbiter.Proofs.Wire.Request

/-!
Submits on their way to the desk. A request that posts a body of admissible fields gets through, and
the desk is asked to submit just what was written (`admissible_reaches_desk`): the length accepted
of a body is beyond all that the rules of admission let in, and nothing is lost in between.
-/

namespace Arbiter

/-- The request posts a body as JSON to a path, and if it declares a length it is that of the
body. -/
structure Request.Posts (r : Request) (path : String) (body : Bytes) : Prop where
  method : r.method = "POST"
  path : r.path = path
  type : r.hasJsonType = true
  declared : ∀ n ∈ r.declaredLength?, n = body.length
  body : r.body = body

namespace Request

variable {r : Request} {path : String} {body : Bytes}

lemma Posts.declaresTooMuch (h : r.Posts path body) (hfits : body.length ≤ maxBodyLength) :
    r.declaresTooMuch = false := by
  unfold Request.declaresTooMuch
  rcases hdeclared : r.declaredLength? with _ | n
  · rfl
  · rw [Option.any_some, h.declared n hdeclared]
    exact decide_eq_false (Nat.not_lt.2 hfits)

lemma Posts.bodyIsTooLong (h : r.Posts path body) (hfits : body.length ≤ maxBodyLength) :
    r.bodyIsTooLong = false := by
  have hleast : r.body.length ≤ (r.declaredLength?.getD maxBodyLength).min maxBodyLength := by
    rw [h.body]
    rcases hdeclared : r.declaredLength? with _ | n
    · exact Nat.le_min.2 ⟨hfits, hfits⟩
    · rw [h.declared n hdeclared]
      exact Nat.le_min.2 ⟨Nat.le_refl _, hfits⟩
  unfold Request.bodyIsTooLong
  exact decide_eq_false (Nat.not_lt.2 hleast)

lemma Posts.jsonBody {α : Type} {d : Decoder α} {a : α} (h : r.Posts path body)
    (hfits : body.length ≤ maxBodyLength) (hread : Decoder.decode d body = .ok a) :
    r.jsonBody d = .ok a := by
  unfold Request.jsonBody
  rw [h.type, h.bodyIsTooLong hfits, h.body, hread]
  rfl

end Request

namespace Server

/-- The response to a submit that was received. -/
def received (id : SubmissionId) : Response :=
  .success 202 "Submission received and queued for judging"
    (.obj [("submissionId", .ofInt64 id)])

/-- **What may be submitted reaches the desk intact.** Whatever number, language and code the rules
of admission accept, the compact body with these fields, in any order, is within the length that is
accepted, is read back as it was written, and has no faults in length. Whoever posts it with a valid
token is not turned away: the desk is asked to submit just these, and its answer is sent off. -/
theorem admissible_reaches_desk {b : SubmitRequest} (hlanguage : checkLanguage b.language = .ok ())
    (hcode : checkCode b.code = .ok ()) {ms : List (String × Json)} (hms : ms.Perm b.json.members) :
    (Json.obj ms).bytes.length ≤ Request.maxBodyLength ∧
      Decoder.decode SubmitRequest.decoder (Json.obj ms).bytes = .ok b ∧ b.lengthFaults = [] ∧
      ∀ (secret : String) (now : Instant) (r : Request) (c : Caller),
        r.Posts "/api/submission" (Json.obj ms).bytes → authenticate secret now r = .ok c →
        respond secret now r = (answer (Desk.submit c b.problemId b.language b.code) received).bind
          fun x => .done (sendOff r (some .submissions) x) := by
  have hfits := SubmitRequest.length_le hlanguage hcode hms
  have hread := SubmitRequest.decode_eq hms
  have hfaults := SubmitRequest.lengthFaults_eq_nil hlanguage hcode
  refine ⟨hfits, hread, hfaults, fun secret now r c hposts htoken => ?_⟩
  have hpath : Resource.ofPath? "/api/submission" = some .submissions := by decide +kernel
  have hadmits : Admits secret now r c .submissions :=
    ⟨by rw [hposts.method]; decide, hposts.declaresTooMuch hfits, by rw [hposts.path, hpath], rfl,
      htoken, by rw [hposts.method]; rfl⟩
  have hserve : serve c r .submissions =
      answer (Desk.submit c b.problemId b.language b.code) received := by
    unfold serve
    rw [hposts.jsonBody hfits hread]
    unfold answerWith
    dsimp only
    rw [hfaults]
    rfl
  rw [hadmits.respond_eq, hserve]

/-- A submit whose code has to be escaped. -/
def escapedSubmit : SubmitRequest := ⟨10, "c#", "print \"\x01\\\u20AC\""⟩

/-- The user 1 posts the submit, its last field first. -/
def postedRequest : Request :=
  { plainRequest with
    method := "POST"
    path := "/api/submission"
    headers := ("content-type", "application/json; charset=utf-8") :: plainRequest.headers
    body := (Json.obj escapedSubmit.json.members.reverse).bytes }

lemma posts_postedRequest :
    postedRequest.Posts "/api/submission" (Json.obj escapedSubmit.json.members.reverse).bytes := by
  have hdeclared : postedRequest.declaredLength? = none := by decide +kernel
  refine ⟨rfl, rfl, by decide +kernel, ?_, rfl⟩
  rw [hdeclared]
  exact nofun

lemma authenticate_postedRequest :
    authenticate "k" ⟨5, 0⟩ postedRequest = .ok ⟨1, .user⟩ := by
  have hbearer : postedRequest.bearer? = plainRequest.bearer? := by decide +kernel
  rw [← authenticate_plainRequest]
  unfold authenticate
  rw [hbearer]

theorem admissible_reaches_desk_escaped :
    checkLanguage escapedSubmit.language = .ok () ∧ checkCode escapedSubmit.code = .ok () ∧
      postedRequest.Posts "/api/submission" (Json.obj escapedSubmit.json.members.reverse).bytes ∧
      authenticate "k" ⟨5, 0⟩ postedRequest = .ok ⟨1, .user⟩ ∧
      respond "k" ⟨5, 0⟩ postedRequest =
        (answer (Desk.submit ⟨1, .user⟩ 10 "c#" escapedSubmit.code) received).bind
          fun x => .done (sendOff postedRequest (some .submissions) x) := by
  have hlanguage : checkLanguage escapedSubmit.language = .ok () :=
    ok_of_toOption (by decide +kernel)
  have hcode : checkCode escapedSubmit.code = .ok () := ok_of_toOption (by decide +kernel)
  obtain ⟨-, -, -, hrespond⟩ :=
    admissible_reaches_desk hlanguage hcode (List.reverse_perm escapedSubmit.json.members)
  exact ⟨hlanguage, hcode, posts_postedRequest, authenticate_postedRequest,
    hrespond _ _ _ _ posts_postedRequest authenticate_postedRequest⟩

end Server

end Arbiter
