import Arbiter.Proofs.Desk.Clearance
import Arbiter.Proofs.Http.Admittance
import Arbiter.Proofs.Http.ClaimedRole

/-!
Requests that are turned away. Without a valid token nothing is told that depends on what is stored,
and nothing comes of a request (`without_token_nothing_is_told`). With one, but without an account
that is in use, nothing comes of it either; the desk finds out who asks before it does anything
(`isIdle_submit`, `isIdle_resolve`), and what it refuses is no success. Two resources are told
without the desk finding out, and a locked-out account is told these and no others
(`locked_out_is_told_iff`).
-/

namespace Arbiter

/-! ### Without a token -/

/-- The first authorization header is `Bearer` and a token that is valid at the time and names a
caller. -/
def Request.IsAuthorized (secret : String) (now : Instant) (r : Request) : Prop :=
  ∃ token c, r.header? "authorization" = some ("Bearer " ++ token) ∧
    Token.caller secret now token = .ok c

lemma Request.header?_of_bearer? {r : Request} {token : String} (h : r.bearer? = some token) :
    r.header? "authorization" = some ("Bearer " ++ token) := by
  unfold bearer? at h
  obtain ⟨value, hvalue, h⟩ := Option.bind_eq_some_iff.1 h
  obtain ⟨hheader, -⟩ := Option.filter_eq_some_iff.1 hvalue
  split at h
  · rename_i hscheme
    obtain rfl : String.ofList (value.toList.drop 7) = token := Option.some.inj h
    have hrest : "Bearer ".toList ++ value.toList.drop 7 = value.toList :=
      List.prefix_iff_eq_append.1 (List.isPrefixOf_iff_prefix.1 hscheme)
    rw [hheader]
    refine congrArg some (String.toList_inj.1 ?_)
    rw [String.toList_append, String.toList_ofList (l := value.toList.drop 7), hrest]
  · cases h

lemma Server.isAuthorized_of_authenticate {secret : String} {now : Instant} {r : Request}
    {c : Caller} (h : authenticate secret now r = .ok c) : r.IsAuthorized secret now := by
  unfold authenticate at h
  split at h
  · cases h
  · rename_i token htoken
    exact ⟨token, c, Request.header?_of_bearer? htoken, h⟩

/-- **Without a valid token a request is told nothing, and nothing comes of it.** If the first
authorization header of a request is missing, or is not `Bearer` and a token that is valid and names
a caller, the request is answered with the same response whatever is stored and whatever the
circumstances are. No call is made, so the store stays as it is and no job is handed over. The
response is a success only to a preflight, or where the request asks how the service is. -/
theorem without_token_nothing_is_told {secret : String} {now : Instant} {r : Request}
    (h : ¬ r.IsAuthorized secret now) :
    (∀ (k k' : Circumstances) (s t : Store), (k.run (Server.respond secret now r) s).1 =
        (k'.run (Server.respond secret now r) t).1) ∧
      ∀ (k : Circumstances) (s : Store), (k.run (Server.respond secret now r) s).2 = ⟨s, 0, []⟩ ∧
        ((k.run (Server.respond secret now r) s).1.IsSuccess ↔ Server.IsOpenTo r) := by
  have hadmits : ∀ c resource, ¬ Server.Admits secret now r c resource := by
    intro c resource hadmits
    exact h (Server.isAuthorized_of_authenticate hadmits.token)
  obtain ⟨x, hx, hsuccess⟩ := Server.respond_of_not_admits hadmits
  rw [hx]
  exact ⟨fun k k' s t => rfl, fun k s => ⟨rfl, hsuccess⟩⟩

/-- The scheme's name is in lower case. -/
def Server.lowerCaseRequest : Request :=
  { claimedRequest with headers := [("authorization", "bearer x")] }

theorem without_token_nothing_is_told_lower_case :
    ¬ Server.lowerCaseRequest.IsAuthorized "k" ⟨0, 0⟩ ∧
      (Circumstances.smooth.run (Server.respond "k" ⟨0, 0⟩ Server.lowerCaseRequest)
          (Store.withWords "a")).1 =
        (Circumstances.late.run (Server.respond "k" ⟨0, 0⟩ Server.lowerCaseRequest)
          (Store.withWords "b")).1 ∧
      (Circumstances.smooth.run (Server.respond "k" ⟨0, 0⟩ Server.lowerCaseRequest)
        (Store.withWords "a")).2 = ⟨Store.withWords "a", 0, []⟩ := by
  have h : ¬ Server.lowerCaseRequest.IsAuthorized "k" ⟨0, 0⟩ := by
    rintro ⟨token, c, hheader, -⟩
    have hvalue : "bearer x" = "Bearer " ++ token := Option.some.inj hheader
    have hfirst := congrArg (fun value => value.toList.head?) hvalue
    rw [String.toList_append] at hfirst
    have hletter : 'b' = 'B' := Option.some.inj hfirst
    exact absurd hletter (by decide)
  obtain ⟨hsame, hidle⟩ := without_token_nothing_is_told h
  exact ⟨h, hsame _ _ _ _, (hidle _ _).1⟩

/-! ### Without an account -/

/-- There is no account under the id, or one that is disabled. -/
def Store.LocksOut (s : Store) (u : UserId) : Prop := ∀ a ∈ s.users.find? u, a.status = .disabled

lemma Store.LocksOut.clearance_eq {s : Store} {u : UserId} (h : s.LocksOut u) :
    s.clearance u = none := by
  unfold clearance
  rcases ha : s.users.find? u with _ | a
  · rfl
  · have hactive : a.isActive = false := by
      unfold User.isActive
      rw [h a ha]
      rfl
    rw [Option.filter_some, hactive]
    rfl

namespace Circumstances

variable {k : Circumstances} {s : Store} {n : Nat} {α β : Type} {q : Prop}

/-- After some calls to a store, the work leaves it as it is and hands nothing over, and comes to
something just in case `q`. -/
def IsIdle (k : Circumstances) (s : Store) (n : Nat) (w : Desk α) (q : Prop) : Prop :=
  ∃ r m, w.run.interpret k.answer ⟨s, n, []⟩ = (r, ⟨s, m, []⟩) ∧ (r.isOk = true ↔ q)

lemma isIdle_error (f : Failure) : k.IsIdle s n (ExceptT.mk (pure (.error f)) : Desk α) False :=
  ⟨.error f, n, rfl, iff_of_false Bool.false_ne_true id⟩

lemma isIdle_pure (a : α) : k.IsIdle s n (pure a) True :=
  ⟨.ok a, n, rfl, iff_of_true rfl trivial⟩

lemma isIdle_lookUp {c : StoreCall} (hc : c.IsReading) {f : c.Result → Desk α}
    (h : ∀ a, k.IsIdle s (n + 1) (f a) q) :
    k.IsIdle s n (Desk.store c >>= f) (k.fault n = none ∧ q) := by
  unfold IsIdle
  have hrun : (Desk.store c >>= f).run = .ask (.store c) fun
      | .error e => .done (.error e)
      | .ok a => (f a).run := by
    refine congrArg (Program.ask _) (funext fun r => ?_)
    rcases r with e | a <;> rfl
  obtain ⟨a, ha⟩ : ∃ a, (s.run (k.now n) c).1 = .ok a := by
    cases c with
    | create | discard | complete | countSubmit => exact hc.elim
    | _ => exact ⟨_, rfl⟩
  rw [hrun, interpret_store]
  dsimp only
  rcases hfault : k.fault n with _ | e
  · dsimp only
    rw [ha, Store.run_of_isReading s _ hc]
    obtain ⟨r, m, hr, hq⟩ := h a
    exact ⟨r, m, hr, hq.trans (and_iff_right rfl).symm⟩
  · exact ⟨.error e, n + 1, rfl, iff_of_false Bool.false_ne_true fun h => by cases h.1⟩

lemma isIdle_resolve {c : Caller} (h : s.LocksOut c.userId) (f : Caller → Desk α) :
    k.IsIdle s 0 (Desk.resolve c >>= f) False := by
  unfold IsIdle
  have hrun := run_resolve (k := k) c f s
  rw [h.clearance_eq] at hrun
  unfold run at hrun
  rw [hrun]
  rcases k.fault 0 with _ | e
  · exact ⟨_, 1, rfl, iff_of_false Bool.false_ne_true id⟩
  · exact ⟨_, 1, rfl, iff_of_false Bool.false_ne_true id⟩

lemma isIdle_orFail (r : Except Failure α) {f : α → Desk β}
    (h : ∀ a, k.IsIdle s n (f a) False) : k.IsIdle s n (Server.orFail r >>= f) False := by
  rcases r with e | a
  · exact isIdle_error e
  · exact h a

lemma isIdle_validate (r : Except String Unit) {f : Unit → Desk β}
    (h : k.IsIdle s n (f ()) False) : k.IsIdle s n (Desk.validate r >>= f) False := by
  rcases r with reason | ⟨⟨⟩⟩
  · exact isIdle_error (.validation reason)
  · exact h

lemma isIdle_submit {c : Caller} (h : s.LocksOut c.userId) (problem : ProblemId)
    (language code : String) : k.IsIdle s 0 (Desk.submit c problem language code) False :=
  isIdle_validate _ (isIdle_validate _ (isIdle_resolve h _))

lemma isIdle_standing (user : UserId) (problem : ProblemId) :
    k.IsIdle s 0 (do return (problem, ← Desk.standing user problem)) (k.fault 0 = none) := by
  rw [← and_true (k.fault 0 = none)]
  exact isIdle_lookUp (c := .standing user problem) trivial fun standing =>
    isIdle_pure (problem, standing)

lemma isIdle_stats (user : UserId) :
    k.IsIdle s 0 (Desk.stats user) (k.fault 0 = none ∧ k.fault 1 = none) := by
  rw [← and_true (k.fault 1 = none)]
  exact isIdle_lookUp (c := .countByUser user) trivial fun submitted =>
    isIdle_lookUp (c := .countSolved user) trivial fun solved =>
      isIdle_pure (⟨user, submitted, solved⟩ : UserStats)

/-! ### What is told -/

/-- The request is answered without anything coming of it, with a success just in case `q`. -/
def Tells (k : Circumstances) (s : Store) (w : Program DeskInterface Response) (q : Prop) : Prop :=
  ∃ x n, k.run w s = (x, ⟨s, n, []⟩) ∧ (x.IsSuccess ↔ q)

lemma interpret_bind_of_eq {w : Program DeskInterface α} {d e : DeskState} {a : α}
    (h : w.interpret k.answer d = (a, e)) (f : α → Program DeskInterface β) :
    (w >>= f).interpret k.answer d = (f a).interpret k.answer e := by
  rw [Program.bind_eq, Program.interpret_bind]
  show (f (w.interpret k.answer d).1).interpret k.answer (w.interpret k.answer d).2 = _
  rw [h]

lemma tells_answer {w : Desk α} (h : k.IsIdle s 0 w q) {response : α → Response}
    (hresponse : ∀ a, (response a).IsSuccess) : k.Tells s (Server.answer w response) q := by
  obtain ⟨r, n, hrun, hr⟩ := h
  unfold Tells run Server.answer
  rw [interpret_bind_of_eq hrun]
  rcases r with f | a
  · exact ⟨_, n, rfl, (iff_of_false (Response.not_isSuccess_failure f) Bool.false_ne_true).trans hr⟩
  · exact ⟨_, n, rfl, (iff_of_true (hresponse a) rfl).trans hr⟩

lemma tells_answerWith (part : Except Refusal α) {work : α → Desk β}
    (h : ∀ a, k.IsIdle s 0 (work a) q) {response : β → Response}
    (hresponse : ∀ b, (response b).IsSuccess) :
    k.Tells s (Server.answerWith part work response) ((∃ a, part = .ok a) ∧ q) := by
  rcases part with f | a
  · refine ⟨f.response, 0, rfl, iff_of_false f.not_isSuccess_response ?_⟩
    rintro ⟨⟨a, ha⟩, -⟩
    cases ha
  · have hq : ((∃ a', (.ok a : Except Refusal α) = .ok a') ∧ q) = q :=
      propext (and_iff_right ⟨a, rfl⟩)
    rw [hq]
    exact tells_answer (h a) hresponse

/-- What the desk finds out about the account for is no success. -/
lemma tells_answerWith_false (part : Except Refusal α) {work : α → Desk β}
    (h : ∀ a, k.IsIdle s 0 (work a) False) {response : β → Response}
    (hresponse : ∀ b, (response b).IsSuccess) :
    k.Tells s (Server.answerWith part work response) False := by
  obtain ⟨x, n, hx, hsuccess⟩ := tells_answerWith part h hresponse
  exact ⟨x, n, hx, hsuccess.trans (iff_of_false (fun h => h.2) id)⟩

end Circumstances

/-- The request is for something that is told without a look at the account, and it can be told. -/
def Request.AsksUnchecked (k : Circumstances) (r : Request) : Resource → Prop
  | .standing => (∃ p, r.queryNumber "problemId" = .ok p) ∧ k.fault 0 = none
  | .userStats id => (∃ u, Request.pathNumber id = .ok u) ∧ k.fault 0 = none ∧ k.fault 1 = none
  | _ => False

namespace Circumstances

variable {k : Circumstances} {s : Store} {secret : String} {now : Instant} {r : Request}

lemma tells_serve {c : Caller} (h : s.LocksOut c.userId) {resource : Resource}
    (hclosed : resource.isOpen = false) :
    k.Tells s (Server.serve c r resource) (r.AsksUnchecked k resource) := by
  have hok : ∀ data, (Server.ok data).IsSuccess := fun data =>
    Response.isSuccess_success (by decide) _ data
  cases resource with
  | health => cases hclosed
  | submissions =>
    refine tells_answerWith_false _ (fun b => ?_) fun id =>
      Response.isSuccess_success (by decide) _ _
    exact isIdle_orFail _ fun _ => isIdle_submit h b.problemId b.language b.code
  | submissionList =>
    refine tells_answerWith_false _ (fun b => ?_) fun p => hok _
    exact isIdle_orFail _ fun _ => isIdle_orFail _ fun f => isIdle_resolve h _
  | bestSubmission => exact tells_answerWith_false _ (fun p => isIdle_resolve h _) fun v => hok _
  | standing => exact tells_answerWith _ (isIdle_standing c.userId) fun v => hok _
  | submission id => exact tells_answerWith_false _ (fun p => isIdle_resolve h _) fun v => hok _
  | userStats id => exact tells_answerWith _ isIdle_stats fun v => hok _

/-- **What a locked-out account is told.** -/
lemma tells_respond {u : UserId} (hr : r.IsOf secret now u) (h : s.LocksOut u) :
    k.Tells s (Server.respond secret now r) (Server.IsOpenTo r ∨
      ∃ resource, Resource.ofPath? r.path = some resource ∧ resource.allows r.method = true ∧
        r.declaresTooMuch = false ∧ r.AsksUnchecked k resource) := by
  obtain ⟨c, hc, rfl⟩ := hr
  by_cases hadmits : ∃ d resource, Server.Admits secret now r d resource
  · obtain ⟨d, resource, hadmits⟩ := hadmits
    obtain rfl : c = d := Except.ok.inj (hc.symm.trans hadmits.token)
    obtain ⟨x, n, hx, hsuccess⟩ := tells_serve (k := k) (r := r) h hadmits.closed
    refine ⟨Server.sendOff r (some resource) x, n, ?_, ?_⟩
    · rw [hadmits.respond_eq]
      exact interpret_bind_of_eq hx _
    · rw [Response.isSuccess_congr (Server.status_sendOff _ _ _), hsuccess]
      constructor
      · intro hasks
        exact .inr ⟨resource, hadmits.path, hadmits.allowed, hadmits.length, hasks⟩
      · rintro ((hopt | ⟨-, hhealth, -⟩) | ⟨other, hpath, -, -, hasks⟩)
        · exact absurd hopt hadmits.method
        · cases hadmits.path.symm.trans hhealth
          cases hadmits.closed
        · cases hadmits.path.symm.trans hpath
          exact hasks
  · have hnone : ∀ d resource, ¬ Server.Admits secret now r d resource := fun d resource h =>
      hadmits ⟨d, resource, h⟩
    obtain ⟨x, hx, hsuccess⟩ := Server.respond_of_not_admits hnone
    refine ⟨x, 0, by rw [hx]; rfl, hsuccess.trans ⟨.inl, ?_⟩⟩
    rintro (hopen | ⟨resource, hpath, hallowed, hlength, hasks⟩)
    · exact hopen
    -- a resource that is told unchecked wants a token, and the request has one
    · refine absurd ?_ (hnone c resource)
      refine ⟨?_, hlength, hpath, ?_, hc, hallowed⟩
      · intro hopt
        rw [hopt] at hallowed
        cases resource <;> cases hallowed
      · cases resource with
        | standing | userStats => rfl
        | _ => exact hasks.elim

end Circumstances

/-- **A locked-out account is told what is told unchecked, and nothing else.** A request with a
valid token of a user who has no account, or a disabled one, changes nothing in the store and hands
no job over, whatever the circumstances are. The response is a success just in case the request is
one that everyone is told, or is allowed, and asks for a standing or a user's numbers by a parameter
that can be read, while the store does not fail. -/
theorem locked_out_is_told_iff {secret : String} {now : Instant} {u : UserId} {r : Request}
    (hr : r.IsOf secret now u) {s : Store} (h : s.LocksOut u) (k : Circumstances) :
    (k.run (Server.respond secret now r) s).2.store = s ∧
      (k.run (Server.respond secret now r) s).2.jobs = [] ∧
      ((k.run (Server.respond secret now r) s).1.IsSuccess ↔ Server.IsOpenTo r ∨
        ∃ resource, Resource.ofPath? r.path = some resource ∧ resource.allows r.method = true ∧
          r.declaresTooMuch = false ∧ r.AsksUnchecked k resource) := by
  obtain ⟨x, n, hx, hsuccess⟩ := Circumstances.tells_respond (k := k) hr h
  rw [hx]
  exact ⟨rfl, rfl, hsuccess⟩

/-! ### A disabled account -/

/-- The user 1, whose account is disabled. -/
def Store.withDisabled : Store := Store.empty.insertUser ⟨1, .user, .disabled⟩

lemma Store.locksOut_withDisabled : withDisabled.LocksOut 1 := by
  intro a ha
  obtain rfl : ⟨1, .user, .disabled⟩ = a := Option.some.inj ha
  rfl

/-- A request of the user 1 for a path. -/
def Server.requestFor (path query : String) : Request := { claimedRequest with path, query }

lemma Server.authenticate_congr {secret : String} {now : Instant} {r r' : Request}
    (h : r.headers = r'.headers) : authenticate secret now r = authenticate secret now r' := by
  unfold authenticate Request.bearer? Request.visibleHeader? Request.header?
  rw [h]

lemma Server.isOf_requestFor (path query : String) :
    (requestFor path query).IsOf "k" ⟨0, 0⟩ 1 := by
  have hheaders : (requestFor path query).headers = claimedRequest.headers := rfl
  have htoken : authenticate "k" ⟨0, 0⟩ (requestFor path query) = .ok ⟨1, .admin⟩ :=
    (authenticate_congr hheaders).trans authenticate_claimedRequest
  exact ⟨⟨1, .admin⟩, htoken, rfl⟩

theorem locked_out_is_told_iff_best :
    ¬ (Circumstances.smooth.run (Server.respond "k" ⟨0, 0⟩
      (Server.requestFor "/api/submission/best" "problemId=10"))
      Store.withDisabled).1.IsSuccess := by
  obtain ⟨-, -, hsuccess⟩ := locked_out_is_told_iff
    (Server.isOf_requestFor "/api/submission/best" "problemId=10") Store.locksOut_withDisabled
    Circumstances.smooth
  rw [hsuccess]
  have hpath : Resource.ofPath? "/api/submission/best" = some .bestSubmission := by
    decide +kernel
  rintro ((hopt | ⟨-, hhealth, -⟩) | ⟨resource, hresource, -, -, hasks⟩)
  · exact absurd hopt (by decide)
  · cases hpath.symm.trans hhealth
  · cases hpath.symm.trans hresource
    exact hasks

/-- A standing is told to a disabled account. -/
theorem locked_out_is_told_standing :
    (Server.requestFor "/api/submission/status" "problemId=10").IsOf "k" ⟨0, 0⟩ 1 ∧
      Store.withDisabled.LocksOut 1 ∧
      (Circumstances.smooth.run (Server.respond "k" ⟨0, 0⟩
        (Server.requestFor "/api/submission/status" "problemId=10"))
        Store.withDisabled).1.IsSuccess := by
  have hr := Server.isOf_requestFor "/api/submission/status" "problemId=10"
  refine ⟨hr, Store.locksOut_withDisabled, ?_⟩
  obtain ⟨x, n, hx, hsuccess⟩ :=
    Circumstances.tells_respond (k := .smooth) hr Store.locksOut_withDisabled
  rw [hx, hsuccess]
  have hpath : Resource.ofPath? "/api/submission/status" = some .standing := by decide +kernel
  have hlength : (Server.requestFor "/api/submission/status" "problemId=10").declaresTooMuch =
      false := by decide +kernel
  have hnumber : (Server.requestFor "/api/submission/status" "problemId=10").queryNumber
      "problemId" = .ok 10 := Server.ok_of_toOption (by decide +kernel)
  exact .inr ⟨.standing, hpath, rfl, hlength, ⟨10, hnumber⟩, rfl⟩

end Arbiter
