import Arbiter.Http.Server
import Mathlib.Tactic.Lemma

/-!
Which requests get through to the desk: those that are within the length allowed, for a resource
that is not open to everyone, with a valid token and by a method that is allowed (`Server.Admits`).
Such a request is served for the caller of its token (`Admits.respond_eq`). Every other one is
answered on the spot, without a call to the store or the dispatcher, and with a success only where
it is a preflight or asks how the service is (`respond_of_not_admits`).
-/

namespace Arbiter

namespace Response

/-- The status says that the request succeeded. -/
def IsSuccess (x : Response) : Prop := 200 ≤ x.status ∧ x.status < 300

instance (x : Response) : Decidable x.IsSuccess :=
  inferInstanceAs (Decidable (200 ≤ x.status ∧ x.status < 300))

lemma isSuccess_congr {x y : Response} (h : x.status = y.status) : x.IsSuccess ↔ y.IsSuccess := by
  unfold IsSuccess
  rw [h]

lemma isSuccess_success {status : Nat} (h : 200 ≤ status ∧ status < 300) (message : String)
    (data : Json) : (success status message data).IsSuccess :=
  h

lemma not_isSuccess_failure (f : Failure) : ¬ (failure f).IsSuccess := by
  have hstatus : 400 ≤ f.status := by cases f <;> simp [Failure.status]
  exact fun h => absurd (Nat.lt_of_le_of_lt hstatus h.2) (by decide)

end Response

lemma Refusal.not_isSuccess_response (f : Refusal) : ¬ f.response.IsSuccess := by
  cases f <;> decide

namespace Server

variable {secret : String} {now : Instant} {r : Request}

/-! ### Getting through -/

/-- The request gets through to the desk, for a caller and a resource. -/
structure Admits (secret : String) (now : Instant) (r : Request) (c : Caller)
    (resource : Resource) : Prop where
  method : r.method ≠ "OPTIONS"
  length : r.declaresTooMuch = false
  path : Resource.ofPath? r.path = some resource
  closed : resource.isOpen = false
  token : authenticate secret now r = .ok c
  allowed : resource.allows r.method = true

/-- The request is answered with a success to everyone. -/
def IsOpenTo (r : Request) : Prop :=
  r.method = "OPTIONS" ∨ r.declaresTooMuch = false ∧ Resource.ofPath? r.path = some .health ∧
    Resource.health.allows r.method = true

/-- What is made of an answer on its way out. -/
def sendOff (r : Request) (resource : Option Resource) (x : Response) : Response :=
  let x := shared x
  listAllowed r.method resource
    (if r.method = "HEAD" && resource.isSome then x.withoutBody else x)

lemma status_listAllowed (method : String) (resource : Option Resource) (x : Response) :
    (listAllowed method resource x).status = x.status := by
  unfold listAllowed
  split
  · split <;> rfl
  · rfl

lemma status_sendOff (r : Request) (resource : Option Resource) (x : Response) :
    (sendOff r resource x).status = x.status := by
  unfold sendOff
  dsimp only
  rw [status_listAllowed]
  split <;> rfl

lemma respond_of_method (h : r.method ≠ "OPTIONS") : respond secret now r =
    (respondAt secret now r (Resource.ofPath? r.path)).bind fun x =>
      .done (sendOff r (Resource.ofPath? r.path) x) := by
  unfold respond
  dsimp only
  rw [if_neg h]
  exact Program.bind_assoc _ _ _

theorem Admits.respond_eq {c : Caller} {resource : Resource}
    (h : Admits secret now r c resource) : respond secret now r =
      (serve c r resource).bind fun x => .done (sendOff r (some resource) x) := by
  have hat : respondAt secret now r (some resource) = serve c r resource := by
    unfold respondAt serveResource serveAllowed
    simp only [h.length, h.closed, h.token, h.allowed, Bool.false_eq_true, if_false, if_true]
  rw [respond_of_method h.method, h.path, hat]

/-- Away from the desk, a known path is answered with a success just in case it is open to
everyone. -/
lemma serveResource_of_not_admits {resource : Resource} (hm : r.method ≠ "OPTIONS")
    (hlength : r.declaresTooMuch = false) (hpath : Resource.ofPath? r.path = some resource)
    (h : ∀ c, ¬ Admits secret now r c resource) :
    ∃ x, serveResource secret now r resource = .done x ∧
      (x.IsSuccess ↔ resource = .health ∧ resource.allows r.method = true) := by
  unfold serveResource
  cases hopen : resource.isOpen with
  | true =>
    obtain rfl : resource = .health := by simpa [Resource.isOpen] using hopen
    unfold serveAllowed
    rw [if_pos rfl]
    split
    · rename_i hallowed
      exact ⟨_, rfl, iff_of_true (by decide) ⟨rfl, hallowed⟩⟩
    · rename_i hallowed
      exact ⟨_, rfl, iff_of_false (by decide) fun h => hallowed h.2⟩
  | false =>
    have hclosed : resource ≠ .health := by
      rintro rfl
      cases hopen
    rw [if_neg Bool.false_ne_true]
    rcases htoken : authenticate secret now r with f | c
    · exact ⟨_, rfl, iff_of_false (Response.not_isSuccess_failure f) fun h => hclosed h.1⟩
    · dsimp only
      unfold serveAllowed
      split
      · rename_i hallowed
        exact absurd ⟨hm, hlength, hpath, hopen, htoken, hallowed⟩ (h c)
      · exact ⟨_, rfl, iff_of_false (by decide) fun h => hclosed h.1⟩

lemma respondAt_of_not_admits (hm : r.method ≠ "OPTIONS")
    (h : ∀ c resource, ¬ Admits secret now r c resource) :
    ∃ x, respondAt secret now r (Resource.ofPath? r.path) = .done x ∧
      (x.IsSuccess ↔ IsOpenTo r) := by
  unfold respondAt
  cases hlength : r.declaresTooMuch with
  | true =>
    refine ⟨_, rfl, iff_of_false (by decide) ?_⟩
    rintro (hopt | ⟨hfits, -⟩)
    · exact hm hopt
    · rw [hlength] at hfits
      cases hfits
  | false =>
    rw [if_neg Bool.false_ne_true]
    rcases hpath : Resource.ofPath? r.path with _ | resource
    · refine ⟨_, rfl, iff_of_false (by decide) ?_⟩
      rintro (hopt | ⟨-, hhealth, -⟩)
      · exact hm hopt
      · rw [hpath] at hhealth
        cases hhealth
    · obtain ⟨x, hx, hsuccess⟩ := serveResource_of_not_admits hm hlength hpath
        fun c => h c resource
      refine ⟨x, hx, hsuccess.trans ?_⟩
      unfold IsOpenTo
      rw [hpath, hlength, Option.some.injEq]
      constructor
      · rintro ⟨rfl, hallowed⟩
        exact .inr ⟨rfl, rfl, hallowed⟩
      · rintro (hopt | ⟨-, rfl, hallowed⟩)
        · exact absurd hopt hm
        · exact ⟨rfl, hallowed⟩

theorem respond_of_not_admits (h : ∀ c resource, ¬ Admits secret now r c resource) :
    ∃ x, respond secret now r = .done x ∧ (x.IsSuccess ↔ IsOpenTo r) := by
  by_cases hm : r.method = "OPTIONS"
  · refine ⟨listAllowed r.method (Resource.ofPath? r.path) preflight, ?_, ?_⟩
    · unfold respond
      dsimp only
      rw [if_pos hm, hm]
      rfl
    · refine iff_of_true ?_ (.inl hm)
      rw [Response.isSuccess_congr (status_listAllowed _ _ _)]
      decide
  · obtain ⟨x, hx, hsuccess⟩ := respondAt_of_not_admits hm h
    refine ⟨sendOff r (Resource.ofPath? r.path) x, ?_, ?_⟩
    · rw [respond_of_method hm, hx]
      rfl
    · rw [Response.isSuccess_congr (status_sendOff _ _ _), hsuccess]

/-- **What becomes of a request**: it is answered on the spot, or served for a caller. -/
theorem respond_cases (secret : String) (now : Instant) (r : Request) :
    (∃ x, respond secret now r = .done x ∧ (x.IsSuccess ↔ IsOpenTo r)) ∨
      ∃ c resource, Admits secret now r c resource ∧
        respond secret now r =
          (serve c r resource).bind fun x => .done (sendOff r (some resource) x) := by
  by_cases h : ∃ c resource, Admits secret now r c resource
  · obtain ⟨c, resource, hadmits⟩ := h
    exact .inr ⟨c, resource, hadmits, hadmits.respond_eq⟩
  · exact .inl (respond_of_not_admits fun c resource hadmits => h ⟨c, resource, hadmits⟩)

end Server

end Arbiter
