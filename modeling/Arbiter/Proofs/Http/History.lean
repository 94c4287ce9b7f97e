import Arbiter.Proofs.Http.Noninterference

/-!
Histories: requests and outcomes, one after another. A plain user who sends all the requests of a
history is told the same in another history that differs only in what the judge says of others'
submissions, from a store that differs only in others' words (`told_eq`).
-/

namespace Arbiter

/-- A request is answered, or an outcome comes in. -/
inductive Incident where
  | request (k : Circumstances) (now : Instant) (r : Request)
  | outcome (now : Instant) (o : Outcome)

namespace Incident

variable (secret : String)

/-- What is responded, and the store afterwards. -/
def run (s : Store) : Incident → List Response × Store
  | request k now r =>
    let (response, d) := k.run (Server.respond secret now r) s
    ([response], d.store)
  | outcome now o => ([], s.applied reportedScore now o)

/-- All that is responded in a history, and the store afterwards. -/
def runAll : Store → List Incident → List Response × Store
  | s, [] => ([], s)
  | s, i :: is =>
    let (responses, s) := i.run secret s
    let (rest, s) := runAll s is
    (responses ++ rest, s)

/-- The same request of the user, or two outcomes for another's submission that differ only in what
the judge says. -/
inductive SameFor (u : UserId) (s : Store) : Incident → Incident → Prop
  | request (k : Circumstances) {now : Instant} {r : Request} (hr : r.IsOf secret now u) :
      SameFor u s (request k now r) (request k now r)
  | outcome (now : Instant) {o o' : Outcome} (ho : o.wordless = o'.wordless)
      (hs : s.SparedBy u [(now, o)]) : SameFor u s (outcome now o) (outcome now o')

/-- Histories of such incidents, the first of them from a store. -/
inductive SameHistory (u : UserId) : Store → List Incident → List Incident → Prop
  | nil (s : Store) : SameHistory u s [] []
  | cons {s : Store} {i i' : Incident} {is is' : List Incident} (h : SameFor secret u s i i')
      (hs : SameHistory u (i.run secret s).2 is is') : SameHistory u s (i :: is) (i' :: is')

variable {secret} {u : UserId} {s t : Store}

theorem SameFor.run {i i' : Incident} (h : SameFor secret u s i i') (hu : s.IsPlain u)
    (hst : s.SameFor u t) : (i.run secret s).1 = (i'.run secret t).1 ∧
      (i.run secret s).2.SameFor u (i'.run secret t).2 ∧ (i.run secret s).2.IsPlain u := by
  cases h with
  | request k hr =>
    obtain ⟨hresponse, hstate⟩ := hst.respond hu k hr
    exact ⟨congrArg ([·]) hresponse, hstate.store, fun a ha => (hstate.account a ha).2⟩
  | @outcome now o o' ho hs =>
    have hos : List.Forall₂ Outcome.SameFigures [(now, o)] [(now, o')] := .cons ⟨rfl, ho⟩ .nil
    have husers : (s.applied reportedScore now o).users = s.users := Store.applied_users _ now o s
    refine ⟨rfl, hst.appliedAll hos hs, ?_⟩
    intro a ha
    exact hu a (husers ▸ ha)

/-- **A whole history tells a plain user nothing of others' words.** -/
theorem SameHistory.told_eq {is is' : List Incident} (h : SameHistory secret u s is is')
    (hu : s.IsPlain u) (hst : s.SameFor u t) :
    (runAll secret s is).1 = (runAll secret t is').1 ∧
      (runAll secret s is).2.SameFor u (runAll secret t is').2 := by
  induction h generalizing t with
  | nil => exact ⟨rfl, hst⟩
  | cons h _ ih =>
    obtain ⟨htold, hstores, hu⟩ := h.run hu hst
    obtain ⟨hrest, hlast⟩ := ih hu hstores
    refine ⟨?_, hlast⟩
    simp only [runAll, htold, hrest]

end Incident

/-- **Redaction is noninterference.** Stores that differ only in the words of others' submissions
answer every request of a plain user alike and go on differing only in these; so they do when
outcomes for others' submissions that differ only in what the judge says are applied to them; and so
nothing that the user is ever told depends on others' words. -/
theorem redaction_noninterference {u : UserId} {s t : Store} (hu : s.IsPlain u)
    (h : s.SameFor u t) :
    (∀ (k : Circumstances) (secret : String) (now : Instant) (r : Request), r.IsOf secret now u →
      (k.run (Server.respond secret now r) s).1 = (k.run (Server.respond secret now r) t).1 ∧
        (k.run (Server.respond secret now r) s).2.jobs =
          (k.run (Server.respond secret now r) t).2.jobs ∧
        (k.run (Server.respond secret now r) s).2.store.SameFor u
          (k.run (Server.respond secret now r) t).2.store) ∧
      (∀ os os' : List (Instant × Outcome), List.Forall₂ Outcome.SameFigures os os' →
        s.SparedBy u os →
        (s.appliedAll reportedScore os).SameFor u (t.appliedAll reportedScore os')) ∧
      ∀ (secret : String) (is is' : List Incident), Incident.SameHistory secret u s is is' →
        (Incident.runAll secret s is).1 = (Incident.runAll secret t is').1 := by
  refine ⟨?_, ?_, ?_⟩
  · intro k secret now r hr
    obtain ⟨hresponse, hstate⟩ := h.respond hu k hr
    exact ⟨hresponse, hstate.jobs, hstate.store⟩
  · intro os os' hos hs
    exact h.appliedAll hos hs
  · intro secret is is' his
    exact (his.told_eq hu h).1

theorem redaction_noninterference_claimed :
    (Store.withWords "a").row? 1 ≠ (Store.withWords "b").row? 1 ∧
    (Store.withWords "a").IsPlain 1 ∧ (Store.withWords "a").SameFor 1 (Store.withWords "b") ∧
    Server.claimedRequest.IsOf "k" ⟨0, 0⟩ 1 ∧
    (Circumstances.smooth.run (Server.respond "k" ⟨0, 0⟩ Server.claimedRequest)
        (Store.withWords "a")).1 =
      (Circumstances.smooth.run (Server.respond "k" ⟨0, 0⟩ Server.claimedRequest)
        (Store.withWords "b")).1 ∧
    (Store.withWords "a").SparedBy 1 [(⟨1, 0⟩, .secondFails "a")] ∧
    ((Store.withWords "a").appliedAll reportedScore [(⟨1, 0⟩, .secondFails "a")]).SameFor 1
      ((Store.withWords "b").appliedAll reportedScore [(⟨1, 0⟩, .secondFails "b")]) ∧
    (Incident.runAll "k" (Store.withWords "a") [.outcome ⟨1, 0⟩ (.secondFails "a"),
        .request .smooth ⟨0, 0⟩ Server.claimedRequest]).1 =
      (Incident.runAll "k" (Store.withWords "b") [.outcome ⟨1, 0⟩ (.secondFails "b"),
        .request .smooth ⟨0, 0⟩ Server.claimedRequest]).1 := by
  have hu : (Store.withWords "a").IsPlain 1 := by
    intro a ha
    cases ha
    rfl
  have hsame : (Store.withWords "a").SameFor 1 (Store.withWords "b") := rfl
  have hr : Server.claimedRequest.IsOf "k" ⟨0, 0⟩ 1 :=
    ⟨_, Server.authenticate_claimedRequest, rfl⟩
  have hspared : (Store.withWords "a").SparedBy 1 [(⟨1, 0⟩, .secondFails "a")] := by
    intro o ho x hx
    obtain rfl := List.mem_singleton.1 ho
    cases hx
    decide
  obtain ⟨hrequests, houtcomes, hhistories⟩ := redaction_noninterference hu hsame
  refine ⟨by decide, hu, hsame, hr, (hrequests .smooth "k" _ _ hr).1, hspared, ?_, ?_⟩
  · exact houtcomes _ _ (.cons ⟨rfl, rfl⟩ .nil) hspared
  · refine hhistories "k" _ _ (.cons (.outcome ⟨1, 0⟩ rfl hspared) ?_)
    exact .cons (.request .smooth hr) (.nil _)

end Arbiter
