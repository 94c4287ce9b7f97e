import Arbiter.Judging.Verdict
import Arbiter.Store.Call

/-!
# Applying outcomes

An outcome moves its submission from pending to a final status at most once: a submission that is
already final is left as it is, and of two outcomes that meet a pending submission at the same time
the store lets one through.
-/

namespace Arbiter

/-- What applying an outcome comes to. -/
inductive Applied where
  /-- This outcome was written. -/
  | now (s : Submission)
  /-- The submission was judged before. -/
  | before (status : Status)
  deriving DecidableEq, Repr

/-- Programs that apply outcomes. -/
abbrev Applying := ExceptT ApplyFailure (Program StoreInterface)

namespace Applying

/-- A store call whose failure is a failure to apply. -/
def call (c : StoreCall) : Applying c.Result :=
  ExceptT.mk (.ask c fun r => .done (r.mapError .store))

/-- The submission of an id. -/
def find (id : SubmissionId) : Applying Submission := do
  match ← call (.find id) with
  | some s => return s
  | none => throw (.notFound id)

end Applying

open Applying in
/-- Applies an outcome to the submission it names. -/
def apply (scoring : Scoring) (o : Outcome) : Applying Applied := do
  let current ← find o.submissionId
  if current.status.isFinal then return .before current.status
  if !current.status.mayBecome o.status then
    throw (.illegalTransition o.submissionId current.status o.status)
  let problem ← call (.findProblem current.problemId)
  match ← call (.complete o.submissionId (Verdict.ofOutcome scoring o problem)) with
  | some updated => return .now updated
  | none => return .before (← find o.submissionId).status

end Arbiter
