import Arbiter.Account
import Arbiter.Json.Value
import Arbiter.Problem

/-!
# Failures

Why a request fails, why a job cannot be handed to the judges, and why an outcome cannot be
applied; with the texts of each, the codes and HTTP statuses of failed requests, and the message
that clients are shown, which keeps the details of inner failures back.
-/

namespace Arbiter

/-- Why a job did not reach the judges. -/
inductive DispatchFailure where
  | unavailable (reason : String)
  | unencodable (reason : String)
  deriving DecidableEq, Repr

def DispatchFailure.text : DispatchFailure → String
  | .unavailable reason => "judge queue unavailable: " ++ reason
  | .unencodable reason => "failed to encode judge job: " ++ reason

/-- Why a request fails. -/
inductive Failure where
  | invalidToken
  | tokenExpired
  | unauthorized
  | forbidden (reason : String)
  | validation (reason : String)
  | notFound (reason : String)
  | database (detail : String)
  | dispatch (cause : DispatchFailure)
  | internal (detail : String)
  deriving DecidableEq, Repr

namespace Failure

def code : Failure → String
  | .invalidToken => "INVALID_TOKEN"
  | .tokenExpired => "TOKEN_EXPIRED"
  | .unauthorized => "UNAUTHORIZED"
  | .forbidden _ => "FORBIDDEN"
  | .validation _ => "VALIDATION_ERROR"
  | .notFound _ => "NOT_FOUND"
  | .database _ => "DATABASE_ERROR"
  | .dispatch _ => "SYSTEM_ERROR"
  | .internal _ => "INTERNAL_ERROR"

def text : Failure → String
  | .invalidToken => "Invalid token"
  | .tokenExpired => "Token expired"
  | .unauthorized => "Unauthorized"
  | .forbidden reason => "Forbidden: " ++ reason
  | .validation reason => "Validation error: " ++ reason
  | .notFound reason => "Not found: " ++ reason
  | .database detail => "Database error: " ++ detail
  | .dispatch _ => "Submission failed"
  | .internal _ => "Internal server error"

/-- The HTTP status. -/
def status : Failure → Nat
  | .invalidToken | .tokenExpired | .unauthorized => 401
  | .forbidden _ => 403
  | .validation _ => 400
  | .notFound _ => 404
  | .dispatch _ => 503
  | .database _ | .internal _ => 500

/-- What clients are told: the text, or for inner failures a fixed sentence. -/
def publicText : Failure → String
  | .internal _ => "An internal error occurred"
  | .database _ => "A database error occurred"
  | .dispatch _ => "Submission failed"
  | f => f.text

/-- The body of the response to a failed request. -/
def body (f : Failure) : Json :=
  .obj [("error", .obj [("code", .str f.code), ("message", .str f.publicText)])]

end Failure

/-- Why an outcome is not applied. -/
inductive ApplyFailure where
  | notFound (id : SubmissionId)
  /-- The outcome's status cannot follow the submission's. -/
  | illegalTransition (id : SubmissionId) (current next : Status)
  | store (cause : Failure)
  deriving DecidableEq, Repr

namespace ApplyFailure

def text : ApplyFailure → String
  | .notFound id => "submission " ++ Numeral.text id.toInt ++ " not found"
  | .illegalTransition id current next =>
    "illegal transition " ++ current.name ++ " -> " ++ next.name ++ " for submission "
      ++ Numeral.text id.toInt
  | .store cause => "failed to persist outcome: " ++ cause.text

/-- The same outcome may be applied later. -/
def isRetryable : ApplyFailure → Bool
  | .store _ => true
  | _ => false

end ApplyFailure

end Arbiter
