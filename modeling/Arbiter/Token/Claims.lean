import Arbiter.Failure
import Arbiter.Json.Record
import Arbiter.Wire.Record

/-!
# Claims

What a token says: whom it speaks for, in which role, and until when; and the registered claims that
decide whether it is taken. Claims that are not of their usual form count as absent, but the reading
goes on where it gave up on them.
-/

namespace Arbiter

open Decoder Member

structure Claims where
  subject : String
  role : String
  expiry : Int64
  deriving DecidableEq, Repr, Inhabited

namespace Claims

def fields : List (Member Claims) :=
  [required "sub" string fun c v => { c with subject := v },
    required "role" string fun c v => { c with role := v },
    required "exp" int64 fun c v => { c with expiry := v }]

def decoder : Decoder Claims := record default fields

def json (c : Claims) : Json :=
  .obj [("sub", .str c.subject), ("role", .str c.role), ("exp", .ofInt64 c.expiry)]

/-- The caller that the claims name: the subject is a user's id. -/
def caller (c : Claims) : Except Failure Caller :=
  match Numeral.read? .int64 c.subject, Role.read? c.role with
  | some id, some role => .ok ⟨.ofInt id, role⟩
  | _, _ => .error .invalidToken

end Claims

/-- The registered claims that count. -/
structure Validity where
  /-- Seconds from 1970-01-01; none when it is absent or negative. -/
  expiry : Option Nat
  /-- The token is meant for some audience. -/
  hasAudience : Bool
  deriving DecidableEq, Repr, Inhabited

namespace Validity

variable {α : Type}

/-- What is read, or none where the reading gave up; bytes passed until then stay passed. -/
def attempt (d : Decoder α) : Decoder (Option α) := tryCatch (some <$> d) fun _ => return none

/-- A count of seconds. Inside brackets nothing is read, but they may close at once. -/
def seconds : Decoder Nat := do
  match ← ahead with
  | some 0x5B => pass; closedBy 0x5D mismatch
  | some 0x7B => pass; closedBy 0x7D mismatch
  | some b =>
    let n : Number ←
      if b = 0x2D then do pass; numberRest true
      else if isDigit b then numberRest false
      else refuse
    match n with
    | .int n => if 0 ≤ n then return n.toNat else mismatch
    | .real _ _ => mismatch
  | none => malformed

/-- A text or a list of texts. -/
def isAudience : Json → Bool
  | .str _ => true
  | .arr items => items.all fun
    | .str _ => true
    | _ => false
  | _ => false

/-- A claim that may be null, and that is given up on when it is of another form. -/
def lenient (name : String) (d : Decoder α) (set : Validity → Option α → Validity) :
    Member Validity :=
  ⟨name, fun v => (fun a => set v a.join) <$> attempt (optional d), true, false⟩

def fields : List (Member Validity) :=
  [⟨"exp", fun v => (fun n => { v with expiry := n }) <$> attempt seconds, true, false⟩,
    ⟨"nbf", fun v => (fun _ => v) <$> attempt seconds, true, false⟩,
    lenient "sub" string fun v _ => v,
    lenient "iss" innerValue fun v _ => v,
    lenient "aud" innerValue fun v a => { v with hasAudience := a.any isAudience }]

def decoder : Decoder Validity := record default fields

end Validity

end Arbiter
