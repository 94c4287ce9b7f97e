/-!
# Resources

The paths that are served, the method each is asked for by, and which ones want a token.
-/

namespace Arbiter

inductive Resource where
  | health
  | submissions
  | submissionList
  | bestSubmission
  | standing
  | submission (id : String)
  | userStats (id : String)
  deriving DecidableEq, Repr

namespace Resource

/-- The segments of a path that starts with a slash. -/
def segments (path : String) : List String :=
  ((path.toList.splitOn '/').map String.ofList).drop 1

/-- The resource of a path; named resources come before ids, and an id at its end is not empty. -/
def ofPath? (path : String) : Option Resource :=
  match segments path with
  | ["api", "health"] => some .health
  | ["api", "submission"] => some .submissions
  | ["api", "submission", "list"] => some .submissionList
  | ["api", "submission", "best"] => some .bestSubmission
  | ["api", "submission", "status"] => some .standing
  | ["api", "submission", id] => if id.isEmpty then none else some (.submission id)
  | ["api", "users", id, "submission-stats"] => some (.userStats id)
  | _ => none

/-- The resource is written to, not read. -/
def isPosted : Resource → Bool
  | submissions | submissionList => true
  | _ => false

/-- The methods that are allowed, as they are listed. -/
def allow (r : Resource) : String := if r.isPosted then "POST" else "GET,HEAD"

def allows (r : Resource) (method : String) : Bool :=
  if r.isPosted then method == "POST" else method == "GET" || method == "HEAD"

/-- The resource is open to everyone. -/
def isOpen (r : Resource) : Bool := r == .health

end Resource

end Arbiter
