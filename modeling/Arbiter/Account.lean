import Arbiter.Submission.Record

/-!
# Accounts

Users with their roles, whether an account is in use, and callers: the user a request is made for,
with the role it claims or the role that is stored.
-/

namespace Arbiter

inductive Role where
  | user
  | admin
  | superAdmin
  deriving DecidableEq, Repr, Inhabited

namespace Role

def all : List Role := [.user, .admin, .superAdmin]

def code : Role → Int16
  | .user => 0
  | .admin => 1
  | .superAdmin => 2

def name : Role → String
  | .user => "USER"
  | .admin => "ADMIN"
  | .superAdmin => "SUPER_ADMIN"

def ofCode? (c : Int16) : Option Role := all.find? fun r => r.code == c

def ofName? (n : String) : Option Role := all.find? fun r => r.name == n

/-- The role of a name in any case. -/
def read? (s : String) : Option Role := ofName? s.toUpper

/-- Ownership does not bind this role. -/
def isElevated (r : Role) : Bool := r != .user

end Role

inductive AccountStatus where
  | normal
  | disabled
  deriving DecidableEq, Repr, Inhabited

namespace AccountStatus

def all : List AccountStatus := [.normal, .disabled]

def code : AccountStatus → Int16
  | .normal => 0
  | .disabled => 1

def name : AccountStatus → String
  | .normal => "NORMAL"
  | .disabled => "DISABLED"

def ofCode? (c : Int16) : Option AccountStatus := all.find? fun s => s.code == c

def ofName? (n : String) : Option AccountStatus := all.find? fun s => s.name == n

end AccountStatus

structure User where
  id : UserId
  role : Role
  status : AccountStatus
  deriving DecidableEq, Repr, Inhabited

instance : Keyed User := ⟨User.id⟩

/-- The account may be used. -/
def User.isActive (u : User) : Bool := u.status == .normal

/-- Who a request is made for. -/
structure Caller where
  userId : UserId
  role : Role
  deriving DecidableEq, Repr, Inhabited

namespace Caller

def isElevated (c : Caller) : Bool := c.role.isElevated

/-- The caller owns what `owner` owns, or stands above ownership. -/
def mayAccess (c : Caller) (owner : UserId) : Bool := c.userId == owner || c.isElevated

end Caller

end Arbiter
