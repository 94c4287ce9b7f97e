import Arbiter.Json.Skip

/-!
# Decoders for records

A record is an object with known members in any order, or an array of their values in order. Members
of other names are passed unread. A known member named twice and a missing one are mismatches; an
array with more elements than members is malformed.
-/

namespace Arbiter.Decoder

/-- A member of a record: how its value is read into the record, whether an object may leave it out,
and whether an array may end before it. -/
structure Member (α : Type) where
  name : String
  put : α → Decoder α
  mayMiss : Bool
  mayEnd : Bool

variable {α β : Type}

namespace Member

/-- A member that must be given. -/
def required (name : String) (d : Decoder β) (set : α → β → α) : Member α :=
  ⟨name, fun a => set a <$> d, false, false⟩

/-- A member that may be null, and that an object may leave out. -/
def nullable (name : String) (d : Decoder β) (set : α → Option β → α) : Member α :=
  ⟨name, fun a => set a <$> optional d, true, false⟩

/-- A member that may be null, and that an object or an array may leave out. -/
def trailing (name : String) (d : Decoder β) (set : α → Option β → α) : Member α :=
  ⟨name, fun a => set a <$> optional d, true, true⟩

end Member

/-- Reads the members of an object up to its closing brace into `a`; `seen` holds the names of the
known ones so far, and `n` bounds the bytes that are left, and so the number of members. -/
def members (known : List (Member α)) : Nat → Bool → List String → α → Decoder α
  | 0, _, _, _ => malformed
  | n + 1, first, seen, a => do
    if (← ahead) = some 0x7D then
      if known.all fun f => f.mayMiss || seen.contains f.name then pass; return a
      else mismatch
    else
      comma first
      token 0x22
      let name ← stringRest
      match known.find? fun f => f.name == name with
      | some f =>
        if seen.contains name then mismatch
        else
          token 0x3A
          let a ← f.put a
          members known n false (name :: seen) a
      | none =>
        token 0x3A
        skip n
        members known n false seen a

/-- Reads the elements of an array up to its closing bracket into `a`. -/
def elements : List (Member α) → Bool → α → Decoder α
  | [], _, a => do
    token 0x5D
    return a
  | f :: fs, first, a => do
    if (← ahead) = some 0x5D then
      if (f :: fs).all fun f => f.mayEnd then pass; return a
      else mismatch
    else
      comma first
      -- a comma before the closing bracket
      if (← ahead) = some 0x5D then malformed
      let a ← f.put a
      elements fs false a

/-- A record, read into a blank one. -/
def record (blank : α) (known : List (Member α)) : Decoder α := do
  match ← ahead with
  | some 0x7B =>
    pass
    members known ((← get).length + 1) true [] blank
  | some 0x5B =>
    pass
    elements known true blank
  | _ => refuse

end Arbiter.Decoder
