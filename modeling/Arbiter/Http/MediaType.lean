/-!
# Media types

Reading the value of a content type as far as it takes to tell whether a body is JSON: a type and a
subtype, with a suffix after the subtype's last plus, and parameters, each a name and a value that
may be quoted.
-/

namespace Arbiter

/-- A media type in lower case, without its parameters. -/
structure MediaType where
  type : String
  subtype : String
  suffix : Option String
  deriving DecidableEq, Repr

namespace MediaType

def isTokenChar (c : Char) : Bool :=
  c.isAlphanum || "!#$%&\x27*+-.^_\x60|~".toList.contains c

def isQuotedChar (c : Char) : Bool := 0x20 ≤ c.toNat && c.toNat != 0x7F

/-- Parameters, after the semicolon; `n` bounds their number. A quoted value has at least one
character, which may be a quote. -/
def areParameters : Nat → List Char → Bool
  | _, [] => true
  | 0, _ => false
  | n + 1, ' ' :: r => areParameters n r
  | n + 1, cs =>
    if (cs.takeWhile isTokenChar).isEmpty then false
    else
      match cs.dropWhile isTokenChar with
      | '=' :: '"' :: c :: r =>
        isQuotedChar c &&
          match r.dropWhile fun c => isQuotedChar c && c != '"' with
          | '"' :: r =>
            match r.dropWhile (· == ' ') with
            | [] => true
            | ';' :: r => areParameters n r
            | _ => false
          | _ => false
      | '=' :: v =>
        match v.dropWhile isTokenChar with
        | [] => true
        | ';' :: r => !(v.takeWhile isTokenChar).isEmpty && areParameters n r
        | _ => false
      | _ => false

/-- A subtype with its suffix cut off: what follows the last plus, unless the plus comes first. -/
def ofParts (type subtype : List Char) : MediaType :=
  let back := subtype.reverse
  let suffix := (back.takeWhile (· != '+')).reverse
  let front := ((back.dropWhile (· != '+')).drop 1).reverse
  let text := fun cs => (String.ofList cs).toLower
  if front.isEmpty then ⟨text type, text subtype, none⟩
  else ⟨text type, text front, some (text suffix)⟩

def read? (s : String) : Option MediaType :=
  let cs := s.toList
  let type := cs.takeWhile isTokenChar
  match cs.dropWhile isTokenChar with
  | '/' :: r =>
    let subtype := r.takeWhile isTokenChar
    if type.isEmpty then none
    else
      match r.dropWhile isTokenChar with
      | [] => some (ofParts type subtype)
      | ';' :: ps =>
        if !subtype.isEmpty && areParameters (ps.length + 1) ps then some (ofParts type subtype)
        else none
      | _ => none
  | _ => none

/-- JSON itself, or a type written in JSON. -/
def isJson (m : MediaType) : Bool :=
  m.type == "application" && (m.subtype == "json" || m.suffix == some "json")

end MediaType

end Arbiter
