import Arbiter.Failure
import Arbiter.Http.MediaType
import Arbiter.Json.Record
import Arbiter.Text.Percent

/-!
# Requests and responses

A request with its path and query as they are sent, and a response whose body is nothing, JSON or
plain text. Reading a body or a parameter of a request may be refused with a response of its own.
-/

namespace Arbiter

structure Request where
  method : String
  path : String
  query : String
  /-- Names in lower case. -/
  headers : List (String × String)
  body : Bytes
  deriving Repr

inductive Body where
  | empty
  | json (v : Json)
  | text (s : String)
  deriving Repr, Inhabited

structure Response where
  status : Nat
  headers : List (String × String)
  body : Body
  deriving Repr, Inhabited

namespace Response

def empty (status : Nat) : Response := ⟨status, [], .empty⟩

def json (status : Nat) (v : Json) : Response :=
  ⟨status, [("content-type", "application/json")], .json v⟩

def text (status : Nat) (s : String) : Response :=
  ⟨status, [("content-type", "text/plain; charset=utf-8")], .text s⟩

/-- The response to a request that succeeds. -/
def success (status : Nat) (message : String) (data : Json) : Response :=
  json status (.obj [("code", .int status), ("message", .str message), ("data", data)])

/-- The response to a request that fails. -/
def failure (f : Failure) : Response := json f.status f.body

def withHeader (r : Response) (name value : String) : Response :=
  { r with headers := r.headers ++ [(name, value)] }

def withoutBody (r : Response) : Response := { r with body := .empty }

end Response

/-- Why a request's body or parameters are refused before they are looked at. -/
inductive Refusal where
  | bodyTooLong
  | notJsonType
  | notJson
  | otherShape
  | path
  | query
  deriving DecidableEq, Repr

namespace Refusal

def status : Refusal → Nat
  | bodyTooLong => 413
  | notJsonType => 415
  | notJson => 400
  | otherShape => 422
  | path => 400
  | query => 400

def text : Refusal → String
  | bodyTooLong => "Failed to buffer the request body: length limit exceeded"
  | notJsonType => "Expected request with `Content-Type: application/json`"
  | notJson => "Failed to parse the request body as JSON"
  | otherShape => "Failed to deserialize the JSON body into the target type"
  | path => "Invalid URL"
  | query => "Failed to deserialize query string"

def response (r : Refusal) : Response := .text r.status r.text

end Refusal

namespace Request

/-- A character of a scheme's name. -/
def isSchemeChar (c : Char) : Bool := c.isAlphanum || ['+', '-', '.', '~'].contains c

/-- What follows the scheme and the authority of a target that has them. -/
def afterAuthority? (target : List Char) : Option (List Char) :=
  match target.dropWhile isSchemeChar with
  | ':' :: '/' :: '/' :: r => some (r.dropWhile fun c => c != '/' && c != '?' && c != '#')
  | _ => none

/-- The path and the query of a target; a fragment is left out. After an authority the path may be
missing and is then the root. -/
def splitTarget (target : String) : String × String :=
  let after := afterAuthority? target.toList
  let cs := (after.getD target.toList).takeWhile (· != '#')
  let path := cs.takeWhile (· != '?')
  (if after.isSome && path.isEmpty then "/" else String.ofList path,
    String.ofList ((cs.dropWhile (· != '?')).drop 1))

/-- The greatest body that is accepted, in bytes. -/
def maxBodyLength : Nat := 524288

/-- The first value of a header. -/
def header? (r : Request) (name : String) : Option String :=
  (r.headers.find? fun h => h.1 == name).map (·.2)

/-- A value of visible characters, spaces and tabs of ASCII. -/
def isVisible (s : String) : Bool :=
  s.toList.all fun c => (0x20 ≤ c.toNat && c.toNat < 0x7F) || c.toNat == 0x09

def visibleHeader? (r : Request) (name : String) : Option String :=
  (r.header? name).filter isVisible

/-- The length that the request declares. -/
def declaredLength? (r : Request) : Option Nat :=
  (r.visibleHeader? "content-length").bind fun s => (Numeral.read? .uint64 s).map Int.toNat

/-- The request declares a body that is too long. -/
def declaresTooMuch (r : Request) : Bool := r.declaredLength?.any fun n => maxBodyLength < n

/-- The body is longer than is accepted, or than it was declared. -/
def bodyIsTooLong (r : Request) : Bool :=
  (r.declaredLength?.getD maxBodyLength).min maxBodyLength < r.body.length

def hasJsonType (r : Request) : Bool :=
  ((r.visibleHeader? "content-type").bind MediaType.read?).any (·.isJson)

/-- The body, read as JSON of a shape. -/
def jsonBody {α : Type} (r : Request) (d : Decoder α) : Except Refusal α :=
  if !r.hasJsonType then .error .notJsonType
  else if r.bodyIsTooLong then .error .bodyTooLong
  else
    match Decoder.decode d r.body with
    | .ok a => .ok a
    | .error .malformed => .error .notJson
    | .error .mismatch => .error .otherShape

/-- The bearer's token. -/
def bearer? (r : Request) : Option String := do
  let s ← r.visibleHeader? "authorization"
  if "Bearer ".toList.isPrefixOf s.toList then some (String.ofList (s.toList.drop 7)) else none

/-- A whole number that the query names exactly once. -/
def queryNumber (r : Request) (name : String) : Except Refusal Int64 :=
  match (Percent.formPairs (Utf8.encode r.query)).filter fun p => p.1 == name with
  | [(_, value)] =>
    match Numeral.read? .int64 value with
    | some n => .ok (.ofInt n)
    | none => .error .query
  | _ => .error .query

/-- A whole number in a segment of the path. -/
def pathNumber (segment : String) : Except Refusal Int64 :=
  match (Utf8.read? (Percent.decode (Utf8.encode segment))).bind (Numeral.read? .int64) with
  | some n => .ok (.ofInt n)
  | none => .error .path

end Request

end Arbiter
