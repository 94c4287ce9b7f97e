import Arbiter.Crypto.Hmac
import Arbiter.Text.Base64Url
import Arbiter.Token.Claims
import Arbiter.Token.Header

/-!
# Checking tokens

A token is a header, claims and a signature, each in base64 and joined by points. It is taken when
the header names HMAC with SHA-256, the signature is the one that the secret gives, it has not
expired, and it is not meant for some other audience. The claims' form is checked before the
expiry, and the expiry before the audience.
-/

namespace Arbiter.Token

/-- Seconds after its expiry for which a token is still taken. -/
def leeway : Int := 60

/-- The parts before and after the last point. -/
def splitLast (cs : List Char) : Option (List Char × List Char) :=
  let back := cs.reverse
  let last := back.takeWhile (· != '.')
  match back.dropWhile (· != '.') with
  | _ :: front => some (front.reverse, last.reverse)
  | [] => none

/-- The signature of a message. -/
def signature (secret : String) (message : List Char) : List Char :=
  Base64Url.encode (Hmac.sign (Utf8.encode secret) (Utf8.encodeChars message))

/-- A token with claims, signed with a secret. -/
def issue (secret : String) (claims : Claims) : String :=
  let header : Json := .obj [("typ", .str "JWT"), ("alg", .str "HS256")]
  let message :=
    Base64Url.encode header.bytes ++ '.' :: Base64Url.encode claims.json.bytes
  String.ofList (message ++ '.' :: signature secret message)

/-- A part that is well-formed text of the shape asked for. -/
def part {α : Type} (d : Decoder α) (bytes : Bytes) : Except Failure α :=
  (Decoder.decode d bytes).mapError fun _ => .invalidToken

/-- A value, or an invalid token. -/
def valid {α : Type} : Option α → Except Failure α
  | some a => .ok a
  | none => .error .invalidToken

/-- The header of a token must name the one algorithm that is taken. -/
def checkHeader (cs : List Char) : Except Failure Unit := do
  let bytes ← valid (Base64Url.decode? cs)
  let header ← part TokenHeader.decoder bytes
  if header.algorithm = "HS256" then return () else throw .invalidToken

/-- The claims of a part, checked at the time `now`. -/
def checkClaims (now : Instant) (cs : List Char) : Except Failure Claims := do
  let bytes ← valid (Base64Url.decode? cs)
  let claims ← part Claims.decoder bytes
  let validity ← part Validity.decoder bytes
  let expiry ← valid validity.expiry
  if (expiry : Int) < now.second - leeway then throw .tokenExpired
  if validity.hasAudience then throw .invalidToken
  return claims

/-- The claims of a token that is taken at the time `now`. -/
def verify (secret : String) (now : Instant) (token : String) : Except Failure Claims := do
  let (message, given) ← valid (splitLast token.toList)
  let (header, claims) ← valid (splitLast message)
  checkHeader header
  if given = signature secret message then checkClaims now claims else throw .invalidToken

/-- The caller of a token that is taken. -/
def caller (secret : String) (now : Instant) (token : String) : Except Failure Caller := do
  (← verify secret now token).caller

end Arbiter.Token
