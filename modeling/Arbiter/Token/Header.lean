import Arbiter.Json.Record

/-!
# Headers of tokens

How a token is signed, with further registered parameters that are read and not used. A key that is
given with the token must be of a known kind, and each member that its kind has stands in it once.
-/

namespace Arbiter

open Decoder Member

/-- The algorithms that a header may name. -/
def signatureAlgorithms : List String :=
  ["HS256", "HS384", "HS512", "ES256", "ES384", "RS256", "RS384", "RS512", "PS256", "PS384",
    "PS512", "EdDSA"]

namespace PublicKey

def isText : Json → Bool
  | .str _ => true
  | _ => false

/-- One of several names, as a text or as the only member of an object, with null. -/
def isNameOf (names : List String) : Json → Bool
  | .str s | .obj [(s, .null)] => names.contains s
  | _ => false

def algorithms : List String := signatureAlgorithms ++ ["RSA1_5", "RSA-OAEP", "RSA-OAEP-256"]

/-- What the key is for; beside its name an empty object stands for null. -/
def isAlgorithm : Json → Bool
  | .obj [(s, .obj [])] => algorithms.contains s
  | v => isNameOf algorithms v

def areTexts : Json → Bool
  | .arr items => items.all isText
  | _ => false

/-- The members of an object, in the order in which they are given. -/
abbrev Members := List (String × Json)

/-- The values of a name. -/
def values (name : String) (key : Members) : List Json :=
  (key.filter fun m => m.1 == name).map (·.2)

/-- The member is missing, or it stands once and is null or as it should be. -/
def optionally (holds : Json → Bool) (name : String) (key : Members) : Bool :=
  match values name key with
  | [] | [.null] => true
  | [v] => holds v
  | _ => false

/-- The member stands once and is as it should be. -/
def has (holds : Json → Bool) (name : String) (key : Members) : Bool :=
  match values name key with
  | [v] => holds v
  | _ => false

def curves : List String := ["P-256", "P-384", "P-521", "Ed25519"]

/-- The members that describe the key itself; those that its kind does not have may be
anything. -/
def hasMaterial (key : Members) : Bool :=
  (has (isNameOf ["EC"]) "kty" key && has (isNameOf curves) "crv" key && has isText "x" key
      && has isText "y" key)
    || (has (isNameOf ["RSA"]) "kty" key && has isText "n" key && has isText "e" key)
    || (has (isNameOf ["oct"]) "kty" key && has isText "k" key)
    || (has (isNameOf ["OKP"]) "kty" key && has (isNameOf curves) "crv" key && has isText "x" key)

/-- A key with its parameters. -/
def isKey : Json → Bool
  | .obj key =>
    optionally isText "use" key && optionally areTexts "key_ops" key
      && optionally isAlgorithm "alg" key
      && ["kid", "x5u", "x5t", "x5t#S256"].all (fun name => optionally isText name key)
      && optionally areTexts "x5c" key && hasMaterial key
  | _ => false

def decoder : Decoder Json := do
  let key ← innerValue
  if isKey key then return key else mismatch

end PublicKey

/-- A header; only the algorithm counts. -/
structure TokenHeader where
  algorithm : String
  deriving DecidableEq, Repr, Inhabited

namespace TokenHeader

/-- A parameter that is read and not kept. -/
def ignored {α : Type} (name : String) (d : Decoder α) : Member TokenHeader :=
  nullable name d fun h _ => h

/-- A list of texts. -/
def texts : Decoder Json := do
  let v ← innerValue
  if PublicKey.areTexts v then return v else mismatch

def decoder : Decoder TokenHeader :=
  record default
    [ignored "typ" string,
      required "alg" (choice fun s => if signatureAlgorithms.contains s then some s else none)
        fun _ v => ⟨v⟩,
      ignored "cty" string, ignored "jku" string, ignored "jwk" PublicKey.decoder,
      ignored "kid" string, ignored "x5u" string, ignored "x5c" texts, ignored "x5t" string,
      ignored "x5t#S256" string]

end TokenHeader

end Arbiter
