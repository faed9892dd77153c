import Roster.Digest.Sha256
import Roster.Duration
import Roster.Encoding.Base64
import Roster.Fault
import Roster.Json.Decoder
import Roster.Text.Pieces
import Roster.Timestamp

namespace Roster

inductive TokenKind where
  | session
  | user
  deriving DecidableEq, Repr

def TokenKind.name : TokenKind → String
  | session => "sess"
  | user => "user"

/-- Claims about a subject; times are seconds since 1970. -/
structure Claims where
  kind : TokenKind
  subject : String
  issuedAt : Int
  expiry : Option Int
  deriving DecidableEq, Repr

inductive TokenFault where
  | expired
  | unsound
  deriving DecidableEq, Repr

namespace TokenFault

def message : TokenFault → String
  | expired => "token has expired"
  | unsound => "token signature is invalid"

def toFault : TokenFault → Fault
  | expired => .tokenExpired
  | unsound => .tokenUnsound

end TokenFault

namespace Claims

/-- A token is expired once the time is past its expiry. -/
def isExpiredAt (c : Claims) (now : Timestamp) : Bool :=
  match c.expiry with
  | some e => e < now.seconds
  | none => false

def expiresAt (c : Claims) : Option Timestamp :=
  c.expiry.bind Timestamp.ofSeconds?

def toJson (c : Claims) : Json :=
  .record [("kind", some (.text c.kind.name)), ("sub", some (.text c.subject)),
    ("iat", some (.int c.issuedAt)), ("exp", c.expiry.map .int)]

def kindDecoder : Json.Decoder TokenKind :=
  .oneOf [("sess", .session), ("user", .user)]

def shape : Json.Shape Claims :=
  Claims.mk <$> .required "kind" kindDecoder <*> .required "sub" .string <*>
    .required "iat" .int64 <*> .optionalAtEnd "exp" .int64

end Claims

structure IssuedToken where
  token : String
  expiresAt : Option Timestamp
  deriving DecidableEq, Repr

/-- Signs and verifies tokens with one secret. A token is `header.payload.signature`, each part in
unpadded URL-safe base64, the signature being the authentication code of the first two. -/
structure Signer where
  secret : Bytes
  sessionLife : Duration

namespace Signer

def header : Json :=
  .object [("typ", .text "JWT"), ("alg", .text "HS256")]

def segment (bytes : Bytes) : String :=
  Base64.text .urlSafe bytes

def signature (s : Signer) (message : String) : String :=
  segment (Sha256.mac s.secret (Bytes.ofText message))

def sign (s : Signer) (c : Claims) : String :=
  let message := segment (Bytes.ofText header.compact) ++ "." ++
    segment (Bytes.ofText c.toJson.compact)
  message ++ "." ++ s.signature message

/-- The signed 64-bit number with the same bits. -/
def wrap (n : Nat) : Int :=
  (n : Int).bmod UInt64.size

def saturate (n : Int) : Int :=
  max Int64.minValue.toInt (min n Int64.maxValue.toInt)

/-- The expiry of a token with a given life: none if the life is zero, and at least a second. -/
def expiry (life : Duration) (now : Timestamp) : Option Int :=
  if life.isZero then none
  else some (saturate (now.seconds + wrap (max life.seconds 1)))

def issue (s : Signer) (kind : TokenKind) (subject : String) (life : Duration) (now : Timestamp) :
    IssuedToken :=
  let claims : Claims := ⟨kind, subject, now.seconds, expiry life now⟩
  ⟨s.sign claims, claims.expiresAt⟩

def issueSession (s : Signer) (subject : String) (now : Timestamp) : IssuedToken :=
  s.issue .session subject s.sessionLife now

def issueUnlimited (s : Signer) (subject : String) (now : Timestamp) : IssuedToken :=
  s.issue .user subject ⟨0, 0⟩ now

def keyDecoder : Json.Decoder Unit
  | .object entries =>
    let has := fun names ↦ names.all fun name ↦ match entries.lookup name with
      | some (.text _) => true
      | _ => false
    match entries.lookup "kty" with
    | some (.text "EC") => if has ["crv", "x", "y"] then .ok () else .error .wrongShape
    | some (.text "RSA") => if has ["n", "e"] then .ok () else .error .wrongShape
    | some (.text "oct") => if has ["k"] then .ok () else .error .wrongShape
    | some (.text "OKP") => if has ["crv", "x"] then .ok () else .error .wrongShape
    | _ => .error .wrongShape
  | j => .error j.misfit

/-- A header that names the algorithm; the other fields it may carry have to be well formed. -/
def headerShape : Json.Shape Unit :=
  (fun _ _ _ _ _ _ _ _ _ _ ↦ ()) <$> .optional "typ" .string <*>
    .required "alg" (.oneOf [("HS256", ())]) <*> .optional "cty" .string <*>
    .optional "jku" .string <*> .optional "jwk" keyDecoder <*> .optional "kid" .string <*>
    .optional "x5u" .string <*> .optional "x5c" (.list .string) <*> .optional "x5t" .string <*>
    .optional "x5t#S256" .string

mutual

def isGarbled : Json → Bool
  | .garbled => true
  | .array items => anyGarbled items
  | .object entries => anyEntryGarbled entries
  | _ => false

def anyGarbled : List Json → Bool
  | [] => false
  | j :: rest => isGarbled j || anyGarbled rest

def anyEntryGarbled : List (String × Json) → Bool
  | [] => false
  | (_, j) :: rest => isGarbled j || anyEntryGarbled rest

end

/-- Whether the registered claims that are not used are at least legible: each stands once, texts
are texts, and the start of validity is not a list or record of anything. -/
def isLegible : Json → Bool
  | .object entries =>
    ["nbf", "iss", "aud"].all fun name ↦
      match entries.filter (·.1 == name) with
      | [] => true
      | [(_, j)] => !isGarbled j && match name, j with
        | "nbf", .array (_ :: _) => false
        | "nbf", .object (_ :: _) => false
        | _, _ => true
      | _ => false
  | _ => false

def partBytes? (part : List Char) : Option Bytes :=
  Base64.decode? .urlSafe part

def isHeader (part : List Char) : Bool :=
  match partBytes? part with
  | some bytes => (Json.decodeText headerShape.decode bytes).isOk
  | none => false

def payload? (part : List Char) : Option Claims := do
  let bytes ← partBytes? part
  guard (isLegible (Json.read bytes).root)
  (Json.decodeText Claims.shape.decode bytes).toOption

/-- The claims of a token with a sound signature. The token is taken apart from the right. -/
def open? (s : Signer) (token : String) : Option Claims := do
  let (message, sig) ← Text.splitLast (· == '.') token.toList
  let (head, payload) ← Text.splitLast (· == '.') message
  guard (isHeader head)
  guard (String.ofList sig == s.signature (String.ofList message))
  payload? payload

def verify (s : Signer) (token : String) (now : Timestamp) : Except TokenFault Claims :=
  match s.open? token with
  | none => .error .unsound
  | some c => if c.isExpiredAt now then .error .expired else .ok c

def text (s : Signer) : String :=
  "TokenService \x7b session_ttl: " ++ s.sessionLife.text ++
    ", encoding_key: \"[hidden]\", decoding_key: \"[hidden]\" \x7d"

end Signer

end Roster
