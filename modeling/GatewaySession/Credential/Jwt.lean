import GatewaySession.Error
import GatewaySession.Json.Basic
import GatewaySession.Number.Binary64
import GatewaySession.Number.Decimal
import GatewaySession.Sealing.Sha256
import GatewaySession.Text.Base64
import GatewaySession.Text.Blank
import GatewaySession.Text.Split

/-!
# Identity tokens

A compact token has segments separated by full stops: a header and a payload, each a JSON object in
base64url, and a signature. A token is accepted if it is well formed, is meant for this client and
this device, has not expired, and is signed with HMAC-SHA-256 under the secret. The checks have a
fixed order and the first that fails is reported; what a later check would have said is not.

## Main definitions

* `Jwt.segments` — the segments of a token
* `Jwt.Claims` — header and payload of an accepted token
* `Jwt.validate` — the claims of a token, or why it is rejected
* `Jwt.sign` — the token of a payload
-/

namespace GatewaySession

namespace Jwt

open Json (Value)

/-! ### Segments -/

/-- The segments of a token. -/
def segments (token : String) : List String := Text.split '.' token

/-- The octets of a segment; padding at its end is not looked at. -/
def octets? (segment : String) : Option Bytes :=
  Base64.decode? Base64.urlSafe false (Text.trimEnd '=' segment)

/-- The object in a segment. -/
def object? (part segment : String) : Except Error Value :=
  match octets? segment with
  | none => .error ⟨.malformed, s!"{part}: <base64>"⟩
  | some octets =>
    match Json.parse? octets with
    | none => .error ⟨.malformed, s!"{part}: <json>"⟩
    | some value =>
      if value.isObject then .ok value else .error ⟨.malformed, s!"{part} is not a JSON object"⟩

/-! ### Claims -/

/-- Header and payload of a token. -/
structure Claims where
  /-- The header, an object. -/
  header : Value
  /-- The payload, an object. -/
  payload : Value

/-- The integral part of a double, at most the largest and at least the smallest 64-bit integer. -/
def integralPart (bits : UInt64) : Int64 :=
  let magnitude : Int := Binary64.truncate (Binary64.code bits)
  Int64.ofIntClamp (if Binary64.isNegative bits then -magnitude else magnitude)

/-- A time: a number, or the text of an integer. Integers beyond 64 bits with sign count as the
nearest one within. -/
def time? : Value → Option Int64
  | .integer n => some (Int64.ofIntClamp n)
  | .float bits => some (integralPart bits)
  | .string text => Decimal.readInt64? text
  | _ => none

namespace Claims

/-- A claim of the payload. -/
def get? (claims : Claims) (name : String) : Option Value := claims.payload.get? name

/-- The algorithm that the header names. -/
def algorithm? (claims : Claims) : Option String := (claims.header.get? "alg").bind Value.text?

/-- The subject. -/
def subject? (claims : Claims) : Option String := (claims.get? "sub").bind Value.text?

/-- The time of expiry. -/
def expiresAt? (claims : Claims) : Option Int64 := (claims.get? "exp").bind time?

/-- Whether the token is meant for an audience: it names it, alone or in a list. -/
def isFor (claims : Claims) (audience : String) : Bool :=
  match claims.get? "aud" with
  | some (.string text) => text == audience
  | some (.array items) => items.any fun item => item.text? == some audience
  | _ => false

/-- Whether the token names a device as its authorized party. -/
def isAuthorizedFor (claims : Claims) (device : String) : Bool :=
  (claims.get? "azp").bind Value.text? == some device

end Claims

/-! ### Signatures -/

/-- The octets that are signed. -/
def signingInput (header payload : String) : Bytes := Utf8.encode (header ++ "." ++ payload)

/-- The signature of two segments. -/
def signature (header payload : String) (secret : Bytes) : Bytes :=
  (Sha256.hmac secret (signingInput header payload)).toList

/-- The octets of a third segment, if there is one and it is not empty. -/
def givenSignature? : List String → Option Bytes
  | segment :: _ => if segment.isEmpty then none else octets? segment
  | [] => none

/-! ### Checks -/

/-- Fails a check. -/
def require (holds : Bool) (check : Check) (detail : String) : Except Error Unit :=
  if holds then .ok () else .error ⟨check, detail⟩

/-- The time of expiry is there and not past. -/
def checkExpiry (claims : Claims) (now : Int64) : Except Error Unit :=
  match claims.expiresAt? with
  | some time => require (now ≤ time) .expired s!"expired at {time.toInt}"
  | none => .error ⟨.expired, "missing exp claim"⟩

/-- The signature is there, its algorithm is known, and it is right. -/
def checkSignature (claims : Claims) (header payload : String) (rest : List String)
    (secret : Bytes) : Except Error Unit :=
  match givenSignature? rest with
  | none => .error ⟨.invalidSignature, "missing signature"⟩
  | some given =>
    let algorithm := claims.algorithm?.getD "none"
    if algorithm = "HS256" then
      require (given == signature header payload secret) .invalidSignature "signature mismatch"
    else .error ⟨.invalidSignature, s!"unsupported algorithm '{algorithm}'"⟩

/-- Accepts or rejects two segments and what follows them. -/
def validateSegments (header payload : String) (rest : List String) (audience device : String)
    (secret : Bytes) (now : Int64) : Except Error Claims := do
  let claims : Claims := ⟨← object? "header" header, ← object? "payload" payload⟩
  require (claims.isFor audience) .invalidAudience s!"aud does not match '{audience}'"
  require (claims.isAuthorizedFor device) .invalidAuthorizedParty
    "azp does not match the device identity"
  checkExpiry claims now
  checkSignature claims header payload rest secret
  return claims

/-- Accepts or rejects a token at a given time. -/
def validate (token audience device : String) (secret : Bytes) (now : Int64) :
    Except Error Claims :=
  match segments token with
  | [header, payload] => validateSegments header payload [] audience device secret now
  | [header, payload, last] => validateSegments header payload [last] audience device secret now
  | pieces => .error ⟨.malformed, s!"expected 2 or 3 segments, got {pieces.length}"⟩

/-! ### Signing -/

/-- The header of the tokens signed here. -/
def header : Value := .object [("alg", .string "HS256"), ("typ", .string "JWT")]

/-- A value as a segment. -/
def segment (value : Value) : String := Base64.encode Base64.urlSafe false value.encode

/-- The signed token of a payload. -/
def sign (payload : Value) (secret : Bytes) : String :=
  let first := segment header
  let second := segment payload
  s!"{first}.{second}.{Base64.encode Base64.urlSafe false (signature first second secret)}"

end Jwt

end GatewaySession
