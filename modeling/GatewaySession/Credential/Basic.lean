import GatewaySession.Gateway.Form
import GatewaySession.Text.Quoted
import GatewaySession.Timestamp

/-!
# Tokens and credentials

What a session obtains and keeps: tokens, the credential of the client, the registration of the
device, and the credential of the user. Expiry is advisory: a time of expiry is compared with the
clock where it matters and nothing goes away by itself. Times of expiry are 64-bit seconds, and a
lifetime that leads out of range ends at the nearest representable time.

The credential of the user is held in memory only. Its text for diagnostics leaves out the password
and the parameters of any other grant.

## Main definitions

* `AccessToken`, `IdToken`, `ClientCredential`, `DeviceIdentity` — what is stored
* `AccessToken.isExpiredAt`, `ClientCredential.isExpiredAt` — the rules of expiry
* `UserCredential`, `UserCredential.grantParams` — the user's credential as parameters of a grant
-/

namespace GatewaySession

/-! ### Access tokens -/

/-- A bearer token with the time of its expiry. -/
structure AccessToken where
  /-- The token. -/
  value : String
  /-- Seconds since the beginning of 1970 at which it expires. -/
  expiresAt : Int64
  /-- The scope that was granted. -/
  scope : Option String
  deriving DecidableEq

namespace AccessToken

/-- A token that expires a number of seconds after the given time, or at the nearest time there
is. -/
def expiringIn (value : String) (now expiresIn : Int64) (scope : Option String) : AccessToken :=
  ⟨value, Int64.ofIntClamp (now.toInt + expiresIn.toInt), scope⟩

/-- A token is expired from its time of expiry on. -/
def isExpiredAt (token : AccessToken) (now : Int64) : Bool := token.expiresAt ≤ now

end AccessToken

/-! ### Identity tokens -/

/-- A signed token that identifies the user, with the grant type that exchanges it. -/
structure IdToken where
  /-- The token in compact form. -/
  value : String
  /-- The grant type. -/
  type : String
  deriving DecidableEq

namespace IdToken

/-- The grant type unless the gateway names another. -/
def defaultType : String := "urn:ietf:params:oauth:grant-type:jwt-bearer"

/-- A token of the type given, an absent or empty one being the default. -/
def withType (value : String) (type : Option String) : IdToken :=
  ⟨value, match type with
    | some type => if type.isEmpty then defaultType else type
    | none => defaultType⟩

end IdToken

/-! ### Client credentials -/

/-- Id and secret of the application. -/
structure ClientCredential where
  /-- The client id. -/
  clientId : String
  /-- The secret, if the client has one. -/
  clientSecret : Option String
  /-- Seconds since the beginning of 1970 at which it expires; zero for never. -/
  expiresAt : Int64 := 0
  deriving DecidableEq

namespace ClientCredential

/-- Whether the credential has expired. -/
def isExpiredAt (credential : ClientCredential) (now : Int64) : Bool :=
  credential.expiresAt != 0 && credential.expiresAt ≤ now

/-- The secret, an absent one being empty. -/
def secret (credential : ClientCredential) : String := credential.clientSecret.getD ""

end ClientCredential

/-! ### Registration of the device -/

/-- What the gateway gave the device at registration. -/
structure DeviceIdentity where
  /-- The client certificate. -/
  certificatePem : String
  /-- The identifier that the gateway assigned. -/
  magIdentifier : String
  /-- When registration completed. -/
  registeredAt : Timestamp
  deriving DecidableEq

/-! ### Credentials of the user -/

/-- What a user grants a token with. -/
inductive UserCredential where
  /-- Username and password. -/
  | password (username secret : String)
  /-- Any other grant, by its type and parameters. -/
  | other (grantType : String) (params : Form.Params)
  deriving DecidableEq

namespace UserCredential

/-- The parameters of the token grant. -/
def grantParams : UserCredential → Form.Params
  | password username secret =>
    [("grant_type", "password"), ("username", username), ("password", secret)]
  | other grantType params => ("grant_type", grantType) :: params

/-- The parameters of the registration of a device. -/
def registrationParams : UserCredential → Form.Params
  | password username secret => [("username", username), ("password", secret)]
  | other _ params => params

/-- The text for diagnostics, without secrets. -/
def diagnostic : UserCredential → String
  | password username _ =>
    "Password \x7b username: " ++ Text.quote username ++ ", password: \"<redacted>\" \x7d"
  | other grantType _ => "Other \x7b grant_type: " ++ Text.quote grantType ++ ", .. \x7d"

end UserCredential

end GatewaySession
