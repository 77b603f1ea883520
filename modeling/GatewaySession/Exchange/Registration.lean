import GatewaySession.Exchange.Connection

/-!
# Client credentials and registration

Before anything else can be asked of the gateway, the application needs a client credential and the
device a registration. Settings with a client secret have the credential; otherwise the gateway
provisions one, which is stored. Registration sends the device's data, with the user's credential if
there is one, and stores the certificate and the identifier that come back. Since a connection is
bound to a registration, the cached one is dropped.

## Main definitions

* `ClientGrant` — what the gateway answers to a request for client credentials
* `Session.ensureClientCredential` — the client credential, provisioned if need be
* `Session.ensureRegistered` — the registration of the device, if it is not registered yet
-/

namespace GatewaySession

/-- The body of an answer to a request for client credentials. -/
structure ClientGrant where
  /-- The client id. -/
  clientId : String
  /-- The secret. -/
  clientSecret : Option String
  /-- When the credential expires; zero for never. -/
  expiration : Int64

namespace ClientGrant

/-- Reads the body. -/
def ofDocument? (document : Json.Document) : Option ClientGrant := do
  let [clientId, clientSecret, expiration] ←
    document.slots? ["client_id", "client_secret", "client_expiration"] | none
  return {
    clientId := ← clientId.required (·.text?)
    clientSecret := ← clientSecret.defaulted none (Json.Slot.nullable (·.text?))
    expiration := ← expiration.defaulted 0 (·.int64?) }

/-- Reads the body of a response. -/
def ofBody (body : Bytes) : Except Error ClientGrant :=
  match (Json.Document.parse? body).bind ofDocument? with
  | some grant => .ok grant
  | none => .error .json

/-- The credential that was granted. -/
def credential (grant : ClientGrant) : ClientCredential :=
  ⟨grant.clientId, grant.clientSecret, grant.expiration⟩

end ClientGrant

namespace Session

/-! ### Client credentials -/

/-- The request for client credentials. -/
def provisionRequest (session : Session) (nonce : String) : Request :=
  ((session.publicRequest .post .clientInitialize).setHeader "device-id"
    session.device.identity).withForm
    [("client_id", session.settings.clientId), ("nonce", nonce)]

/-- Has client credentials provisioned and stores them. -/
def provision (session : Session) : Program ClientCredential := do
  let nonce ← Program.ask .identifier
  let response ← session.sendChecked .provisioning (session.provisionRequest nonce)
  let grant ← .ofExcept (ClientGrant.ofBody response.body)
  session.setClientCredential grant.credential
  return grant.credential

/-- The client credential in effect, provisioned if the settings have no secret and none is
stored. -/
def ensureClientCredential (session : Session) : Program ClientCredential := do
  if session.settings.clientSecret.isSome then session.clientCredential
  else
    match ← session.storedClientCredential with
    | some credential => return credential
    | none => session.provision

/-! ### Registration -/

/-- The request that registers the device. -/
def registrationRequest (session : Session) (client : ClientCredential)
    (credential : Option UserCredential) : Request :=
  let request := ((((session.publicRequest .post .register).setHeader "device-id"
    session.device.identity).setHeader "device-name" session.device.name).setHeader
    "client-authorization" (basicAuth client)).setHeader "cert-format" "pem"
  match credential with
  | some credential => request.withForm credential.registrationParams
  | none => request

/-- The identifier that a registration response assigns. -/
def assignedIdentifier (response : Response) : Except Error String :=
  match response.header? "mag-identifier" with
  | some identifier => .ok identifier
  | none =>
    .error (Error.ofReply response.status none "registration response is missing mag-identifier")

/-- Registers the device and stores what the gateway assigns, with an identity token if one comes
along. -/
def register (session : Session) (credential : Option UserCredential) : Program Unit := do
  let client ← session.ensureClientCredential
  let response ← session.sendChecked .registration
    (session.registrationRequest client credential)
  let identifier ← .ofExcept (assignedIdentifier response)
  session.setDeviceIdentity ⟨response.text, identifier, ← Program.time⟩
  Program.dropConnection
  match response.header? "id-token" with
  | some token => session.acceptIssuedIdToken token (response.header? "id-token-type")
  | none => return ()

/-- Registers the device unless it is registered. If registration needs a user and none is known,
a credential is needed first. -/
def ensureRegistered (session : Session) : Program Unit := do
  if ← session.isDeviceRegistered then return ()
  let credential ← Program.user
  if credential.isNone && session.settings.registrationRequiresUser then
    .fail (.recoverable .credentialsRequired)
  else session.register credential

end Session

end GatewaySession
