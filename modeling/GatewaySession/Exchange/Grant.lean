import GatewaySession.Exchange.Registration

/-!
# Access tokens

A valid access token is used as it is. Otherwise one is granted for the refresh token, for the
identity token, or for the user's credential, in this order. The refresh token is taken out before
it is sent, so that it is sent once. When the gateway refuses the refresh token or the identity
token with a status of 400 to 499 the next is tried, unless the client itself was refused; a refused
identity token is removed.

A grant stores the access token, which drops the user's credential, and the refresh token if there
is a new one. The cached connection is dropped.

## Main definitions

* `TokenGrant` — what the gateway answers to a grant request
* `Session.grant` — one grant
* `Session.ensureAccessToken` — a valid access token, by whichever way there is
-/

namespace GatewaySession

/-- The body of an answer to a grant request. -/
structure TokenGrant where
  /-- The access token. -/
  accessToken : String
  /-- Its lifetime in seconds. -/
  expiresIn : Int64
  /-- A new refresh token. -/
  refreshToken : Option String
  /-- The scope. -/
  scope : Option String
  /-- An identity token. -/
  idToken : Option String
  /-- The type of the identity token. -/
  idTokenType : Option String

namespace TokenGrant

/-- The lifetime of an access token unless the gateway names one. -/
def defaultExpiresIn : Int64 := 3600

/-- Reads the body. -/
def ofDocument? (document : Json.Document) : Option TokenGrant := do
  let [accessToken, expiresIn, refreshToken, scope, idToken, idTokenType] ← document.slots?
    ["access_token", "expires_in", "refresh_token", "scope", "id_token", "id_token_type"] | none
  let optional (slot : Json.Slot) := slot.defaulted none (Json.Slot.nullable (·.text?))
  return {
    accessToken := ← accessToken.required (·.text?)
    expiresIn := ← expiresIn.defaulted defaultExpiresIn (·.int64?)
    refreshToken := ← optional refreshToken
    scope := ← optional scope
    idToken := ← optional idToken
    idTokenType := ← optional idTokenType }

/-- Reads the body of a response. -/
def ofBody (body : Bytes) : Except Error TokenGrant :=
  match (Json.Document.parse? body).bind ofDocument? with
  | some grant => .ok grant
  | none => .error .json

end TokenGrant

namespace Session

/-! ### One grant -/

/-- The parameters of a grant with those that every grant carries. -/
def grantParams (session : Session) (params : Form.Params) : Form.Params :=
  params ++ ("scope", session.settings.scope) ::
    (session.settings.redirectUri.map fun uri => ("redirect_uri", uri)).toList

/-- The request of a grant, without the device headers. -/
def grantRequest (session : Session) (client : ClientCredential) (params : Form.Params) : Request :=
  ((session.publicRequest .post .token).setHeader "authorization" (basicAuth client)).withForm
    (session.grantParams params)

/-- Stores what was granted. -/
def acceptGrant (session : Session) (grant : TokenGrant) : Program AccessToken := do
  match grant.idToken with
  | some token => session.acceptIssuedIdToken token grant.idTokenType
  | none => pure ()
  let now ← Program.seconds
  let token := AccessToken.expiringIn grant.accessToken now grant.expiresIn grant.scope
  session.setAccessToken token
  match grant.refreshToken with
  | some refreshToken => session.setRefreshToken refreshToken
  | none => pure ()
  Program.dropConnection
  return token

/-- Has an access token granted for parameters. -/
def grant (session : Session) (client : ClientCredential) (presented : Presented)
    (params : Form.Params) : Program AccessToken := do
  let request ← session.withDeviceHeaders (session.grantRequest client params)
  let response ← session.sendChecked (.grant presented) request
  let grant ← .ofExcept (TokenGrant.ofBody response.body)
  session.acceptGrant grant

/-- Whether an error refuses what was presented, and not the client. -/
def isGrantRejected : Error → Bool
  | .server refusal status _ _ =>
    400 ≤ status && status < 500 && refusal != .invalidClientCredential
  | _ => false

/-- Has an access token granted; none if what was presented is refused. -/
def tryGrant (session : Session) (client : ClientCredential) (presented : Presented)
    (params : Form.Params) : Program (Option AccessToken) := do
  match ← (session.grant client presented params).attempt with
  | .ok token => return some token
  | .error error => if isGrantRejected error then return none else .fail error

/-! ### The three ways -/

/-- A grant for the refresh token, if there is one. -/
def grantByRefreshToken (session : Session) (client : ClientCredential) :
    Program (Option AccessToken) := do
  match ← session.takeRefreshToken with
  | none => return none
  | some token =>
    session.tryGrant client .refreshToken
      [("grant_type", "refresh_token"), ("refresh_token", token)]

/-- A grant for the identity token, if there is one; a refused one is removed. -/
def grantByIdToken (session : Session) (client : ClientCredential) :
    Program (Option AccessToken) := do
  match ← session.idToken with
  | none => return none
  | some token =>
    match ← session.tryGrant client .idToken
        [("grant_type", token.type), ("assertion", token.value)] with
    | some granted => return some granted
    | none =>
      session.clearIdToken
      return none

/-- A grant for the user's credential, which is needed. -/
def grantByUser (session : Session) (client : ClientCredential) : Program AccessToken := do
  match ← Program.user with
  | some credential => session.grant client .userCredential credential.grantParams
  | none => .fail (.recoverable .credentialsRequired)

/-- A valid access token. -/
def ensureAccessToken (session : Session) : Program AccessToken := do
  if let some token ← session.validAccessToken then return token
  let client ← session.ensureClientCredential
  if let some token ← session.grantByRefreshToken client then return token
  if let some token ← session.grantByIdToken client then return token
  session.grantByUser client

end Session

end GatewaySession
