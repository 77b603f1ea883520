import GatewaySession.Credential.Jwt
import GatewaySession.Device
import GatewaySession.Gateway.Settings
import GatewaySession.Vault.Basic

/-!
# Sessions

A session is one connection to a gateway with its settings, its device and its vault. It decides
when material is accepted and when it is dropped:

* an access token, or an identity token that was validated, is accepted and the cached credential of
  the user dropped;
* a refresh token is given out once;
* an identity token is kept only with single sign-on, and only if it validates against the client
  credential in effect and this device;
* a record that cannot be read counts as absent and is removed;
* material issued for another client id is removed as a whole.

Nothing is removed because it has expired: an expired token is there, but not valid.

## Main definitions

* `Session`, `Session.make` — a session of checked settings and device
* `Session.reconcile` — removal of what another client left
* `Session.validAccessToken`, `Session.acceptIdToken`, `Session.clientCredential` — the rules above
* `Session.isLoggedIn`, `Session.clearUserTokens`, `Session.destroyAll` — the session as a whole
-/

namespace GatewaySession

/-- A session with a gateway. -/
structure Session where
  /-- The settings of the connection. -/
  settings : Settings
  /-- The device. -/
  device : Device

namespace Session

variable {α : Type}

/-- A session, if settings and device are admitted. -/
def make (settings : Settings) (device : Device) : Except Error Session := do
  settings.check
  Device.checkIdentity device.identity
  return ⟨settings, device⟩

/-- The vault of a session. -/
def vault (session : Session) : Vault := ⟨session.settings.storagePrefix⟩

/-! ### The session as a whole -/

/-- Forgets everything: tokens, client credential, registration, and the user's credential. -/
def destroyAll (session : Session) : Program Unit := do
  Program.dropUser
  session.vault.clearAll

/-- The client id that stored records were issued for; an unreadable one is nobody's. -/
def recordedClientId (session : Session) : Program (Option String) := do
  match ← session.vault.configuredClientId.attempt with
  | .error (.integrity _) => return some ""
  | .error error => .fail error
  | .ok recorded => return recorded

/-- Removes everything if it was issued for another client id, and records the present one. Tells
whether anything was removed. -/
def reconcile (session : Session) : Program Bool := do
  let recorded ← session.recordedClientId
  let foreign := match recorded with
    | some clientId => clientId != session.settings.clientId
    | none => false
  if foreign then session.destroyAll
  session.vault.setConfiguredClientId session.settings.clientId
  return foreign

/-! ### Unreadable records -/

/-- Reads a slot; an unreadable record counts as absent and is removed if it can be. -/
def readable (session : Session) (slot : Slot) (program : Program (Option α)) :
    Program (Option α) := do
  match ← program.attempt with
  | .error (.integrity _) =>
    let _ ← (session.vault.clear slot).attempt
    return none
  | result => .ofExcept result

/-! ### Access token -/

/-- The access token, expired or not. -/
def accessToken (session : Session) : Program (Option AccessToken) :=
  session.readable .accessToken session.vault.accessToken

/-- The access token unless it has expired. -/
def validAccessToken (session : Session) : Program (Option AccessToken) := do
  match ← session.accessToken with
  | none => return none
  | some token => return if token.isExpiredAt (← Program.seconds) then none else some token

/-- Whether there is no valid access token. -/
def isAccessTokenExpired (session : Session) : Program Bool := do
  return (← session.validAccessToken).isNone

/-- Accepts an access token. -/
def setAccessToken (session : Session) (token : AccessToken) : Program Unit := do
  session.vault.setAccessToken token
  Program.dropUser

/-- Removes the access token. -/
def clearAccessToken (session : Session) : Program Unit := session.vault.clear .accessToken

/-! ### Refresh token -/

/-- Whether there is a refresh token. -/
def hasRefreshToken (session : Session) : Program Bool := do
  return (← session.readable .refreshToken session.vault.refreshToken).isSome

/-- Takes the refresh token out; an unreadable one is gone and counts as absent. -/
def takeRefreshToken (session : Session) : Program (Option String) := do
  match ← session.vault.takeRefreshToken.attempt with
  | .error (.integrity _) => return none
  | result => .ofExcept result

/-- Stores a refresh token. -/
def setRefreshToken (session : Session) (token : String) : Program Unit :=
  session.vault.setRefreshToken token

/-! ### Client credential -/

/-- The provisioned client credential unless it has expired. -/
def storedClientCredential (session : Session) : Program (Option ClientCredential) := do
  match ← session.readable .clientCredential session.vault.clientCredential with
  | none => return none
  | some credential =>
    return if credential.isExpiredAt (← Program.seconds) then none else some credential

/-- The client credential of the settings. -/
def configuredCredential (session : Session) : ClientCredential where
  clientId := session.settings.clientId
  clientSecret := session.settings.clientSecret

/-- The client credential in effect: the provisioned one, or else that of the settings. -/
def clientCredential (session : Session) : Program ClientCredential := do
  return (← session.storedClientCredential).getD session.configuredCredential

/-- Stores a provisioned client credential. -/
def setClientCredential (session : Session) (credential : ClientCredential) : Program Unit :=
  session.vault.setClientCredential credential

/-- Removes the provisioned client credential. -/
def clearClientCredential (session : Session) : Program Unit :=
  session.vault.clear .clientCredential

/-! ### Identity token -/

/-- The identity token; none without single sign-on. -/
def idToken (session : Session) : Program (Option IdToken) :=
  if session.settings.ssoEnabled then session.readable .idToken session.vault.idToken
  else return none

/-- Validates an identity token and stores it. Without single sign-on it is dropped unseen. -/
def acceptIdToken (session : Session) (value : String) (type : Option String) : Program Unit := do
  if session.settings.ssoEnabled then
    let client ← session.clientCredential
    let now ← Program.seconds
    match Jwt.validate value client.clientId session.device.identity (Utf8.encode client.secret)
        now with
    | .error error => .fail (.jwt error)
    | .ok _ =>
      session.vault.setIdToken (.withType value type)
      Program.dropUser

/-- Removes the identity token. -/
def clearIdToken (session : Session) : Program Unit := session.vault.clear .idToken

/-! ### Registration of the device -/

/-- The registration of the device. -/
def deviceIdentity (session : Session) : Program (Option DeviceIdentity) :=
  session.readable .deviceIdentity session.vault.deviceIdentity

/-- Stores the registration of the device. -/
def setDeviceIdentity (session : Session) (identity : DeviceIdentity) : Program Unit :=
  session.vault.setDeviceIdentity identity

/-- Removes the registration of the device. -/
def clearDeviceIdentity (session : Session) : Program Unit := session.vault.clear .deviceIdentity

/-- Whether the device is registered. -/
def isDeviceRegistered (session : Session) : Program Bool := do
  return (← session.deviceIdentity).isSome

/-! ### The user -/

/-- Whether the user is logged in: by an identity token, a refresh token, or a valid access token,
looked for in this order. -/
def isLoggedIn (session : Session) : Program Bool := do
  if (← session.idToken).isSome then return true
  if ← session.hasRefreshToken then return true
  return (← session.validAccessToken).isSome

/-- Removes what belongs to the user and keeps client credential and registration. -/
def clearUserTokens (session : Session) : Program Unit := do
  session.clearAccessToken
  session.vault.clear .refreshToken
  session.clearIdToken
  Program.dropUser

end Session

end GatewaySession
