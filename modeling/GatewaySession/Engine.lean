import GatewaySession.Exchange.Execution
import GatewaySession.Text.Quoted

/-!
# The engine

A session, its requests and their queue, put together for one gateway. Starting removes what another
client left. Logging out and deregistering tell the gateway first and then clear what is stored here
whatever the gateway said; its refusal is reported afterwards.

## Main definitions

* `Engine.start` — a session that is ready for use
* `Engine.logout` — the end of the user's session
* `Engine.deregister` — the end of the device's registration
* `Engine.destroyAll` — everything stored is removed
-/

namespace GatewaySession

namespace Engine

/-- Opens a session and removes what was stored for another client. -/
def start (settings : Settings) (device : Device) : Program Session := do
  let session ← .ofExcept (Session.make settings device)
  let _ ← session.reconcile
  return session

/-- The text of an engine for diagnostics, with the number of its pending requests. -/
def diagnostic (session : Session) (pending : Nat) : String :=
  "Engine \x7b host: " ++ Text.quote session.settings.host ++
    ", client_id: " ++ Text.quote session.settings.clientId ++ s!", pending: {pending}" ++ " \x7d"

/-- Sends a request of the engine's own, with the device headers; it has to succeed. -/
def sendOwn (session : Session) (purpose : Purpose) (request : Request) : Program Unit := do
  let _ ← session.sendChecked purpose (← session.withDeviceHeaders request)

/-- Runs what tells the gateway, then what clears; the first is reported only after the second. -/
def thenAlways (tell clear : Program Unit) : Program Unit := do
  let told ← tell.attempt
  clear
  .ofExcept told

/-! ### Ending the user's session -/

/-- The request that revokes an identity token. -/
def revocation (session : Session) (client : ClientCredential) (token : IdToken) : Request :=
  ((session.publicRequest .post .logout).setHeader "authorization"
    (Session.basicAuth client)).withForm
    [("logout_apps", "true"), ("id_token", token.value), ("id_token_type", token.type)]

/-- Has the gateway revoke the identity token, if there is one. -/
def revokeIdToken (session : Session) : Program Unit := do
  match ← session.idToken with
  | none => return ()
  | some token =>
    let client ← session.clientCredential
    sendOwn session .revocation (revocation session client token)

/-- Ends the user's session here, and at the gateway too if asked to. -/
def logout (session : Session) (contactServer : Bool) : Program Unit :=
  thenAlways (if contactServer then revokeIdToken session else pure ()) do
    session.clearUserTokens
    Program.dropConnection

/-! ### Forgetting the device -/

/-- Forgets everything and records the client id anew. -/
def destroyAll (session : Session) : Program Unit := do
  session.destroyAll
  Program.dropConnection
  let _ ← session.reconcile

/-- Has the gateway remove the device, if it is registered. -/
def removeDevice (session : Session) : Program Unit := do
  if ← session.isDeviceRegistered then
    sendOwn session .removal (session.publicRequest .delete .deregister)

/-- Removes the device from the gateway and forgets everything here. -/
def deregister (session : Session) : Program Unit :=
  thenAlways (removeDevice session) (destroyAll session)

end Engine

end GatewaySession
