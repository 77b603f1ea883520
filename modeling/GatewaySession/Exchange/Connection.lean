import GatewaySession.Session.Basic

/-!
# Sending over the session's connection

A request goes over the cached connection. If there is none, one is made for the registration that
is stored at that moment, and cached. Requests of the session's own are public and carry the device
headers: the device's identity and, once it is registered, the identifier that the gateway assigned.

## Main definitions

* `Session.send` — the response to a request
* `Session.sendChecked` — the response if it is a success
* `Session.withDeviceHeaders` — a request with the device headers
-/

namespace GatewaySession

namespace Session

/-- The connection of the session, made if there is none. -/
def connection (session : Session) : Program Connection := do
  match ← Program.ask .connection with
  | some connection => return connection
  | none =>
    let registration ← session.deviceIdentity
    Program.perform (.connect registration) .done
    let _ ← Program.ask (.cacheConnection (some ⟨registration⟩))
    return ⟨registration⟩

/-- The response to a request. -/
def send (session : Session) (purpose : Purpose) (request : Request) : Program Response := do
  let connection ← session.connection
  Program.send connection purpose request

/-- The response to a request if it is a success, else its error. -/
def sendChecked (session : Session) (purpose : Purpose) (request : Request) :
    Program Response := do
  let response ← session.send purpose request
  .ofExcept response.checked

/-- Adds the identity of the device and, once it is registered, its assigned identifier. -/
def withDeviceHeaders (session : Session) (request : Request) : Program Request := do
  let request := request.setHeader "device-id" session.device.identity
  match ← session.deviceIdentity with
  | some identity => return request.setHeader "mag-identifier" identity.magIdentifier
  | none => return request

/-- A public request to an operation of the gateway. -/
def publicRequest (session : Session) (method : Method) (endpoint : Endpoint) : Request :=
  Request.makePublic { method, url := session.settings.urlFor endpoint }

/-- The header value that authenticates a client: id and secret, joined by a colon, in base64. -/
def basicAuth (client : ClientCredential) : String :=
  "Basic " ++ Base64.encode Base64.standard true (Utf8.encode s!"{client.clientId}:{client.secret}")

/-- Accepts an identity token that the gateway issued; one that does not validate is ignored. -/
def acceptIssuedIdToken (session : Session) (value : String) (type : Option String) :
    Program Unit := do
  match ← (session.acceptIdToken value type).attempt with
  | .error (.jwt _) => return ()
  | result => .ofExcept result

/-- Asks the gateway to send a one-time passcode over a channel. -/
def deliverOtp (session : Session) (channel : String) : Program Unit := do
  let request := (session.publicRequest .get .otpGenerate).setHeader "X-OTP-CHANNEL" channel
  let _ ← session.sendChecked .otpDelivery (← session.withDeviceHeaders request)

end Session

end GatewaySession
