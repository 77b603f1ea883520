import GatewaySession.Credential.Basic
import GatewaySession.Gateway.Message
import GatewaySession.Sealing.Gcm

/-!
# Effects

Everything a session asks of its surroundings, one constructor for each kind of question, with the
type of the answer. Sessions are written against this list alone; who answers, and how, is not their
concern. Storage, key store, gateway and user may fail or answer anything.

Connections are bound to the registration of the device that was stored when they were made. What is
cached between operations, the user's credential and the connection, belongs to the surroundings
too, because several operations share it.

## Main definitions

* `Connection` — a connection to the gateway
* `Purpose` — what a request is sent for
* `Need`, `Answer` — what a user can be asked, and what he can say
* `Effect`, `Effect.Reply` — the questions and the types of their answers
-/

namespace GatewaySession

/-- A connection to the gateway. -/
structure Connection where
  /-- The registration it was made with, if the device was registered. -/
  registration : Option DeviceIdentity
  deriving DecidableEq

/-- What an access token is granted for. -/
inductive Presented where
  /-- The refresh token. -/
  | refreshToken
  /-- The identity token. -/
  | idToken
  /-- The credential of the user. -/
  | userCredential
  deriving DecidableEq

/-- What a request is sent for. The gateway does not see it; it tells the requests of a caller from
those that a session makes of its own. -/
inductive Purpose where
  /-- The request of a caller, decorated, by its number. -/
  | caller (id : Nat)
  /-- A request that is sent as it is. -/
  | asIs
  /-- Client credentials. -/
  | provisioning
  /-- The registration of the device. -/
  | registration
  /-- An access token. -/
  | grant (presented : Presented)
  /-- The delivery of a one-time passcode. -/
  | otpDelivery
  /-- The revocation of an identity token. -/
  | revocation
  /-- The removal of the device. -/
  | removal
  deriving DecidableEq

/-- What only a user can supply. -/
inductive Need where
  /-- A credential. -/
  | credentials
  /-- An unlocked key store. -/
  | unlock
  /-- A one-time passcode: the channels offered, and the one it was already sent over. -/
  | otp (channels : List String) (selected : Option String)
  deriving DecidableEq

/-- What a user can say to a need. -/
inductive Answer where
  /-- A credential. -/
  | credentials (credential : UserCredential)
  /-- The channel over which a one-time passcode is to be sent. -/
  | otpChannel (channel : String)
  /-- A one-time passcode. -/
  | otp (passcode : String)
  /-- The key store is unlocked. -/
  | unlocked
  /-- The input will come later. -/
  | deferred
  /-- The request is abandoned. -/
  | cancelled
  deriving DecidableEq

/-- What a session asks of its surroundings. -/
inductive Effect where
  /-- The stored value of a key. -/
  | read (key : String)
  /-- Store a value under a key. -/
  | write (key : String) (value : Bytes)
  /-- Remove the value of a key. -/
  | remove (key : String)
  /-- The stored keys that begin with a text. -/
  | list (start : String)
  /-- The sealing key of a name. -/
  | sealingKey (name : String)
  /-- A nonce never used before. -/
  | nonce
  /-- An identifier never used before. -/
  | identifier
  /-- The time. -/
  | time
  /-- Wait until nobody else writes to the store, and keep others from it. -/
  | hold
  /-- Let others write to the store again. -/
  | release
  /-- The cached credential of the user. -/
  | user
  /-- Cache a credential of the user, or drop it. -/
  | cacheUser (credential : Option UserCredential)
  /-- The cached connection. -/
  | connection
  /-- Cache a connection, or drop it. -/
  | cacheConnection (connection : Option Connection)
  /-- Make a connection for a registration. -/
  | connect (registration : Option DeviceIdentity)
  /-- Send a request over a connection. -/
  | send (connection : Connection) (purpose : Purpose) (request : Request)
  /-- Ask the user on behalf of a request. -/
  | ask (id : Nat) (need : Need)

namespace Effect

/-- The type of the answer to an effect. -/
abbrev Reply : Effect → Type
  | read _ => Except Error (Option Bytes)
  | write _ _ => Except Error Unit
  | remove _ => Except Error Unit
  | list _ => Except Error (List String)
  | sealingKey _ => Except Error Aes256.Key
  | nonce => Gcm.Nonce
  | identifier => String
  | time => Timestamp
  | hold => Unit
  | release => Unit
  | user => Option UserCredential
  | cacheUser _ => Unit
  | connection => Option Connection
  | cacheConnection _ => Unit
  | connect _ => Except Error Unit
  | send _ _ _ => Except Error Response
  | ask _ _ => Answer

end Effect

end GatewaySession
