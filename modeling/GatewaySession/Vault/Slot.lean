/-!
# Slots of a vault

The six kinds of material that a vault keeps, one record of each.

## Main definitions

* `Slot` — the kinds
* `Slot.name` — the name of a kind, which is part of its storage key
-/

namespace GatewaySession

/-- A kind of stored material. -/
inductive Slot where
  /-- The access token. -/
  | accessToken
  /-- The refresh token, which is used once. -/
  | refreshToken
  /-- The identity token. -/
  | idToken
  /-- The provisioned client credential. -/
  | clientCredential
  /-- The registration of the device. -/
  | deviceIdentity
  /-- The client id that the other records were issued for. -/
  | configuredClientId
  deriving DecidableEq

namespace Slot

/-- All slots. -/
def all : List Slot :=
  [accessToken, refreshToken, idToken, clientCredential, deviceIdentity, configuredClientId]

/-- The name of a slot. -/
def name : Slot → String
  | accessToken => "access_token"
  | refreshToken => "refresh_token"
  | idToken => "id_token"
  | clientCredential => "client_credential"
  | deviceIdentity => "device_identity"
  | configuredClientId => "configured_client_id"

/-- The slot of a name. -/
def ofName? (name : String) : Option Slot := all.find? fun slot => slot.name == name

end Slot

end GatewaySession
