import GatewaySession.Credential.Record
import GatewaySession.Program.Basic
import GatewaySession.Sealing.Envelope
import GatewaySession.Vault.Slot

/-!
# Vaults

A vault keeps one record in each slot, sealed, in storage that it may share with others. Its name is
both the beginning of its storage keys and the name of the key that seals its records. A slot
without a record reads as nothing. A record that does not open, or that opens to something else, is
an integrity error.

Operations that write hold the vault for as long as they last. Taking the refresh token reads and
removes it under one hold, so that it is given out once; an unreadable one is removed too.

## Main definitions

* `Vault`, `Vault.keyFor` — a vault and the storage keys of its slots
* `Vault.read`, `Vault.store`, `Vault.clear` — one slot
* `Vault.takeRefreshToken` — reading and removing at once
* `Vault.clearAll` — every key that begins as the vault's do
-/

namespace GatewaySession

/-- A sealed store of records. -/
structure Vault where
  /-- What the storage keys begin with, and the name of the sealing key. -/
  name : String
  deriving DecidableEq

namespace Vault

variable {α : Type}

/-- What the storage keys of a vault begin with. -/
def keyStart (vault : Vault) : String := vault.name ++ "."

/-- The storage key of a slot. -/
def keyFor (vault : Vault) (slot : Slot) : String := vault.keyStart ++ slot.name

/-! ### Storage, with errors that name operation and key -/

/-- Wraps the error of a storage operation. -/
def about (operation key : String) (program : Program α) : Program α := do
  match ← program.attempt with
  | .ok result => return result
  | .error source => .fail (.storageOperation operation key source)

/-- Removes the record of a slot. -/
def remove (vault : Vault) (slot : Slot) : Program Unit :=
  about "delete" (vault.keyFor slot) (.remove (vault.keyFor slot))

/-! ### Sealed values -/

/-- The plaintext of a blob. The key is asked for only if the blob is long enough. -/
def unsealed (vault : Vault) (blob : Bytes) : Program Bytes := do
  .ofExcept (Envelope.checkLength blob)
  let key ← Program.sealingKey vault.name
  .ofExcept (Envelope.unwrapWith key vault.name blob)

/-- The blob of a plaintext. -/
def sealed (vault : Vault) (plaintext : Bytes) : Program Bytes := do
  let key ← Program.sealingKey vault.name
  let nonce ← Program.ask .nonce
  return Envelope.wrap key vault.name nonce plaintext

/-! ### Slots -/

variable [Record α]

/-- The record that a plaintext of a slot encodes. -/
def recordOf (slot : Slot) (plaintext : Bytes) : Except Error α :=
  match Record.decode? plaintext with
  | some value => .ok value
  | none => .error (.integrity s!"undecodable {slot.name} record: <json>")

/-- The record of a slot, if there is one. -/
def read (vault : Vault) (slot : Slot) : Program (Option α) := do
  match ← about "get" (vault.keyFor slot) (.read (vault.keyFor slot)) with
  | none => return none
  | some blob =>
    let plaintext ← vault.unsealed blob
    return some (← .ofExcept (recordOf slot plaintext))

/-- Puts a record into a slot. -/
def write (vault : Vault) (slot : Slot) (value : α) : Program Unit := do
  let blob ← vault.sealed (Record.encode value)
  about "put" (vault.keyFor slot) (.write (vault.keyFor slot) blob)

/-- Puts a record into a slot while holding the vault. -/
def store (vault : Vault) (slot : Slot) (value : α) : Program Unit :=
  (vault.write slot value).guarded

/-- Empties a slot. -/
def clear (vault : Vault) (slot : Slot) : Program Unit := (vault.remove slot).guarded

/-- Removes keys one after the other. -/
def removeKeys : List String → Program Unit
  | [] => return ()
  | key :: rest => do
    about "delete" key (.remove key)
    removeKeys rest

/-- Empties every slot, and removes whatever else is stored under keys that begin alike. -/
def clearAll (vault : Vault) : Program Unit := Program.guarded do
  let keys ← about "list" vault.keyStart (.list vault.keyStart)
  removeKeys keys

/-! ### Each slot with its type -/

/-- The access token. -/
def accessToken (vault : Vault) : Program (Option AccessToken) := vault.read .accessToken

/-- Stores the access token. -/
def setAccessToken (vault : Vault) (token : AccessToken) : Program Unit :=
  vault.store .accessToken token

/-- The refresh token, which stays. -/
def refreshToken (vault : Vault) : Program (Option String) := vault.read .refreshToken

/-- Stores the refresh token. -/
def setRefreshToken (vault : Vault) (token : String) : Program Unit :=
  vault.store .refreshToken token

/-- The refresh token, which goes; an unreadable one goes too and is reported. -/
def takeRefreshToken (vault : Vault) : Program (Option String) := Program.guarded do
  match ← (vault.read .refreshToken).attempt with
  | .ok none => return none
  | .ok (some token) =>
    vault.remove .refreshToken
    return some token
  | .error (.integrity detail) =>
    vault.remove .refreshToken
    .fail (.integrity detail)
  | .error error => .fail error

/-- The identity token. -/
def idToken (vault : Vault) : Program (Option IdToken) := vault.read .idToken

/-- Stores the identity token. -/
def setIdToken (vault : Vault) (token : IdToken) : Program Unit := vault.store .idToken token

/-- The client credential. -/
def clientCredential (vault : Vault) : Program (Option ClientCredential) :=
  vault.read .clientCredential

/-- Stores the client credential. -/
def setClientCredential (vault : Vault) (credential : ClientCredential) : Program Unit :=
  vault.store .clientCredential credential

/-- The registration of the device. -/
def deviceIdentity (vault : Vault) : Program (Option DeviceIdentity) := vault.read .deviceIdentity

/-- Stores the registration of the device. -/
def setDeviceIdentity (vault : Vault) (identity : DeviceIdentity) : Program Unit :=
  vault.store .deviceIdentity identity

/-- The client id that the stored records were issued for. -/
def configuredClientId (vault : Vault) : Program (Option String) :=
  vault.read .configuredClientId

/-- Stores the client id that the other records are issued for. -/
def setConfiguredClientId (vault : Vault) (clientId : String) : Program Unit :=
  vault.store .configuredClientId clientId

end Vault

end GatewaySession
