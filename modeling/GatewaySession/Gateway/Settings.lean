import GatewaySession.Error
import GatewaySession.Json.Record
import GatewaySession.Text.Blank

/-!
# Settings of a gateway connection

Where the gateway is, who the application is, and how the engine behaves towards both. Settings are
read from a JSON record in which every field may be left out, or built up from the defaults; either
way the host, the client id and the storage prefix have to be there before they are used.

## Main definitions

* `Endpoint` — the operations of the gateway, with their default paths
* `Settings`, `Settings.make` — the settings and the defaults
* `Settings.check` — the required fields
* `Settings.parse`, `Settings.load` — from a JSON text, and from the contents of a file
* `Settings.urlFor` — the absolute URL of an operation
* `Settings.workerLimit` — how many requests may run at once
-/

namespace GatewaySession

/-- The operations of the gateway whose path can be chosen. -/
inductive Endpoint where
  /-- Token grants. -/
  | token
  /-- Provisioning of client credentials. -/
  | clientInitialize
  /-- Registration of the device. -/
  | register
  /-- Removal of the device. -/
  | deregister
  /-- Revocation of an identity token. -/
  | logout
  /-- Delivery of a one-time passcode. -/
  | otpGenerate
  deriving DecidableEq

namespace Endpoint

/-- All operations. -/
def all : List Endpoint := [token, clientInitialize, register, deregister, logout, otpGenerate]

/-- The name of an operation in the settings. -/
def name : Endpoint → String
  | token => "token"
  | clientInitialize => "client_initialize"
  | register => "register"
  | deregister => "deregister"
  | logout => "logout"
  | otpGenerate => "otp_generate"

/-- The operation of a name. -/
def ofName? (name : String) : Option Endpoint := all.find? fun endpoint => endpoint.name == name

/-- The path of an operation unless the settings choose another. -/
def defaultPath : Endpoint → String
  | token => "/auth/oauth/v2/token"
  | clientInitialize => "/connect/client/initialize"
  | register => "/connect/device/register"
  | deregister => "/connect/device/remove"
  | logout => "/connect/session/logout"
  | otpGenerate => "/auth/generateOTP"

end Endpoint

/-- The settings of one gateway connection. -/
structure Settings where
  /-- Name of the host. -/
  host : String
  /-- Port of the host. -/
  port : UInt16
  /-- Text before every path; slashes at its end are dropped. -/
  pathPrefix : String
  /-- The client id of the application. -/
  clientId : String
  /-- The client secret; without one, client credentials are provisioned. -/
  clientSecret : Option String
  /-- The scope that grants ask for. -/
  scope : String
  /-- The redirect URI that grants carry. -/
  redirectUri : Option String
  /-- Whether identity tokens are kept for single sign-on. -/
  ssoEnabled : Bool
  /-- Whether registration needs a user credential. -/
  registrationRequiresUser : Bool
  /-- Paths chosen for operations, by the operation's name. -/
  endpoints : Table String
  /-- Hashes of pinned public keys. -/
  trustedKeyHashes : List String
  /-- The namespace of stored records, and the alias of the key that seals them. -/
  storagePrefix : String
  /-- How many requests may run at once, if the machine does not decide. -/
  maxWorkers : Option UInt64
  /-- Seconds that a response nobody takes is kept. -/
  responseTtl : UInt64

namespace Settings

/-- The defaults. -/
def default : Settings where
  host := "localhost"
  port := 8443
  pathPrefix := ""
  clientId := ""
  clientSecret := none
  scope := "openid msso phone profile address email"
  redirectUri := none
  ssoEnabled := true
  registrationRequiresUser := true
  endpoints := .empty
  trustedKeyHashes := []
  storagePrefix := "gatewarden"
  maxWorkers := none
  responseTtl := 600

instance : Inhabited Settings := ⟨default⟩

/-- The defaults for a host and a client. -/
def make (host clientId : String) : Settings := { default with host, clientId }

/-! ### Required fields -/

/-- Refuses settings that lack a host, a client id or a storage prefix, in this order. -/
def check (settings : Settings) : Except Error Unit :=
  if (Text.trim settings.host).isEmpty then .error (.config "host must not be empty")
  else if (Text.trim settings.clientId).isEmpty then .error (.config "client_id must not be empty")
  else if settings.storagePrefix.isEmpty then .error (.config "storage_prefix must not be empty")
  else .ok ()

/-! ### Reading and writing -/

/-- The fields of the record, in order. -/
def fieldNames : List String :=
  ["host", "port", "prefix", "client_id", "client_secret", "scope", "redirect_uri", "sso_enabled",
    "registration_requires_user", "endpoints", "trusted_key_hashes", "storage_prefix",
    "max_workers", "response_ttl_secs"]

/-- A map from names of operations to paths. -/
def endpoints? (document : Json.Document) : Option (Table String) := do
  let table ← document.textTable?
  if table.keys.all fun name => (Endpoint.ofName? name).isSome then some table else none

/-- The settings of a record; fields left out have their defaults. -/
def ofDocument? (document : Json.Document) : Option Settings := do
  let [host, port, pathPrefix, clientId, clientSecret, scope, redirectUri, ssoEnabled,
    registrationRequiresUser, endpoints, trustedKeyHashes, storagePrefix, maxWorkers,
    responseTtl] ← document.slots? fieldNames | none
  return {
    host := ← host.defaulted default.host (·.text?)
    port := ← port.defaulted default.port (·.uint16?)
    pathPrefix := ← pathPrefix.defaulted default.pathPrefix (·.text?)
    clientId := ← clientId.defaulted default.clientId (·.text?)
    clientSecret := ← clientSecret.defaulted default.clientSecret (Json.Slot.nullable (·.text?))
    scope := ← scope.defaulted default.scope (·.text?)
    redirectUri := ← redirectUri.defaulted default.redirectUri (Json.Slot.nullable (·.text?))
    ssoEnabled := ← ssoEnabled.defaulted default.ssoEnabled (·.bool?)
    registrationRequiresUser :=
      ← registrationRequiresUser.defaulted default.registrationRequiresUser (·.bool?)
    endpoints := ← endpoints.defaulted default.endpoints endpoints?
    trustedKeyHashes := ← trustedKeyHashes.defaulted default.trustedKeyHashes (·.texts?)
    storagePrefix := ← storagePrefix.defaulted default.storagePrefix (·.text?)
    maxWorkers := ← maxWorkers.defaulted default.maxWorkers (Json.Slot.nullable (·.uint64?))
    responseTtl := ← responseTtl.defaulted default.responseTtl (·.uint64?) }

/-- The settings of a JSON text, with the required fields. -/
def parse (text : Bytes) : Except Error Settings :=
  match (Json.Document.parse? text).bind ofDocument? with
  | none => .error .json
  | some settings => settings.check.map fun _ => settings

/-- The settings of a file, by its contents if it is there. -/
def load (file : Option Bytes) : Except Error Settings :=
  match file with
  | none => .error (.io .notFound)
  | some contents =>
    if (Utf8.decode? contents).isSome then parse contents else .error (.io .invalidData)

/-- A text that may be absent. -/
def valueOfText? (text : Option String) : Json.Value := (text.map .string).getD .null

/-- The record of the settings. -/
def toValue (settings : Settings) : Json.Value :=
  .object [
    ("host", .string settings.host),
    ("port", .integer settings.port.toNat),
    ("prefix", .string settings.pathPrefix),
    ("client_id", .string settings.clientId),
    ("client_secret", valueOfText? settings.clientSecret),
    ("scope", .string settings.scope),
    ("redirect_uri", valueOfText? settings.redirectUri),
    ("sso_enabled", .bool settings.ssoEnabled),
    ("registration_requires_user", .bool settings.registrationRequiresUser),
    ("endpoints", .object (settings.endpoints.map .string).entries),
    ("trusted_key_hashes", .array (settings.trustedKeyHashes.map .string)),
    ("storage_prefix", .string settings.storagePrefix),
    ("max_workers", (settings.maxWorkers.map fun n => .integer n.toNat).getD .null),
    ("response_ttl_secs", .integer settings.responseTtl.toNat)]

/-! ### Choosing -/

/-- Chooses the path of an operation. -/
def withEndpoint (settings : Settings) (endpoint : Endpoint) (path : String) : Settings :=
  { settings with endpoints := settings.endpoints.insert endpoint.name path }

/-- Adds the hash of a pinned public key. -/
def withTrustedKeyHash (settings : Settings) (hash : String) : Settings :=
  { settings with trustedKeyHashes := settings.trustedKeyHashes ++ [hash] }

/-- Chooses how many requests may run at once, at least one. -/
def withMaxWorkers (settings : Settings) (workers : UInt64) : Settings :=
  { settings with maxWorkers := some (max workers 1) }

/-- Chooses how long a response nobody takes is kept, in whole seconds of the given time. -/
def withResponseTtl (settings : Settings) (milliseconds : UInt64) : Settings :=
  { settings with responseTtl := milliseconds / 1000 }

/-! ### What follows -/

/-- The path of an operation. -/
def endpointPath (settings : Settings) (endpoint : Endpoint) : String :=
  (settings.endpoints.get? endpoint.name).getD endpoint.defaultPath

/-- The absolute URL of a path. -/
def url (settings : Settings) (path : String) : String :=
  let base := Text.trimEnd '/' settings.pathPrefix
  s!"https://{settings.host}:{settings.port}{base}{path}"

/-- The absolute URL of an operation. -/
def urlFor (settings : Settings) (endpoint : Endpoint) : String :=
  settings.url (settings.endpointPath endpoint)

/-- How many requests may run at once on a machine with a number of cores. -/
def workerLimit (settings : Settings) (cores : Nat) : Nat :=
  match settings.maxWorkers with
  | some workers => workers.toNat
  | none => 2 * cores + 1

end Settings

end GatewaySession
