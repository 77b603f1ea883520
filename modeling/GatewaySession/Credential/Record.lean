import GatewaySession.Credential.Basic
import GatewaySession.Json.Record

/-!
# Stored records

What is stored is stored as JSON: texts as they are, everything else as a record with its fields in
a fixed order, where an absent optional field is left out. A class joins the two directions, so that
the vault can keep any of them.

## Main definitions

* `Record` — values with a JSON form
* `Record.encode`, `Record.decode?` — the JSON text of a value, and back
-/

namespace GatewaySession

open Json (Value Document)

/-- Values that are stored as JSON. -/
class Record (α : Type) where
  /-- The JSON form. -/
  toValue : α → Value
  /-- The value of a document, if it has the right form. -/
  ofDocument? : Document → Option α

namespace Record

variable {α : Type} [Record α]

/-- The JSON text of a value. -/
def encode (value : α) : Bytes := (toValue value).encode

/-- The value of a JSON text. -/
def decode? (text : Bytes) : Option α := (Document.parse? text).bind ofDocument?

/-- The member of an optional text: none if it is absent. -/
def member? (name : String) (text : Option String) : List (String × Value) :=
  (text.map fun text => (name, Value.string text)).toList

instance : Record String where
  toValue := .string
  ofDocument? := Document.text?

instance : Record AccessToken where
  toValue token := .object
    ([("value", .string token.value), ("expires_at", .integer token.expiresAt.toInt)] ++
      member? "scope" token.scope)
  ofDocument? document := do
    let [value, expiresAt, scope] ← document.slots? ["value", "expires_at", "scope"] | none
    return ⟨← value.required (·.text?), ← expiresAt.required (·.int64?), ← scope.optional (·.text?)⟩

instance : Record IdToken where
  toValue token := .object [("value", .string token.value), ("type", .string token.type)]
  ofDocument? document := do
    let [value, type] ← document.slots? ["value", "type"] | none
    return ⟨← value.required (·.text?), ← type.required (·.text?)⟩

instance : Record ClientCredential where
  toValue credential := .object
    (("client_id", .string credential.clientId) ::
      member? "client_secret" credential.clientSecret ++
      [("expires_at", .integer credential.expiresAt.toInt)])
  ofDocument? document := do
    let [clientId, clientSecret, expiresAt] ←
      document.slots? ["client_id", "client_secret", "expires_at"] | none
    return ⟨← clientId.required (·.text?), ← clientSecret.optional (·.text?),
      ← expiresAt.defaulted 0 (·.int64?)⟩

instance : Record DeviceIdentity where
  toValue identity := .object
    [("certificate_pem", .string identity.certificatePem),
      ("mag_identifier", .string identity.magIdentifier),
      ("registered_at", .string identity.registeredAt.render)]
  ofDocument? document := do
    let [certificatePem, magIdentifier, registeredAt] ←
      document.slots? ["certificate_pem", "mag_identifier", "registered_at"] | none
    return ⟨← certificatePem.required (·.text?), ← magIdentifier.required (·.text?),
      ← registeredAt.required fun document => document.text?.bind Timestamp.parse?⟩

end Record

end GatewaySession
