import GatewaySession.Credential.Record
import GatewaySession.Proofs.Json.Object
import GatewaySession.Proofs.Timestamp.Text

/-!
# Reading the records that were written

Every record that a vault keeps is read as it was written. A field that is left out because it is
absent is read as absent, and a registration is read back if its time is plain.

## Main definitions

* `Record.Faithful` — a value that is read as it was written

## Main results

* `Record.faithful_text`, `Record.faithful_accessToken`, `Record.faithful_idToken`,
  `Record.faithful_clientCredential`, `Record.faithful_deviceIdentity`
-/

namespace GatewaySession

namespace Record

open Json (Value Document)

/-- Whether a value is read as it was written. -/
def Faithful {α : Type} [Record α] (value : α) : Prop := decode? (encode value) = some value

/-! ### Fields -/

theorem text?_string (text : String) :
    (Json.documentOf (.string text)).text? = some text :=
  Json.textOfBody?_bodyOf text

theorem int64?_integer (n : Int64) : (Json.documentOf (.integer n.toInt)).int64? = some n :=
  Document.int64?_numeralOf n

theorem nullable_text?_string (text : String) :
    Json.Slot.nullable (·.text?) (Json.documentOf (.string text)) = some (some text) :=
  congrArg (Option.map some) (text?_string text)

/-- A record without doubles is read from what was written for its members. -/
theorem decode?_object {α : Type} [Record α] {value : α} {members : List (String × Value)}
    (written : toValue value = .object members) (whole : ∀ member ∈ members, member.2.IsWhole) :
    decode? (α := α) (encode value) = ofDocument? (.object (members.map Json.memberOf)) := by
  rw [decode?, encode, written, Document.parse?_object whole, Option.bind_some]

/-! ### Records -/

/-- **A text** is read as it was written. -/
theorem faithful_text (text : String) : Faithful text := by
  have parsed : Document.parse? (encode text) = some (.string (Json.bodyOf text)) := by
    rw [Document.parse?, encode, toValue, instString, Value.encode, Value.renderChars,
      Document.feed_string]
    rfl
  rw [Faithful, decode?, parsed, Option.bind_some]
  exact text?_string text

/-- **An access token** is read as it was written. -/
theorem faithful_accessToken (token : AccessToken) : Faithful token := by
  obtain ⟨value, expiresAt, scope⟩ := token
  rw [Faithful, decode?_object rfl (by cases scope <;> simp [member?])]
  simp only [ofDocument?, Document.slots?_memberOf]
  cases scope with
  | none =>
    simp [member?, Document.slotOf?, Json.Slot.required, Json.Slot.optional, text?_string,
      int64?_integer]
  | some scope =>
    simp [member?, Document.slotOf?, Json.Slot.required, Json.Slot.optional, text?_string,
      int64?_integer, nullable_text?_string]

/-- **An identity token** is read as it was written. -/
theorem faithful_idToken (token : IdToken) : Faithful token := by
  obtain ⟨value, type⟩ := token
  rw [Faithful, decode?_object rfl (by simp)]
  simp only [ofDocument?, Document.slots?_memberOf]
  simp [Document.slotOf?, Json.Slot.required, text?_string]

/-- **A client credential** is read as it was written. -/
theorem faithful_clientCredential (credential : ClientCredential) : Faithful credential := by
  obtain ⟨clientId, clientSecret, expiresAt⟩ := credential
  rw [Faithful, decode?_object rfl (by cases clientSecret <;> simp [member?])]
  simp only [ofDocument?, Document.slots?_memberOf]
  cases clientSecret with
  | none =>
    simp [member?, Document.slotOf?, Json.Slot.required, Json.Slot.optional, Json.Slot.defaulted,
      text?_string, int64?_integer]
  | some secret =>
    simp [member?, Document.slotOf?, Json.Slot.required, Json.Slot.optional, Json.Slot.defaulted,
      text?_string, int64?_integer, nullable_text?_string]

/-- **A registration** is read as it was written, if its time is plain. -/
theorem faithful_deviceIdentity {identity : DeviceIdentity}
    (plain : identity.registeredAt.IsPlain) : Faithful identity := by
  obtain ⟨certificatePem, magIdentifier, registeredAt⟩ := identity
  rw [Faithful, decode?_object rfl (by simp)]
  simp only [ofDocument?, Document.slots?_memberOf]
  simp [Document.slotOf?, Json.Slot.required, text?_string, Timestamp.parse?_render plain]

end Record

end GatewaySession
