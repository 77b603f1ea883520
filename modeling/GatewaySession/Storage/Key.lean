import GatewaySession.Error
import GatewaySession.Text.Utf8

/-!
# Storage keys

What may name a stored value. A key is written only if it is not empty, not too long and free of
control characters; reading and removing ask for nothing, since a key that cannot be written has no
value.

## Main definitions

* `StorageKey.check` — which keys are admitted
-/

namespace GatewaySession

namespace StorageKey

/-- The longest key, in octets. -/
def maxLength : Nat := 255

/-- Whether a character is one of the control characters of ASCII and Latin-1. -/
def isControl (c : Char) : Bool := c.toNat < 0x20 || (0x7F ≤ c.toNat && c.toNat < 0xA0)

/-- Refuses keys that are empty, too long, or contain control characters, in this order. -/
def check (key : String) : Except Error Unit :=
  if key.isEmpty then .error (.invalidInput "storage key cannot be empty")
  else if maxLength < (Utf8.encode key).length then
    .error (.invalidInput s!"storage key exceeds maximum length of {maxLength} characters")
  else if key.toList.any isControl then
    .error (.invalidInput "storage key contains control characters")
  else .ok ()

end StorageKey

end GatewaySession
