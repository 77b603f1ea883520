import GatewaySession.Error
import GatewaySession.Sealing.Sha256
import GatewaySession.Text.Utf8

/-!
# Devices

The device an engine runs on. Its identity is sent in headers and named by identity tokens as the
authorized party, so it must be short and visible ASCII. A fingerprint of any text gives such an
identity.

## Main definitions

* `Device` — identity and display name
* `Device.checkIdentity` — which identities are admitted
* `Device.fingerprint` — an identity made from any text
-/

namespace GatewaySession

/-- A device. -/
structure Device where
  /-- The stable identity. -/
  identity : String
  /-- The name shown to the user, sent at registration. -/
  name : String
  deriving DecidableEq

namespace Device

/-- The longest identity, in octets. -/
def maxIdentityLength : Nat := 100

/-- Whether a character is visible ASCII. -/
def isVisible (c : Char) : Bool := '!' ≤ c && c ≤ '~'

/-- Refuses identities that are empty, too long, or not visible ASCII, in this order. -/
def checkIdentity (identity : String) : Except Error Unit :=
  if identity.isEmpty then .error (.invalidInput "device identity cannot be empty")
  else if maxIdentityLength < (Utf8.encode identity).length then
    .error (.invalidInput
      s!"device identity exceeds maximum length of {maxIdentityLength} characters")
  else if identity.toList.all isVisible then .ok ()
  else .error (.invalidInput "device identity must be printable ASCII without whitespace")

/-- The identity derived from a fingerprint: the hexadecimal hash of its text. -/
def fingerprint (text : String) : String := Bytes.toHex (Sha256.hash (Utf8.encode text)).toList

end Device

end GatewaySession
