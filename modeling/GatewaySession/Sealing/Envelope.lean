import GatewaySession.Error
import GatewaySession.Sealing.Gcm
import GatewaySession.Sealing.Sha256
import GatewaySession.Text.Utf8

/-!
# Sealed blobs

A plaintext is sealed under a key and the name of that key. The blob is a detached authentication
code of 32 octets, the nonce of 12, the ciphertext, and the tag of 16. The code covers ciphertext
and tag under a key derived from the cipher key and its name, so a blob moved under another name
does not open even if both names have the same key. Opening checks the length, then the code, then
the tag.

## Main definitions

* `Envelope.codeKey`, `Envelope.code` — the derived key and the detached code
* `Envelope.wrap` — the blob of a plaintext under a given nonce
* `Envelope.unwrap` — the plaintext of a blob
-/

namespace GatewaySession

namespace Envelope

/-- Octets of the detached code. -/
def codeLength : Nat := 32

/-- Octets of the nonce. -/
def nonceLength : Nat := 12

/-- Octets of the tag. -/
def tagLength : Nat := 16

/-- Octets of a blob beyond its plaintext. -/
def overhead : Nat := codeLength + nonceLength + tagLength

/-- What the name of a key is labelled with before the code key is derived. -/
def codeKeyLabel : String := "gatewarden.mac."

/-- The key of the detached code, derived from the cipher key and its name. -/
def codeKey (key : Aes256.Key) (name : String) : Sha256.Digest :=
  Sha256.hmac key.toList (Utf8.encode codeKeyLabel ++ Utf8.encode name)

/-- The detached code of a ciphertext with its tag. -/
def code (key : Aes256.Key) (name : String) (ciphertext : Bytes) : Sha256.Digest :=
  Sha256.hmac (codeKey key name).toList ciphertext

/-- Ciphertext and tag of a plaintext. -/
def encrypt (key : Aes256.Key) (nonce : Gcm.Nonce) (plaintext : Bytes) : Bytes :=
  let ciphertext := Gcm.applyKeyStream key nonce plaintext
  ciphertext ++ (Gcm.tag key nonce ciphertext).toList

/-- The blob of a plaintext. -/
def wrap (key : Aes256.Key) (name : String) (nonce : Gcm.Nonce) (plaintext : Bytes) : Bytes :=
  let ciphertext := encrypt key nonce plaintext
  (code key name ciphertext).toList ++ nonce.toList ++ ciphertext

/-- Twelve octets as a nonce, missing ones being zero. -/
def nonceOf (octets : Bytes) : Gcm.Nonce := Vector.ofFn fun i => octets.getD i 0

/-- The plaintext of ciphertext and tag, if the tag is right. -/
def decrypt? (key : Aes256.Key) (nonce : Gcm.Nonce) (ciphertext : Bytes) : Option Bytes :=
  let text := ciphertext.take (ciphertext.length - tagLength)
  if (Gcm.tag key nonce text).toList = ciphertext.drop (ciphertext.length - tagLength) then
    some (Gcm.applyKeyStream key nonce text)
  else none

/-- Refuses blobs that are too short to hold anything. -/
def checkLength (blob : Bytes) : Except Error Unit :=
  if blob.length < overhead then .error (.integrity s!"blob too short ({blob.length} bytes)")
  else .ok ()

/-- The plaintext of a blob that is long enough. -/
def unwrapWith (key : Aes256.Key) (name : String) (blob : Bytes) : Except Error Bytes :=
  let nonce := (blob.drop codeLength).take nonceLength
  let ciphertext := blob.drop (codeLength + nonceLength)
  if (code key name ciphertext).toList = blob.take codeLength then
    match decrypt? key (nonceOf nonce) ciphertext with
    | some plaintext => .ok plaintext
    | none => .error (.integrity "authentication tag mismatch")
  else .error (.integrity "MAC mismatch")

/-- The plaintext of a blob. -/
def unwrap (key : Aes256.Key) (name : String) (blob : Bytes) : Except Error Bytes := do
  checkLength blob
  unwrapWith key name blob

end Envelope

end GatewaySession
