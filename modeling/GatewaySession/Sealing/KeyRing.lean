import GatewaySession.Error
import GatewaySession.Sealing.Aes256
import GatewaySession.Table

/-!
# Key rings

Keys by name. A ring that is locked gives no key. A name that has no key yet gets one at its first
use and keeps it; the key is supplied by the caller, who draws it at random.

## Main definitions

* `KeyRing` — the keys, and whether they are locked away
* `KeyRing.key` — the key of a name
-/

namespace GatewaySession

/-- Keys by name. -/
structure KeyRing where
  /-- The keys in use. -/
  keys : Table Aes256.Key := .empty
  /-- Whether the keys are locked away. -/
  isLocked : Bool := false

namespace KeyRing

/-- Installs a key under a name. -/
def withKey (ring : KeyRing) (name : String) (key : Aes256.Key) : KeyRing :=
  { ring with keys := ring.keys.insert name key }

/-- The key of a name; a new name takes the fresh key given. -/
def key (ring : KeyRing) (name : String) (fresh : Aes256.Key) : Except Error Aes256.Key × KeyRing :=
  if ring.isLocked then (.error .storeLocked, ring)
  else
    match ring.keys.get? name with
    | some key => (.ok key, ring)
    | none => (.ok fresh, ring.withKey name fresh)

end KeyRing

end GatewaySession
