import GatewaySession.Bytes
import GatewaySession.Storage.Key
import GatewaySession.Table

/-!
# Storage in memory

Values by key, gone with the process. To let callers be tried against failing storage, an error can
be laid over reading, writing and removing; it comes before anything else. A locked key store is
reported as such, any other error by its text alone.

## Main definitions

* `MemoryStorage` — the values, and the errors laid over the operations
* `MemoryStorage.get`, `MemoryStorage.put`, `MemoryStorage.delete`, `MemoryStorage.list`
-/

namespace GatewaySession

/-- Values by key. -/
structure MemoryStorage where
  /-- The values. -/
  values : Table Bytes := .empty
  /-- The error that reading gives. -/
  getError : Option Error := none
  /-- The error that writing gives. -/
  putError : Option Error := none
  /-- The error that removing gives. -/
  deleteError : Option Error := none

namespace MemoryStorage

/-- An error as it is reported: a locked key store as such, any other by its text. -/
def reported : Error → Error
  | .storeLocked => .storeLocked
  | error => .other error.message

/-- Fails with an error laid over an operation. -/
def overlay : Option Error → Except Error Unit
  | some error => .error (reported error)
  | none => .ok ()

/-- The value of a key, if it has one. -/
def get (storage : MemoryStorage) (key : String) : Except Error (Option Bytes) := do
  overlay storage.getError
  return storage.values.get? key

/-- Gives a key a value. -/
def put (storage : MemoryStorage) (key : String) (value : Bytes) :
    Except Error MemoryStorage := do
  overlay storage.putError
  StorageKey.check key
  return { storage with values := storage.values.insert key value }

/-- Removes the value of a key; none need be there. -/
def delete (storage : MemoryStorage) (key : String) : Except Error MemoryStorage := do
  overlay storage.deleteError
  return { storage with values := storage.values.erase key }

/-- The keys that begin with a text, in ascending order. -/
def list (storage : MemoryStorage) (start : String) : List String := storage.values.keysFrom start

end MemoryStorage

end GatewaySession
