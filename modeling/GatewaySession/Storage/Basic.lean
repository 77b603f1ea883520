import GatewaySession.Storage.File
import GatewaySession.Storage.Memory

/-!
# Storage

Where sealed records are kept: in memory or in a file. Both answer the same four operations, and a
session does not see which one it has.

## Main definitions

* `Storage` — either kind
* `Storage.get`, `Storage.put`, `Storage.delete`, `Storage.list` — the operations
-/

namespace GatewaySession

/-- Storage of either kind. -/
inductive Storage where
  | memory (storage : MemoryStorage)
  | file (state : FileState)

namespace Storage

/-- The name of the kind. -/
def name : Storage → String
  | memory _ => "memory"
  | file _ => "file"

/-- The value of a key, if it has one. -/
def get (key : String) : Storage → Except Error (Option Bytes)
  | memory storage => storage.get key
  | file state => state.get key

/-- Gives a key a value. -/
def put (key : String) (value : Bytes) : Storage → Except Error Storage
  | memory storage => (storage.put key value).map memory
  | file state => (state.put key value).map file

/-- Removes the value of a key; none need be there. -/
def delete (key : String) : Storage → Except Error Storage
  | memory storage => (storage.delete key).map memory
  | file state => (state.delete key).map file

/-- The keys that begin with a text, in ascending order. -/
def list (start : String) : Storage → Except Error (List String)
  | memory storage => .ok (storage.list start)
  | file state => state.list start

end Storage

end GatewaySession
