import GatewaySession.Json.Record
import GatewaySession.Storage.Key
import GatewaySession.Text.Base64

/-!
# Storage in a file

All values stand in one JSON document that maps keys to base64. A file that is missing, or that does
not hold such a document, counts as empty and is replaced at the next write; a document is written
with keys in ascending order, one to a line. A single value that is not base64 is an integrity error
for its key and leaves the others alone.

## Main definitions

* `FileState` — what is at the path of the file
* `FileState.document`, `FileState.ofDocument` — the table of encoded values, and back
* `FileState.get`, `FileState.put`, `FileState.delete`, `FileState.list`
-/

namespace GatewaySession

/-- What is at the path of a storage file. -/
inductive FileState where
  /-- Nothing. -/
  | missing
  /-- A file. -/
  | file (contents : Bytes)
  /-- A directory, which can be neither read nor replaced. -/
  | directory
  deriving DecidableEq

namespace FileState

/-- The table of a document, an unreadable one being empty. -/
def tableOf (contents : Bytes) : Table String :=
  ((Json.Document.parse? contents).bind Json.Document.textTable?).getD .empty

/-- The encoded values by key. -/
def document : FileState → Except Error (Table String)
  | missing => .ok .empty
  | file contents => .ok (tableOf contents)
  | directory => .error (.io .isADirectory)

/-- The file with the given encoded values. -/
def ofDocument (table : Table String) : FileState :=
  file (Utf8.encodeChars (Json.renderLines table))

/-- The value that a text encodes. -/
def decode (key text : String) : Except Error Bytes :=
  match Base64.decode? Base64.standard true text with
  | some value => .ok value
  | none => .error (.integrity s!"invalid base64 for {key}: <base64>")

/-- The value of a key, if it has one. -/
def get (state : FileState) (key : String) : Except Error (Option Bytes) := do
  let table ← state.document
  match table.get? key with
  | some text => return some (← decode key text)
  | none => return none

/-- Gives a key a value. -/
def put (state : FileState) (key : String) (value : Bytes) : Except Error FileState := do
  StorageKey.check key
  let table ← state.document
  return ofDocument (table.insert key (Base64.encode Base64.standard true value))

/-- Removes the value of a key; the file is not written if there is none. -/
def delete (state : FileState) (key : String) : Except Error FileState := do
  let table ← state.document
  return if table.contains key then ofDocument (table.erase key) else state

/-- The keys that begin with a text, in ascending order. -/
def list (state : FileState) (start : String) : Except Error (List String) := do
  let table ← state.document
  return table.keysFrom start

end FileState

end GatewaySession
