import GatewaySession.Proofs.Json.Object
import GatewaySession.Proofs.Table
import GatewaySession.Proofs.Text.Base64
import GatewaySession.Storage.Basic

/-!
# Storage that works

Storage in memory without errors laid over it, and a file that was written by the storage or is not
there yet, hold a table of values. Every operation succeeds on them, answers from the table, and
leaves storage that holds the table changed accordingly. A file is written and read as a whole, so
this is where the encodings of values, texts and documents come together.

## Main definitions

* `Storage.Holds` — working storage and the values in it

## Main results

* `FileState.document_ofDocument` — a written file is read as it was written
* `Storage.Holds.get`, `Storage.Holds.put`, `Storage.Holds.delete`, `Storage.Holds.list`
-/

namespace GatewaySession

namespace FileState

/-- **A written file** is read as it was written. -/
@[simp] theorem document_ofDocument (table : Table String) :
    (ofDocument table).document = .ok table := by
  rw [ofDocument, document, tableOf, Json.Document.parse?_renderLines, Option.bind_some,
    Json.Document.textTable?_entryOf, Table.ofList_entries, Option.getD_some]

end FileState

namespace Storage

/-- The texts of values. -/
def encoded (values : Table Bytes) : Table String :=
  values.map (Base64.encode Base64.standard true)

/-- Storage that works and the values in it. -/
inductive Holds : Storage → Table Bytes → Prop where
  /-- Memory, with no errors laid over it. -/
  | memory (values : Table Bytes) : Holds (.memory { values }) values
  /-- A file that is not there yet. -/
  | missing : Holds (.file .missing) .empty
  /-- A file that the storage wrote. -/
  | file (values : Table Bytes) : Holds (.file (.ofDocument (encoded values))) values

namespace Holds

variable {storage : Storage} {values : Table Bytes}

theorem decode_encode (key : String) (value : Bytes) :
    FileState.decode key (Base64.encode Base64.standard true value) = .ok value := by
  rw [FileState.decode, Base64.decode?_encode]

/-- Reading answers from the table. -/
theorem get (holds : Holds storage values) (key : String) :
    storage.get key = .ok (values.get? key) := by
  cases holds with
  | memory => rfl
  | missing => rfl
  | file =>
    rw [Storage.get, FileState.get, FileState.document_ofDocument]
    simp only [bind, Except.bind, encoded, Table.get?_map]
    cases values.get? key with
    | none => rfl
    | some value =>
      rw [Option.map_some]
      simp only [decode_encode]
      rfl

/-- Writing inserts into the table. -/
theorem put (holds : Holds storage values) {key : String} (admitted : StorageKey.check key = .ok ())
    (value : Bytes) :
    ∃ storage', storage.put key value = .ok storage' ∧
      Holds storage' (values.insert key value) := by
  cases holds with
  | memory =>
    refine ⟨_, ?_, .memory _⟩
    rw [Storage.put, MemoryStorage.put, admitted]
    rfl
  | missing =>
    refine ⟨_, ?_, .file _⟩
    rw [Storage.put, FileState.put, admitted]
    rfl
  | file =>
    refine ⟨_, ?_, .file _⟩
    rw [Storage.put, FileState.put, admitted]
    simp only [bind, Except.bind, FileState.document_ofDocument, encoded, Table.map_insert]
    rfl

/-- Removing erases from the table. -/
theorem delete (holds : Holds storage values) (key : String) :
    ∃ storage', storage.delete key = .ok storage' ∧ Holds storage' (values.erase key) := by
  cases holds with
  | memory => exact ⟨_, rfl, .memory _⟩
  | missing => exact ⟨_, rfl, .missing⟩
  | file =>
    rw [Storage.delete, FileState.delete]
    simp only [bind, Except.bind, FileState.document_ofDocument, Table.contains, encoded,
      Table.get?_map, Option.isSome_map]
    cases found : values.get? key with
    | none =>
      rw [Table.erase_of_get?_eq_none found]
      exact ⟨_, rfl, .file values⟩
    | some value =>
      refine ⟨_, ?_, .file (values.erase key)⟩
      simp only [Option.isSome_some, if_true, Table.map_erase, encoded]
      rfl

/-- Listing answers from the table. -/
theorem list (holds : Holds storage values) (start : String) :
    storage.list start = .ok (values.keysFrom start) := by
  cases holds with
  | memory => rfl
  | missing => rfl
  | file =>
    rw [Storage.list, FileState.list, FileState.document_ofDocument]
    simp only [bind, Except.bind, encoded, Table.keysFrom_map]
    rfl

end Holds

end Storage

end GatewaySession
