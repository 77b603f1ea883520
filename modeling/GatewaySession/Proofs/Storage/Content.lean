import GatewaySession.Proofs.Storage.Working

/-!
# Storage with any content

Storage can be used unless an error is laid over memory or a directory stands in the place of the
file. Nothing is assumed of what it holds: memory may hold any octets under any keys, and a file may
be any octets at all. A file that is no document counts as empty, so what remains of a damaged file
is a table of texts, some of which encode no value.

The content is described key by key. A key has a value or none, or it is garbled: its text encodes
no value. Writing and removing settle the one key they are about, garbled or not, and leave what is
found under every other key as it was.

## Main definitions

* `Storage.IsUsable` — storage whose operations work
* `Storage.IsGarbled` — a key with a text that encodes no value
* `Storage.Sets` — a change of one key

## Main results

* `Storage.IsUsable.get_cases` — a key is garbled, or it has a value or none
* `Storage.IsUsable.put`, `Storage.IsUsable.delete`, `Storage.IsUsable.list` — the other operations
-/

namespace GatewaySession

namespace FileState

variable {state : FileState}

/-- What is at the path can be read unless it is a directory. -/
theorem exists_document (readable : state ≠ .directory) : ∃ table, state.document = .ok table := by
  cases state with
  | missing => exact ⟨_, rfl⟩
  | file contents => exact ⟨_, rfl⟩
  | directory => exact absurd rfl readable

theorem get_of_document {table : Table String} (read : state.document = .ok table) (key : String) :
    state.get key = match table.get? key with
      | some text => (decode key text).map some
      | none => .ok none := by
  rw [get, read]
  simp only [bind, Except.bind, pure, Except.pure]
  cases table.get? key with
  | none => rfl
  | some text => cases decode key text <;> rfl

/-- What is found in two files depends on their texts alone. -/
theorem get_congr {other : FileState} {table table' : Table String}
    (read : state.document = .ok table) (read' : other.document = .ok table') {key : String}
    (same : table'.get? key = table.get? key) : other.get key = state.get key := by
  rw [get_of_document read, get_of_document read', same]

end FileState

namespace Storage

variable {storage : Storage}

/-- Storage whose operations work: no error is laid over memory, and what is at the path of the
file is no directory. -/
def IsUsable : Storage → Prop
  | memory storage =>
    storage.getError = none ∧ storage.putError = none ∧ storage.deleteError = none
  | file state => state ≠ .directory

/-- A key whose text in the file encodes no value. -/
def IsGarbled (storage : Storage) (key : String) : Prop :=
  ∃ contents text, storage = .file (.file contents) ∧
    (FileState.tableOf contents).get? key = some text ∧
    Base64.decode? Base64.standard true text = none

/-- A change of storage that gives one key a value or none, and concerns no other key. -/
structure Sets (before : Storage) (key : String) (value : Option Bytes) (after : Storage) :
    Prop where
  /-- It can be used afterwards. -/
  usable : after.IsUsable
  /-- The key is as it was to be. -/
  get_self : after.get key = .ok value
  /-- Every other key is as it was. -/
  get_of_ne : ∀ other, other ≠ key → after.get other = before.get other

namespace IsUsable

/-- **Reading** a key that is not garbled finds a value or none. -/
theorem get_cases (usable : storage.IsUsable) (key : String) :
    (storage.IsGarbled key ∧
        storage.get key = .error (.integrity s!"invalid base64 for {key}: <base64>")) ∨
      (¬storage.IsGarbled key ∧ ∃ value, storage.get key = .ok value) := by
  cases storage with
  | memory memory =>
    refine .inr ⟨fun ⟨_, _, eq, _⟩ => (nomatch eq), memory.values.get? key, ?_⟩
    dsimp only [Storage.get, MemoryStorage.get]
    rw [usable.1]
    rfl
  | file state =>
    cases state with
    | missing => exact .inr ⟨fun ⟨_, _, eq, _⟩ => (nomatch eq), none, rfl⟩
    | directory => exact absurd rfl usable
    | file contents =>
      have found := FileState.get_of_document
        (show (FileState.file contents).document = .ok (FileState.tableOf contents) from rfl) key
      dsimp only [Storage.get]
      rw [found]
      cases text : (FileState.tableOf contents).get? key with
      | none =>
        refine .inr ⟨fun ⟨_, _, eq, stored, _⟩ => ?_, none, rfl⟩
        cases eq
        rw [text] at stored
        cases stored
      | some text' =>
        simp only [FileState.decode]
        cases decoded : Base64.decode? Base64.standard true text' with
        | none => exact .inl ⟨⟨contents, text', rfl, text, decoded⟩, rfl⟩
        | some value =>
          refine .inr ⟨fun ⟨_, _, eq, stored, garbled⟩ => ?_, some value, rfl⟩
          cases eq
          cases text.symm.trans stored
          rw [decoded] at garbled
          cases garbled

/-- **Writing** gives an admitted key its value. -/
theorem put (usable : storage.IsUsable) {key : String} (admitted : StorageKey.check key = .ok ())
    (value : Bytes) :
    ∃ after, storage.put key value = .ok after ∧ storage.Sets key (some value) after := by
  cases storage with
  | memory memory =>
    refine ⟨.memory { memory with values := memory.values.insert key value }, ?_, usable, ?_, ?_⟩
    · rw [Storage.put, MemoryStorage.put, usable.2.1, admitted]
      rfl
    · rw [Storage.get, MemoryStorage.get, usable.1]
      exact congrArg Except.ok (Table.get?_insert_self _ _ _)
    · intro other ne
      rw [Storage.get, Storage.get, MemoryStorage.get, MemoryStorage.get, usable.1]
      exact congrArg Except.ok (Table.get?_insert_of_ne _ ne _)
  | file state =>
    obtain ⟨table, read⟩ := FileState.exists_document usable
    have written := FileState.document_ofDocument
      (table.insert key (Base64.encode Base64.standard true value))
    refine ⟨.file (.ofDocument (table.insert key (Base64.encode Base64.standard true value))), ?_,
      FileState.noConfusion, ?_, ?_⟩
    · rw [Storage.put, FileState.put, admitted, read]
      rfl
    · rw [Storage.get, FileState.get_of_document written, Table.get?_insert_self]
      simp only [Holds.decode_encode]
      rfl
    · intro other ne
      exact FileState.get_congr read written (Table.get?_insert_of_ne _ ne _)

/-- **Removing** leaves a key without a value. -/
theorem delete (usable : storage.IsUsable) (key : String) :
    ∃ after, storage.delete key = .ok after ∧ storage.Sets key none after := by
  cases storage with
  | memory memory =>
    refine ⟨.memory { memory with values := memory.values.erase key }, ?_, usable, ?_, ?_⟩
    · rw [Storage.delete, MemoryStorage.delete, usable.2.2]
      rfl
    · rw [Storage.get, MemoryStorage.get, usable.1]
      exact congrArg Except.ok (Table.get?_erase_self _ _)
    · intro other ne
      rw [Storage.get, Storage.get, MemoryStorage.get, MemoryStorage.get, usable.1]
      exact congrArg Except.ok (Table.get?_erase_of_ne _ ne)
  | file state =>
    obtain ⟨table, read⟩ := FileState.exists_document usable
    have deleted : FileState.delete state key =
        .ok (if table.contains key then .ofDocument (table.erase key) else state) := by
      rw [FileState.delete, read]
      rfl
    cases found : table.get? key with
    | none =>
      -- The file is not written: there is nothing to remove.
      refine ⟨.file state, ?_, usable, ?_, fun _ _ => rfl⟩
      · rw [Storage.delete, deleted, Table.contains, found]
        rfl
      · rw [Storage.get, FileState.get_of_document read, found]
    | some text =>
      have written := FileState.document_ofDocument (table.erase key)
      refine ⟨.file (.ofDocument (table.erase key)), ?_, FileState.noConfusion, ?_, ?_⟩
      · rw [Storage.delete, deleted, Table.contains, found]
        rfl
      · rw [Storage.get, FileState.get_of_document written, Table.get?_erase_self]
      · intro other ne
        exact FileState.get_congr read written (Table.get?_erase_of_ne _ ne)

/-- **Listing** gives keys that begin with the text, among them each that does not read as none. -/
theorem list (usable : storage.IsUsable) (start : String) :
    ∃ keys, storage.list start = .ok keys ∧
      (∀ key ∈ keys, start.toList.isPrefixOf key.toList = true) ∧
      ∀ key, start.toList.isPrefixOf key.toList = true → storage.get key ≠ .ok none →
        key ∈ keys := by
  cases storage with
  | memory memory =>
    refine ⟨memory.values.keysFrom start, rfl, fun key mem => (List.mem_filter.1 mem).2, ?_⟩
    intro key begins found
    cases stored : memory.values.get? key with
    | none =>
      rw [Storage.get, MemoryStorage.get, usable.1, stored] at found
      exact absurd rfl found
    | some value => exact Table.mem_keysFrom stored begins
  | file state =>
    obtain ⟨table, read⟩ := FileState.exists_document usable
    refine ⟨table.keysFrom start, ?_, fun key mem => (List.mem_filter.1 mem).2, ?_⟩
    · rw [Storage.list, FileState.list, read]
      rfl
    · intro key begins found
      cases stored : table.get? key with
      | none =>
        rw [Storage.get, FileState.get_of_document read, stored] at found
        exact absurd rfl found
      | some text => exact Table.mem_keysFrom stored begins

end IsUsable

end Storage

end GatewaySession
