import GatewaySession.Proofs.Storage.Content
import Mathlib.Data.List.Sort

/-!
# What the operations of storage leave alone

Writing and removing concern one key, whether they succeed or fail, and whatever else the storage
holds: values that do not decode, a file that is replaced because it was no document, errors laid
over memory. Every other key is read as before and is listed as before.

Two storages are akin if they are of one kind and the same operations fail on them. What they answer
then depends on the keys in question alone, so two runs can be compared on storages that agree
there.

## Main definitions

* `Storage.IsAkin` — one kind, and the same errors
* `Storage.Has` — the keys that are listed
* `Storage.Spares` — what a change of one key leaves alone

## Main results

* `Storage.IsAkin.put`, `Storage.IsAkin.delete` — writing and removing in two storages that are akin
* `Storage.IsAkin.list_eq` — listing in two storages with the same keys there
-/

namespace GatewaySession

namespace Table

/-- The keys that are listed. -/
theorem mem_keysFrom_iff {β : Type} {table : Table β} {start name : String} :
    name ∈ table.keysFrom start ↔
      start.toList.isPrefixOf name.toList = true ∧ (table.get? name).isSome := by
  constructor
  · intro mem
    obtain ⟨listed, begins⟩ := List.mem_filter.1 mem
    refine ⟨begins, ?_⟩
    by_contra absent
    obtain ⟨entry, stored, rfl⟩ := List.mem_map.1 listed
    have kept := congrArg entries (erase_of_get?_eq_none (Option.not_isSome_iff_eq_none.1 absent))
    exact absurd (List.filter_eq_self.1 kept entry stored) (by simp)
  · rintro ⟨begins, present⟩
    obtain ⟨value, found⟩ := Option.isSome_iff_exists.1 present
    exact mem_keysFrom found begins

/-- Keys are listed in ascending order, so it matters only which there are. -/
theorem keysFrom_eq {β γ : Type} {table : Table β} {other : Table γ} {start : String}
    (same : ∀ name, start.toList.isPrefixOf name.toList = true →
      ((table.get? name).isSome ↔ (other.get? name).isSome)) :
    table.keysFrom start = other.keysFrom start := by
  have ascending {δ : Type} (table : Table δ) : (table.keysFrom start).Pairwise (· < ·) :=
    (List.pairwise_map.2 table.ascending).filter _
  have : Std.Irrefl (α := String) (· < ·) := ⟨String.lt_irrefl⟩
  have : Std.Antisymm (α := String) (· < ·) := ⟨fun _ _ less more =>
    absurd (String.lt_trans less more) (String.lt_irrefl _)⟩
  refine List.Pairwise.eq_of_mem_iff (ascending table) (ascending other) fun {name} => ?_
  rw [mem_keysFrom_iff, mem_keysFrom_iff]
  exact and_congr_right (same name)

end Table

namespace Storage

/-- Whether two storages are of one kind and the same operations fail on them. -/
def IsAkin : Storage → Storage → Prop
  | memory first, memory second => first.getError = second.getError ∧
      first.putError = second.putError ∧ first.deleteError = second.deleteError
  | file first, file second => first = .directory ↔ second = .directory
  | _, _ => False

/-- Whether a key has a value, one that can be read or not. -/
def Has : Storage → String → Prop
  | memory storage, name => (storage.values.get? name).isSome
  | file state, name => ∃ table, state.document = .ok table ∧ (table.get? name).isSome

/-- What a change of one key leaves alone. -/
structure Spares (before : Storage) (name : String) (after : Storage) : Prop where
  /-- The same operations fail as before. -/
  akin : before.IsAkin after
  /-- Other keys are read as before. -/
  get : ∀ other, other ≠ name → after.get other = before.get other
  /-- Other keys are there or not as before. -/
  has : ∀ other, other ≠ name → (after.Has other ↔ before.Has other)

/-- Whether removing never fails. -/
def Removes : Storage → Prop
  | memory storage => storage.deleteError = none
  | file state => state ≠ .directory

variable {storage other : Storage} {name : String}

/-- Storage that works can be used. -/
theorem Holds.isUsable {values : Table Bytes} (holds : storage.Holds values) :
    storage.IsUsable := by
  cases holds with
  | memory => exact ⟨rfl, rfl, rfl⟩
  | missing => exact nofun
  | file => exact nofun

theorem IsUsable.removes (usable : storage.IsUsable) : storage.Removes := by
  cases storage with
  | memory _ => exact usable.2.2
  | file _ => exact usable

namespace IsAkin

theorem refl (storage : Storage) : storage.IsAkin storage := by
  cases storage with
  | memory _ => exact ⟨rfl, rfl, rfl⟩
  | file _ => exact Iff.rfl

theorem symm (akin : storage.IsAkin other) : other.IsAkin storage := by
  cases storage <;> cases other
  · exact ⟨akin.1.symm, akin.2.1.symm, akin.2.2.symm⟩
  · exact akin.elim
  · exact akin.elim
  · exact Iff.symm akin

theorem trans {third : Storage} (akin : storage.IsAkin other) (next : other.IsAkin third) :
    storage.IsAkin third := by
  cases storage <;> cases other <;> cases third <;> try first | exact akin.elim | exact next.elim
  · exact ⟨akin.1.trans next.1, akin.2.1.trans next.2.1, akin.2.2.trans next.2.2⟩
  · exact Iff.trans akin next

theorem removes (akin : storage.IsAkin other) (removes : storage.Removes) : other.Removes := by
  cases storage <;> cases other
  · exact akin.2.2.symm.trans removes
  · exact akin.elim
  · exact akin.elim
  · exact fun directory => removes (Iff.mpr akin directory)

theorem usable (akin : storage.IsAkin other) (usable : storage.IsUsable) : other.IsUsable := by
  cases storage <;> cases other
  · exact ⟨akin.1.symm.trans usable.1, akin.2.1.symm.trans usable.2.1,
      akin.2.2.symm.trans usable.2.2⟩
  · exact akin.elim
  · exact akin.elim
  · exact fun directory => usable (Iff.mpr akin directory)

end IsAkin

/-! ### Tables of values and tables of texts -/

theorem has_file {state : FileState} {table : Table String} (read : state.document = .ok table)
    (name : String) : (file state).Has name ↔ (table.get? name).isSome := by
  constructor
  · rintro ⟨_, read', present⟩
    rw [read] at read'
    cases read'
    exact present
  · exact fun present => ⟨table, read, present⟩

/-- Memory with other values spares every key whose value is the same. -/
theorem spares_memory {memory : MemoryStorage} {values : Table Bytes} {name : String}
    (same : ∀ other, other ≠ name → values.get? other = memory.values.get? other) :
    (Storage.memory memory).Spares name (.memory { memory with values }) where
  akin := ⟨rfl, rfl, rfl⟩
  get other ne := by
    rw [Storage.get, Storage.get, MemoryStorage.get, MemoryStorage.get, same other ne]
  has other ne := by
    show (values.get? other).isSome ↔ _
    rw [same other ne]
    rfl

/-- A file with another document spares every key whose text is the same. -/
theorem spares_file {state after : FileState} {table texts : Table String} {name : String}
    (read : state.document = .ok table) (read' : after.document = .ok texts)
    (same : ∀ other, other ≠ name → texts.get? other = table.get? other) :
    (Storage.file state).Spares name (.file after) where
  akin := by
    refine iff_of_false ?_ ?_
    · rintro rfl
      cases read
    · rintro rfl
      cases read'
  get other ne := FileState.get_congr read read' (same other ne)
  has other ne := by
    rw [has_file read', has_file read, same other ne]

/-- What is read of a key that has no value: nothing, or an error. -/
theorem get_of_not_has (absent : ¬storage.Has name) (blob : Bytes) :
    storage.get name ≠ .ok (some blob) := by
  cases storage with
  | memory memory =>
    dsimp only [Storage.get, MemoryStorage.get]
    cases memory.getError with
    | some error => exact nofun
    | none =>
      rw [Option.not_isSome_iff_eq_none.1 absent]
      exact nofun
  | file state =>
    intro found
    rw [Storage.get, FileState.get] at found
    cases read : state.document with
    | error error =>
      rw [read] at found
      cases found
    | ok table =>
      rw [has_file read, Bool.not_eq_true, Option.isSome_eq_false_iff, Option.isNone_iff_eq_none]
        at absent
      rw [read] at found
      simp only [bind, Except.bind, absent] at found
      cases found

/-- Storage whose operations work has nothing to tell of a key that has no value. -/
theorem IsUsable.get_of_not_has (usable : storage.IsUsable) (absent : ¬storage.Has name) :
    storage.get name = .ok none := by
  obtain ⟨⟨contents, text, rfl, stored, -⟩, -⟩ | ⟨-, value, found⟩ := usable.get_cases name
  · have read : (FileState.file contents).document = .ok (FileState.tableOf contents) := rfl
    rw [has_file read, stored] at absent
    exact absurd rfl absent
  · cases value with
    | none => exact found
    | some blob => exact absurd found (Storage.get_of_not_has absent blob)

namespace IsAkin

/-- Two files that are akin are both directories, or both have documents. -/
theorem documents {first second : FileState} (akin : (file first).IsAkin (file second)) :
    (first = .directory ∧ second = .directory) ∨
      ∃ table table', first.document = .ok table ∧ second.document = .ok table' := by
  by_cases directory : first = .directory
  · exact .inl ⟨directory, Iff.mp akin directory⟩
  · obtain ⟨table, read⟩ := FileState.exists_document directory
    obtain ⟨table', read'⟩ := FileState.exists_document fun eq => directory (Iff.mpr akin eq)
    exact .inr ⟨table, table', read, read'⟩

/-- Two storages that are akin answer alike for a key that neither has. -/
theorem get_eq (akin : storage.IsAkin other) (absent : ¬storage.Has name)
    (absent' : ¬other.Has name) : storage.get name = other.get name := by
  cases storage with
  | memory first => cases other with
    | file _ => exact akin.elim
    | memory second =>
      replace absent := Option.not_isSome_iff_eq_none.1 absent
      replace absent' := Option.not_isSome_iff_eq_none.1 absent'
      rw [Storage.get, Storage.get, MemoryStorage.get, MemoryStorage.get, akin.1, absent, absent']
  | file first => cases other with
    | memory _ => exact akin.elim
    | file second =>
      obtain ⟨rfl, rfl⟩ | ⟨table, table', read, read'⟩ := akin.documents
      · rfl
      · rw [has_file read, Bool.not_eq_true, Option.isSome_eq_false_iff,
          Option.isNone_iff_eq_none] at absent
        rw [has_file read', Bool.not_eq_true, Option.isSome_eq_false_iff,
          Option.isNone_iff_eq_none] at absent'
        exact FileState.get_congr read' read (absent.trans absent'.symm)

/-- **Writing** under a key in two storages that are akin. Where it succeeds, each value is read as
it was written, unless reading fails in both. -/
theorem put (akin : storage.IsAkin other) (name : String) (value value' : Bytes) :
    (∃ error, storage.put name value = .error error ∧ other.put name value' = .error error) ∨
      ∃ after after', storage.put name value = .ok after ∧ other.put name value' = .ok after' ∧
        storage.Spares name after ∧ other.Spares name after' ∧ after.Has name ∧ after'.Has name ∧
        (after.get name = .ok (some value) ∧ after'.get name = .ok (some value') ∨
          ∃ error, after.get name = .error error ∧ after'.get name = .error error) := by
  cases storage with
  | memory first => cases other with
    | file _ => exact akin.elim
    | memory second =>
      obtain ⟨values, readError, putError, deleteError⟩ := first
      obtain ⟨values', _, _, _⟩ := second
      obtain ⟨rfl, rfl, rfl⟩ := akin
      rw [Storage.put, Storage.put, MemoryStorage.put, MemoryStorage.put]
      cases MemoryStorage.overlay putError with
      | error error => exact .inl ⟨error, rfl, rfl⟩
      | ok _ => cases StorageKey.check name with
        | error error => exact .inl ⟨error, rfl, rfl⟩
        | ok _ =>
          refine .inr ⟨_, _, rfl, rfl,
            spares_memory fun _ ne => Table.get?_insert_of_ne _ ne _,
            spares_memory fun _ ne => Table.get?_insert_of_ne _ ne _, ?_, ?_, ?_⟩
          · rw [Has, Table.get?_insert_self, Option.isSome_some]
          · rw [Has, Table.get?_insert_self, Option.isSome_some]
          · rw [Storage.get, Storage.get, MemoryStorage.get, MemoryStorage.get,
              Table.get?_insert_self, Table.get?_insert_self]
            cases MemoryStorage.overlay readError with
            | error error => exact .inr ⟨error, rfl, rfl⟩
            | ok _ => exact .inl ⟨rfl, rfl⟩
  | file first => cases other with
    | memory _ => exact akin.elim
    | file second =>
      rw [Storage.put, Storage.put, FileState.put, FileState.put]
      cases StorageKey.check name with
      | error error => exact .inl ⟨error, rfl, rfl⟩
      | ok _ =>
        obtain ⟨rfl, rfl⟩ | ⟨table, table', read, read'⟩ := akin.documents
        · exact .inl ⟨_, rfl, rfl⟩
        · have written (texts : Table String) (value : Bytes) := FileState.document_ofDocument
            (texts.insert name (Base64.encode Base64.standard true value))
          have found (texts : Table String) (value : Bytes) :
              (Storage.file (.ofDocument (texts.insert name
                (Base64.encode Base64.standard true value)))).get name = .ok (some value) := by
            rw [Storage.get, FileState.get_of_document (written texts value),
              Table.get?_insert_self]
            simp only [Holds.decode_encode]
            rfl
          rw [read, read']
          refine .inr ⟨_, _, rfl, rfl,
            spares_file read (written table value) fun _ ne => Table.get?_insert_of_ne _ ne _,
            spares_file read' (written table' value') fun _ ne => Table.get?_insert_of_ne _ ne _,
            ?_, ?_, .inl ⟨found table value, found table' value'⟩⟩
          · rw [has_file (written table value), Table.get?_insert_self, Option.isSome_some]
          · rw [has_file (written table' value'), Table.get?_insert_self, Option.isSome_some]

end IsAkin

/-- **Removing** a key fails, or the key has no value any more. -/
theorem delete_cases (storage : Storage) (name : String) :
    (¬storage.Removes ∧ ∃ error, storage.delete name = .error error) ∨
      (storage.Removes ∧ ∃ after, storage.delete name = .ok after ∧ storage.Spares name after ∧
        ¬after.Has name) := by
  cases storage with
  | memory memory =>
    cases laid : memory.deleteError with
    | some error =>
      have refuses : ¬(Storage.memory memory).Removes := by
        rw [Removes, laid]
        exact Option.some_ne_none _
      refine .inl ⟨refuses, MemoryStorage.reported error, ?_⟩
      rw [Storage.delete, MemoryStorage.delete, laid]
      rfl
    | none =>
      refine .inr ⟨laid, .memory { memory with values := memory.values.erase name }, ?_,
        spares_memory fun _ ne => Table.get?_erase_of_ne _ ne, ?_⟩
      · rw [Storage.delete, MemoryStorage.delete, laid]
        rfl
      · rw [Has, Table.get?_erase_self]
        exact Bool.false_ne_true
  | file state =>
    by_cases directory : state = .directory
    · subst directory
      exact .inl ⟨fun removes => removes rfl, _, rfl⟩
    obtain ⟨table, read⟩ := FileState.exists_document directory
    have deleted : FileState.delete state name =
        .ok (if table.contains name then .ofDocument (table.erase name) else state) := by
      rw [FileState.delete, read]
      rfl
    rw [Storage.delete, deleted]
    refine .inr ⟨directory, _, rfl, ?_⟩
    cases found : table.get? name with
    | none =>
      rw [Table.contains, found]
      refine ⟨spares_file read read fun _ _ => rfl, ?_⟩
      show ¬(Storage.file state).Has name
      rw [has_file read, found]
      exact Bool.false_ne_true
    | some text =>
      have written := FileState.document_ofDocument (table.erase name)
      rw [Table.contains, found]
      refine ⟨spares_file read written fun _ ne => Table.get?_erase_of_ne _ ne, ?_⟩
      show ¬(Storage.file (.ofDocument (table.erase name))).Has name
      rw [has_file written, Table.get?_erase_self]
      exact Bool.false_ne_true

namespace IsAkin

/-- **Removing** a key in two storages that are akin. -/
theorem delete (akin : storage.IsAkin other) (name : String) :
    (∃ error, storage.delete name = .error error ∧ other.delete name = .error error) ∨
      ∃ after after', storage.delete name = .ok after ∧ other.delete name = .ok after' ∧
        storage.Spares name after ∧ other.Spares name after' ∧ ¬after.Has name ∧
        ¬after'.Has name := by
  obtain ⟨fails, error, failed⟩ | ⟨works, after, deleted, spares, gone⟩ :=
    storage.delete_cases name
  · refine .inl ⟨error, failed, ?_⟩
    cases storage with
    | memory first => cases other with
      | file _ => exact akin.elim
      | memory second =>
        rw [Storage.delete, MemoryStorage.delete] at failed ⊢
        rw [← akin.2.2]
        cases laid : first.deleteError with
        | none => exact absurd laid fails
        | some _ =>
          rw [laid] at failed
          exact failed
    | file first => cases other with
      | memory _ => exact akin.elim
      | file second =>
        have directory : first = .directory := not_not.1 fails
        rw [Iff.mp akin directory]
        rw [directory] at failed
        exact failed
  · obtain ⟨fails, -⟩ | ⟨-, after', deleted', spares', gone'⟩ := other.delete_cases name
    · exact absurd (akin.removes works) fails
    · exact .inr ⟨after, after', deleted, deleted', spares, spares', gone, gone'⟩

/-- **Listing** gives the same keys where two storages that are akin have the same. -/
theorem list_eq (akin : storage.IsAkin other) {start : String}
    (same : ∀ name, start.toList.isPrefixOf name.toList = true →
      (storage.Has name ↔ other.Has name)) : storage.list start = other.list start := by
  cases storage with
  | memory first => cases other with
    | file _ => exact akin.elim
    | memory second => exact congrArg Except.ok (Table.keysFrom_eq same)
  | file first => cases other with
    | memory _ => exact akin.elim
    | file second =>
      obtain ⟨rfl, rfl⟩ | ⟨table, table', read, read'⟩ := akin.documents
      · rfl
      · rw [Storage.list, Storage.list, FileState.list, FileState.list, read, read']
        refine congrArg Except.ok (Table.keysFrom_eq fun name begins => ?_)
        rw [← has_file read, ← has_file read']
        exact same name begins

end IsAkin

/-- What is listed are the keys that there are, as far as they begin with the text. -/
theorem mem_list_iff {start : String} {names : List String}
    (listed : storage.list start = .ok names) (name : String) :
    name ∈ names ↔ start.toList.isPrefixOf name.toList = true ∧ storage.Has name := by
  cases storage with
  | memory memory =>
    cases listed
    exact Table.mem_keysFrom_iff
  | file state =>
    rw [Storage.list, FileState.list] at listed
    cases read : state.document with
    | error error =>
      rw [read] at listed
      cases listed
    | ok table =>
      rw [read] at listed
      cases listed
      rw [has_file read]
      exact Table.mem_keysFrom_iff

end Storage

end GatewaySession
