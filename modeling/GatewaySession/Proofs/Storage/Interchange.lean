import GatewaySession.Proofs.Storage.Content
import Mathlib.Data.List.Forall2

/-!
# One kind of storage for the other

A file and memory are two kinds of the same thing: whoever calls one of them cannot tell which. The
relation behind this is `FileState.Mirrors`: decoding the texts of the file one by one gives the
values in memory. Every call is answered alike on both sides of it and leads to two sides of it
again, refused writes included, so whole runs of calls agree however long they are.

What a file begins with is settled by its octets. Either they spell an object of texts, and if these
are base64 the file mirrors the values that they encode, the last of several members with one name
counting; or they do not, and the file mirrors nothing at all, like one that is not there.

A storage that is opened on a path keeps nothing but the path, so dropping it and opening another is
a call that changes nothing.

Texts that are not base64 are outside of the relation: memory has no value that cannot be read. For
these see `Storage.IsGarbled`.

## Main definitions

* `Json.Document.IsTexts`, `FileState.Spells` — objects of texts, and octets that spell one
* `FileState.Mirrors` — a file whose texts encode the given values
* `Storage.Call`, `Storage.Reply`, `Storage.performAll` — calls of storage, one after the other
* `Storage.Interchange` — what it means that one kind does for the other

## Main results

* `Json.Document.textTable?_eq_some_iff` — which documents have a table of texts, and which table
* `FileState.Mirrors.perform` — one call on both kinds
* `Storage.interchange` — files and memory are interchangeable
-/

namespace GatewaySession

/-! ### Objects of texts -/

namespace Json.Document

/-- Whether a document is an object whose members are the given texts, by name and in order. Names
may repeat. -/
def IsTexts (document : Document) (members : List (String × String)) : Prop :=
  ∃ written, document = .object written ∧
    List.Forall₂ (fun member text => textOfBody? member.1 = some text.1 ∧
      member.2.text? = some text.2) written members

/-- Reading one by one succeeds with what each of the items is read as. -/
theorem mapM_eq_some_iff {α β : Type} {read : α → Option β} {items : List α} {results : List β} :
    items.mapM read = some results ↔
      List.Forall₂ (fun item result => read item = some result) items results := by
  induction items generalizing results with
  | nil =>
    rw [List.forall₂_nil_left_iff, List.mapM_nil]
    exact ⟨fun h => (Option.some.inj h).symm, fun h => h ▸ rfl⟩
  | cons item items ih =>
    rw [List.forall₂_cons_left_iff, List.mapM_cons]
    simp only [Option.bind_eq_bind, Option.bind_eq_some_iff, ih]
    constructor
    · rintro ⟨result, first, rest, others, eq⟩
      exact ⟨result, rest, first, others, (Option.some.inj eq).symm⟩
    · rintro ⟨result, rest, first, others, rfl⟩
      exact ⟨result, first, rest, others, rfl⟩

/-- Names and texts are read one after the other, which is as good as reading both at once. -/
theorem named?_bind_eq_some_iff {written : List (Bytes × Document)}
    {members : List (String × String)} :
    ((named? written).bind fun named => named.mapM fun member =>
        member.2.text?.map fun text => (member.1, text)) = some members ↔
      List.Forall₂ (fun member text => textOfBody? member.1 = some text.1 ∧
        member.2.text? = some text.2) written members := by
  simp only [Option.bind_eq_some_iff, named?, mapM_eq_some_iff, Option.map_eq_some_iff]
  constructor
  · rintro ⟨named, names, texts⟩
    induction names generalizing members with
    | nil =>
      cases texts
      exact .nil
    | cons name _ ih =>
      obtain ⟨_, read, rfl⟩ := name
      rw [List.forall₂_cons_left_iff] at texts
      obtain ⟨_, rest, ⟨text, told, rfl⟩, others, rfl⟩ := texts
      exact .cons ⟨read, told⟩ (ih others)
  · intro both
    induction both with
    | nil => exact ⟨[], .nil, .nil⟩
    | @cons member text _ _ first _ ih =>
      obtain ⟨named, names, texts⟩ := ih
      exact ⟨(text.1, member.2) :: named, .cons ⟨text.1, first.1, rfl⟩ names,
        .cons ⟨text.2, first.2, rfl⟩ texts⟩

/-- **The table of texts** of a document is that of its members, if these are texts. -/
theorem textTable?_eq_some_iff {document : Document} {table : Table String} :
    document.textTable? = some table ↔
      ∃ members, document.IsTexts members ∧ table = Table.ofList members := by
  cases document with
  | object written =>
    unfold textTable?
    rw [Option.bind_eq_bind]
    constructor
    · intro read
      obtain ⟨named, names, texts⟩ := Option.bind_eq_some_iff.1 read
      obtain ⟨members, told, eq⟩ := Option.bind_eq_some_iff.1 texts
      refine ⟨members, ⟨written, rfl, named?_bind_eq_some_iff.1 ?_⟩, (Option.some.inj eq).symm⟩
      exact Option.bind_eq_some_iff.2 ⟨named, names, told⟩
    · rintro ⟨members, ⟨_, ⟨⟩, both⟩, rfl⟩
      obtain ⟨named, names, told⟩ := Option.bind_eq_some_iff.1 (named?_bind_eq_some_iff.2 both)
      exact Option.bind_eq_some_iff.2
        ⟨named, names, Option.bind_eq_some_iff.2 ⟨members, told, rfl⟩⟩
  | _ =>
    constructor
    · exact fun read => nomatch read
    · rintro ⟨_, ⟨_, eq, _⟩, _⟩
      exact nomatch eq

end Json.Document

namespace FileState

variable {state : FileState} {values : Table Bytes}

/-- Whether octets are the text of an object with the given texts as members, by name and in
order. -/
def Spells (contents : Bytes) (members : List (String × String)) : Prop :=
  ∃ document, Json.Document.parse? contents = some document ∧ document.IsTexts members

/-- Octets that spell texts count as their table. -/
theorem Spells.tableOf_eq {contents : Bytes} {members : List (String × String)}
    (spells : Spells contents members) : tableOf contents = Table.ofList members := by
  obtain ⟨document, parsed, texts⟩ := spells
  rw [tableOf, parsed, Option.bind_some,
    Json.Document.textTable?_eq_some_iff.2 ⟨members, texts, rfl⟩, Option.getD_some]

/-- Octets that spell no texts count as nothing. -/
theorem tableOf_eq_empty {contents : Bytes} (damaged : ∀ members, ¬Spells contents members) :
    tableOf contents = .empty := by
  have unread : (Json.Document.parse? contents).bind Json.Document.textTable? = none := by
    refine Option.eq_none_iff_forall_not_mem.2 fun table read => ?_
    obtain ⟨document, parsed, told⟩ := Option.bind_eq_some_iff.1 read
    obtain ⟨members, texts, -⟩ := Json.Document.textTable?_eq_some_iff.1 told
    exact damaged members ⟨document, parsed, texts⟩
  rw [tableOf, unread, Option.getD_none]

/-- **A written file** spells what was written. -/
theorem spells_ofDocument (table : Table String) :
    Spells (Utf8.encodeChars (Json.renderLines table)) table.entries := by
  refine ⟨_, Json.Document.parse?_renderLines table, _, rfl, ?_⟩
  rw [List.forall₂_map_left_iff, List.forall₂_same]
  intro entry _
  exact ⟨Json.textOfBody?_bodyOf _, Json.textOfBody?_bodyOf _⟩

/-! ### Files that mirror memory -/

/-- A file that can be read and whose texts encode the given values. -/
def Mirrors (state : FileState) (values : Table Bytes) : Prop :=
  ∃ texts, state.document = .ok texts ∧
    texts.map (Base64.decode? Base64.standard true) = values.map some

end FileState

namespace Storage

/-! ### Calls -/

/-- What is asked of storage. -/
inductive Call where
  /-- To give a key a value. -/
  | put (key : String) (value : Bytes)
  /-- For the value of a key. -/
  | get (key : String)
  /-- To remove the value of a key. -/
  | delete (key : String)
  /-- For the keys that begin with a text. -/
  | list (start : String)
  /-- To be dropped and opened on the same path again; memory, which has none, is kept. -/
  | reopen

/-- What storage answers. -/
inductive Reply where
  /-- It is done. -/
  | done
  /-- The value of the key, if it has one. -/
  | found (value : Option Bytes)
  /-- The keys, in order. -/
  | listed (keys : List String)
  deriving DecidableEq

/-- The answer to a call that changes storage, with the storage afterwards. What fails changes
nothing. -/
def settle (storage : Storage) : Except Error Storage → Except Error Reply × Storage
  | .ok after => (.ok .done, after)
  | .error error => (.error error, storage)

/-- The answer to a call, with the storage afterwards. -/
def perform (storage : Storage) : Call → Except Error Reply × Storage
  | .put key value => storage.settle (storage.put key value)
  | .get key => ((storage.get key).map .found, storage)
  | .delete key => storage.settle (storage.delete key)
  | .list start => ((storage.list start).map .listed, storage)
  | .reopen => (.ok .done, storage)

/-- The answers to calls that are made one after the other, with the storage at the end. -/
def performAll : List Call → Storage → List (Except Error Reply) × Storage
  | [], storage => ([], storage)
  | call :: calls, storage =>
    let answered := storage.perform call
    let rest := performAll calls answered.2
    (answered.1 :: rest.1, rest.2)

/-- Memory without errors laid over it, holding values by key; the last of several with one key
counts. -/
def loaded (entries : List (String × Bytes)) : Storage :=
  .memory { values := .ofList entries }

/-- Whether texts are the base64 of values, one by one and under the same keys. -/
def Encodes (members : List (String × String)) (entries : List (String × Bytes)) : Prop :=
  members.map (fun member => (member.1, Base64.decode? Base64.standard true member.2)) =
    entries.map fun entry => (entry.1, some entry.2)

end Storage

namespace FileState.Mirrors

variable {state : FileState} {values : Table Bytes}

/-- A file that is not there mirrors no values. -/
theorem missing : Mirrors .missing .empty := ⟨.empty, rfl, rfl⟩

/-- A file that spells no texts mirrors no values. -/
theorem damaged {contents : Bytes} (damaged : ∀ members, ¬Spells contents members) :
    Mirrors (.file contents) .empty :=
  ⟨.empty, congrArg Except.ok (tableOf_eq_empty damaged), rfl⟩

/-- A file that spells the texts of values mirrors their table. -/
theorem of_spells {contents : Bytes} {members : List (String × String)}
    {entries : List (String × Bytes)} (spells : Spells contents members)
    (encodes : Storage.Encodes members entries) :
    Mirrors (.file contents) (.ofList entries) := by
  refine ⟨.ofList members, congrArg Except.ok spells.tableOf_eq, ?_⟩
  rw [Table.map_ofList, Table.map_ofList, encodes]

/-- A file that is written mirrors the values whose texts are written. -/
theorem ofDocument {texts : Table String}
    (decoded : texts.map (Base64.decode? Base64.standard true) = values.map some) :
    Mirrors (.ofDocument texts) values :=
  ⟨texts, document_ofDocument texts, decoded⟩

/-- The value of a key is that of its text. -/
theorem get?_bind {texts : Table String}
    (decoded : texts.map (Base64.decode? Base64.standard true) = values.map some) (key : String) :
    (texts.get? key).map (Base64.decode? Base64.standard true) =
      (values.get? key).map some := by
  rw [← Table.get?_map, decoded, Table.get?_map]

/-- Reading a file that mirrors memory. -/
theorem get (mirrors : state.Mirrors values) (key : String) :
    state.get key = .ok (values.get? key) := by
  obtain ⟨texts, read, decoded⟩ := mirrors
  have same := get?_bind decoded key
  rw [get_of_document read]
  cases text : texts.get? key with
  | none =>
    rw [text] at same
    rw [Option.map_eq_none_iff.1 same.symm]
  | some text' =>
    rw [text, Option.map_some] at same
    obtain ⟨value, found, eq⟩ := Option.map_eq_some_iff.1 same.symm
    simp only [decode, ← eq, found]
    rfl

/-- Writing a file that mirrors memory. -/
theorem put (mirrors : state.Mirrors values) {key : String}
    (admitted : StorageKey.check key = .ok ()) (value : Bytes) :
    ∃ after, state.put key value = .ok after ∧ Mirrors after (values.insert key value) := by
  obtain ⟨texts, read, decoded⟩ := mirrors
  refine ⟨.ofDocument (texts.insert key (Base64.encode Base64.standard true value)), ?_,
    ofDocument ?_⟩
  · rw [FileState.put, admitted, read]
    rfl
  · rw [← Table.map_insert, ← Table.map_insert, decoded, Base64.decode?_encode]

/-- Removing from a file that mirrors memory. It is written only if there is something to remove,
and mirrors the same values if there is not. -/
theorem delete (mirrors : state.Mirrors values) (key : String) :
    ∃ after, state.delete key = .ok after ∧ Mirrors after (values.erase key) := by
  obtain ⟨texts, read, decoded⟩ := mirrors
  have same := get?_bind decoded key
  have deleted : state.delete key =
      .ok (if texts.contains key then .ofDocument (texts.erase key) else state) := by
    rw [FileState.delete, read]
    rfl
  cases found : texts.get? key with
  | none =>
    rw [found] at same
    refine ⟨state, by rw [deleted, Table.contains, found]; rfl, texts, read, ?_⟩
    rw [Table.erase_of_get?_eq_none (Option.map_eq_none_iff.1 same.symm), decoded]
  | some text =>
    refine ⟨.ofDocument (texts.erase key), by rw [deleted, Table.contains, found]; rfl,
      ofDocument ?_⟩
    rw [← Table.map_erase, ← Table.map_erase, decoded]

/-- Listing a file that mirrors memory. -/
theorem list (mirrors : state.Mirrors values) (start : String) :
    state.list start = .ok (values.keysFrom start) := by
  obtain ⟨texts, read, decoded⟩ := mirrors
  rw [FileState.list, read, ← Table.keysFrom_map some values, ← decoded, Table.keysFrom_map]
  rfl

/-- **One call** on a file and on the memory that it mirrors is answered alike, and afterwards the
one mirrors the other again. -/
theorem perform (mirrors : state.Mirrors values) (call : Storage.Call) :
    ∃ reply after values', (Storage.file state).perform call = (reply, .file after) ∧
      (Storage.memory { values }).perform call = (reply, .memory { values := values' }) ∧
      after.Mirrors values' := by
  cases call with
  | put key value =>
    cases admitted : StorageKey.check key with
    | error error =>
      -- A key that is not admitted is refused before anything is read.
      refine ⟨.error error, state, values, ?_, ?_, mirrors⟩
      · rw [Storage.perform, Storage.put, FileState.put, admitted]
        rfl
      · rw [Storage.perform, Storage.put, MemoryStorage.put, admitted]
        rfl
    | ok _ =>
      obtain ⟨after, written, again⟩ := mirrors.put admitted value
      refine ⟨.ok .done, after, values.insert key value, ?_, ?_, again⟩
      · rw [Storage.perform, Storage.put, written]
        rfl
      · rw [Storage.perform, Storage.put, MemoryStorage.put, admitted]
        rfl
  | get key =>
    refine ⟨.ok (.found (values.get? key)), state, values, ?_, rfl, mirrors⟩
    rw [Storage.perform, Storage.get, mirrors.get]
    rfl
  | delete key =>
    obtain ⟨after, removed, again⟩ := mirrors.delete key
    refine ⟨.ok .done, after, values.erase key, ?_, rfl, again⟩
    rw [Storage.perform, Storage.delete, removed]
    rfl
  | list start =>
    refine ⟨.ok (.listed (values.keysFrom start)), state, values, ?_, rfl, mirrors⟩
    rw [Storage.perform, Storage.list, mirrors.list]
    rfl
  | reopen => exact ⟨.ok .done, state, values, rfl, rfl, mirrors⟩

/-- **A run** of calls on a file and on the memory that it mirrors is answered alike. -/
theorem performAll (mirrors : state.Mirrors values) (calls : List Storage.Call) :
    (Storage.performAll calls (.file state)).1 =
      (Storage.performAll calls (.memory { values })).1 := by
  induction calls generalizing state values with
  | nil => rfl
  | cons call calls ih =>
    obtain ⟨reply, after, values', filed, kept, again⟩ := mirrors.perform call
    rw [Storage.performAll, Storage.performAll, filed, kept]
    exact congrArg (reply :: ·) (ih again)

end FileState.Mirrors

namespace Storage

/-! ### Interchangeable kinds -/

/-- What it means that files and memory are interchangeable. -/
structure Interchange : Prop where
  /-- A file that is not there does for empty memory. -/
  missing : ∀ calls,
    (performAll calls (.file .missing)).1 = (performAll calls (loaded [])).1
  /-- A file of base64 texts does for memory that is loaded with what these encode. -/
  documents : ∀ contents members entries, FileState.Spells contents members →
    Encodes members entries → ∀ calls,
      (performAll calls (.file (.file contents))).1 = (performAll calls (loaded entries)).1
  /-- A file that holds no object of texts does for empty memory. -/
  damaged : ∀ contents, (∀ members, ¬FileState.Spells contents members) → ∀ calls,
    (performAll calls (.file (.file contents))).1 = (performAll calls (loaded [])).1
  /-- A file that was written holds an object of texts, whatever there was before. -/
  mended : ∀ state key value after, (Storage.file state).put key value = .ok after →
    ∃ contents members, after = .file (.file contents) ∧ FileState.Spells contents members
  /-- Either kind lists keys in the order of their octets. -/
  ordered : ∀ storage start keys, Storage.list start storage = .ok keys →
    keys.Pairwise fun a b => Utf8.encode a < Utf8.encode b

/-- The keys of a table ascend by their octets, those of them that are listed too. -/
theorem pairwise_keysFrom {β : Type} (table : Table β) (start : String) :
    (table.keysFrom start).Pairwise fun a b => Utf8.encode a < Utf8.encode b := by
  have ascending : table.keys.Pairwise fun a b => Utf8.encode a < Utf8.encode b :=
    List.pairwise_map.2 (table.ascending.imp Utf8.encode_lt)
  exact ascending.filter _

/-- What is listed are keys of a table. -/
theorem pairwise_list {storage : Storage} {start : String} {keys : List String}
    (listed : storage.list start = .ok keys) :
    keys.Pairwise fun a b => Utf8.encode a < Utf8.encode b := by
  cases storage with
  | memory memory =>
    cases listed
    exact pairwise_keysFrom memory.values start
  | file state =>
    rw [Storage.list, FileState.list] at listed
    cases read : state.document with
    | error error =>
      rw [read] at listed
      cases listed
    | ok table =>
      rw [read] at listed
      cases listed
      exact pairwise_keysFrom table start

/-- A file after it was written. -/
theorem exists_spells_of_put {state : FileState} {key : String} {value : Bytes} {after : Storage}
    (written : (Storage.file state).put key value = .ok after) :
    ∃ contents members, after = .file (.file contents) ∧ FileState.Spells contents members := by
  rw [Storage.put, FileState.put] at written
  cases admitted : StorageKey.check key with
  | error error =>
    rw [admitted] at written
    cases written
  | ok _ =>
    cases read : state.document with
    | error error =>
      rw [admitted, read] at written
      cases written
    | ok table =>
      rw [admitted, read] at written
      cases written
      exact ⟨_, _, rfl, FileState.spells_ofDocument _⟩

/-- **Files and memory are interchangeable.** -/
theorem interchange : Interchange where
  missing := FileState.Mirrors.missing.performAll
  documents _ _ _ spells encodes := (FileState.Mirrors.of_spells spells encodes).performAll
  damaged _ damaged := (FileState.Mirrors.damaged damaged).performAll
  mended _ _ _ _ := exists_spells_of_put
  ordered _ _ _ := pairwise_list

/-- A key that a file has twice has its second value. -/
example : (performAll [.reopen, .get "a"] (.file (.file
    (Utf8.encode "\x7b\"a\": \"AQ==\", \"\\u0061\": \"Ag==\"\x7d")))).1 =
      [.ok .done, .ok (.found (some [2]))] := by
  cbv

end Storage

end GatewaySession
