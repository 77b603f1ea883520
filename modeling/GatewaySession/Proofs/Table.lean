import GatewaySession.Table

/-!
# Tables and their entries

A table is its entries, and inserting them one after the other in ascending order builds it again.
Replacing every value commutes with the other operations, because these look at keys alone.

## Main results

* `Table.ofList_entries` — a table is the table of its entries
* `Table.map_insert`, `Table.map_erase`, `Table.get?_map`, `Table.keysFrom_map`,
  `Table.map_ofList`
* `Table.mem_keysFrom` — the keys that are listed
-/

namespace GatewaySession

namespace Table

variable {β γ : Type}

@[ext] theorem ext {first second : Table β} (h : first.entries = second.entries) :
    first = second := by
  cases first
  cases second
  cases h
  rfl

/-! ### Building -/

/-- An entry whose key is beyond all others comes last. -/
theorem insertEntry_of_lt {key : String} {value : β} {entries : List (String × β)}
    (beyond : ∀ entry ∈ entries, entry.1 < key) :
    insertEntry key value entries = entries ++ [(key, value)] := by
  induction entries with
  | nil => rfl
  | cons entry entries ih =>
    obtain ⟨first, rest⟩ := List.forall_mem_cons.1 beyond
    have notLess : ¬key < entry.1 := fun less => String.lt_irrefl _ (String.lt_trans less first)
    have notEqual : entry.1 ≠ key := fun eq => String.lt_irrefl key (eq ▸ first)
    rw [insertEntry, if_neg notLess, if_neg notEqual, ih rest, List.cons_append]

/-- Entries in ascending order are appended to those before them. -/
theorem entries_foldl_insert (table : Table β) {entries : List (String × β)}
    (ascending : (table.entries ++ entries).Pairwise fun a b => a.1 < b.1) :
    (entries.foldl (fun table entry => table.insert entry.1 entry.2) table).entries =
      table.entries ++ entries := by
  induction entries generalizing table with
  | nil => rw [List.foldl_nil, List.append_nil]
  | cons entry entries ih =>
    have beyond : ∀ other ∈ table.entries, other.1 < entry.1 := fun other mem =>
      (List.pairwise_append.1 ascending).2.2 other mem entry List.mem_cons_self
    have inserted : (table.insert entry.1 entry.2).entries = table.entries ++ [entry] :=
      insertEntry_of_lt beyond
    rw [List.foldl_cons, ih, inserted, List.append_assoc, List.singleton_append]
    rw [inserted, List.append_assoc, List.singleton_append]
    exact ascending

/-- **A table** is the table of its entries. -/
@[simp] theorem ofList_entries (table : Table β) : ofList table.entries = table :=
  ext (entries_foldl_insert empty table.ascending)

/-! ### Values replaced -/

theorem findValue?_map (f : β → γ) (key : String) (entries : List (String × β)) :
    findValue? key (entries.map fun entry => (entry.1, f entry.2)) =
      (findValue? key entries).map f := by
  induction entries with
  | nil => rfl
  | cons entry entries ih =>
    rw [List.map_cons, findValue?, findValue?, ih]
    split
    · rfl
    · rfl

@[simp] theorem get?_map (f : β → γ) (table : Table β) (key : String) :
    (table.map f).get? key = (table.get? key).map f :=
  findValue?_map f key table.entries

theorem insertEntry_map (f : β → γ) (key : String) (value : β) (entries : List (String × β)) :
    insertEntry key (f value) (entries.map fun entry => (entry.1, f entry.2)) =
      (insertEntry key value entries).map fun entry => (entry.1, f entry.2) := by
  induction entries with
  | nil => rfl
  | cons entry entries ih =>
    rw [List.map_cons, insertEntry, insertEntry, ih]
    repeat' split
    all_goals rfl

@[simp] theorem map_insert (f : β → γ) (table : Table β) (key : String) (value : β) :
    (table.map f).insert key (f value) = (table.insert key value).map f :=
  ext (insertEntry_map f key value table.entries)

@[simp] theorem map_erase (f : β → γ) (table : Table β) (key : String) :
    (table.map f).erase key = (table.erase key).map f := by
  refine ext ?_
  show eraseEntry key (table.entries.map fun entry => (entry.1, f entry.2)) =
    (eraseEntry key table.entries).map fun entry => (entry.1, f entry.2)
  rw [eraseEntry, eraseEntry, List.filter_map]
  rfl

@[simp] theorem keysFrom_map (f : β → γ) (table : Table β) (start : String) :
    (table.map f).keysFrom start = table.keysFrom start := by
  have keys : (table.map f).keys = table.keys := by
    show (table.entries.map fun entry => (entry.1, f entry.2)).map (·.1) = table.entries.map (·.1)
    rw [List.map_map]
    rfl
  rw [keysFrom, keysFrom, keys]

/-- Replacing the values of entries one by one, and those of their table. -/
theorem map_ofList (f : β → γ) (entries : List (String × β)) :
    (ofList entries).map f = ofList (entries.map fun entry => (entry.1, f entry.2)) := by
  have inserted : ∀ (entries : List (String × β)) (table : Table β),
      (entries.foldl (fun table entry => table.insert entry.1 entry.2) table).map f =
        (entries.map fun entry => (entry.1, f entry.2)).foldl
          (fun table entry => table.insert entry.1 entry.2) (table.map f) := by
    intro entries
    induction entries with
    | nil => exact fun _ => rfl
    | cons entry entries ih =>
      intro table
      rw [List.foldl_cons, ih, List.map_cons, List.foldl_cons, map_insert]
  exact inserted entries empty

/-! ### Keys -/

theorem findValue?_eq_none {key : String} {entries : List (String × β)}
    (h : findValue? key entries = none) : ∀ entry ∈ entries, entry.1 ≠ key := by
  induction entries with
  | nil => exact fun _ mem => absurd mem List.not_mem_nil
  | cons entry entries ih =>
    rw [findValue?] at h
    split at h
    · cases h
    · next other => exact List.forall_mem_cons.2 ⟨other, ih h⟩

/-- Erasing a key without a value changes nothing. -/
theorem erase_of_get?_eq_none {table : Table β} {key : String} (h : table.get? key = none) :
    table.erase key = table := by
  refine ext (List.filter_eq_self.2 fun entry mem => ?_)
  rw [beq_eq_false_iff_ne.2 (findValue?_eq_none h entry mem)]
  rfl

/-- A value that is found is that of an entry. -/
theorem mem_of_findValue? {key : String} {value : β} {entries : List (String × β)}
    (h : findValue? key entries = some value) : (key, value) ∈ entries := by
  induction entries with
  | nil => cases h
  | cons entry entries ih =>
    rw [findValue?] at h
    split at h
    · next eq =>
      obtain rfl := Option.some.inj h
      exact eq ▸ List.mem_cons_self
    · exact List.mem_cons_of_mem _ (ih h)

theorem mem_keys_of_get? {table : Table β} {key : String} {value : β}
    (h : table.get? key = some value) : key ∈ table.keys :=
  List.mem_map.2 ⟨(key, value), mem_of_findValue? h, rfl⟩

/-- A key with a value is listed if it begins with the text. -/
theorem mem_keysFrom {table : Table β} {key start : String} {value : β}
    (h : table.get? key = some value) (begins : start.toList.isPrefixOf key.toList = true) :
    key ∈ table.keysFrom start :=
  List.mem_filter.2 ⟨mem_keys_of_get? h, begins⟩

end Table

end GatewaySession
