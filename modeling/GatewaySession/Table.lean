/-!
# Tables sorted by key

A finite map from text to values, kept as the list of its entries in ascending order of keys. The
order is that of the code points of the keys, which is also the order of their UTF-8 octets. Since
the order is part of the type, two tables with the same entries are equal, and listing keys needs no
sorting.

## Main definitions

* `Table` — the entries with the proof that keys ascend
* `Table.get?`, `Table.insert`, `Table.erase`, `Table.keys`
* `Table.ofList` — the last of several entries with one key wins
-/

namespace GatewaySession

/-- A finite map from text to `β`, as entries in ascending order of keys. -/
structure Table (β : Type) where
  /-- Keys and values. -/
  entries : List (String × β)
  /-- Keys ascend strictly, so none occurs twice. -/
  ascending : entries.Pairwise fun a b => a.1 < b.1

namespace Table

variable {β : Type}

/-- The table without entries. -/
def empty : Table β := ⟨[], .nil⟩

instance : EmptyCollection (Table β) := ⟨empty⟩

instance : Inhabited (Table β) := ⟨empty⟩

/-! ### Looking up -/

/-- The value of the first entry with the given key. -/
def findValue? (key : String) : List (String × β) → Option β
  | [] => none
  | entry :: rest => if entry.1 = key then some entry.2 else findValue? key rest

/-- The value under a key. -/
def get? (table : Table β) (key : String) : Option β := findValue? key table.entries

/-- Whether a key has a value. -/
def contains (table : Table β) (key : String) : Bool := (table.get? key).isSome

/-- The keys in ascending order. -/
def keys (table : Table β) : List String := table.entries.map (·.1)

/-- Number of entries. -/
def size (table : Table β) : Nat := table.entries.length

/-! ### Writing -/

/-- Puts an entry in its place, replacing one with the same key. -/
def insertEntry (key : String) (value : β) : List (String × β) → List (String × β)
  | [] => [(key, value)]
  | entry :: rest =>
    if key < entry.1 then (key, value) :: entry :: rest
    else if entry.1 = key then (key, value) :: rest
    else entry :: insertEntry key value rest

/-- Takes out the entries with the given key. -/
def eraseEntry (key : String) (entries : List (String × β)) : List (String × β) :=
  entries.filter fun entry => !(entry.1 == key)

theorem mem_insertEntry {key : String} {value : β} {e : String × β} :
    ∀ {entries : List (String × β)}, e ∈ insertEntry key value entries →
      e = (key, value) ∨ e ∈ entries
  | [], h => by simpa [insertEntry] using h
  | entry :: rest, h => by
    rw [insertEntry] at h
    split at h
    · simpa using h
    · split at h
      · rcases List.mem_cons.1 h with h | h
        · exact Or.inl h
        · exact Or.inr (List.mem_cons_of_mem _ h)
      · rcases List.mem_cons.1 h with h | h
        · exact Or.inr (h ▸ List.mem_cons_self)
        · rcases mem_insertEntry h with h | h
          · exact Or.inl h
          · exact Or.inr (List.mem_cons_of_mem _ h)

theorem pairwise_insertEntry (key : String) (value : β) :
    ∀ {entries : List (String × β)}, entries.Pairwise (fun a b => a.1 < b.1) →
      (insertEntry key value entries).Pairwise fun a b => a.1 < b.1
  | [], _ => by simp [insertEntry]
  | entry :: rest, h => by
    have hrest := List.pairwise_cons.1 h
    rw [insertEntry]
    split
    · next hlt =>
      refine List.pairwise_cons.2 ⟨fun e he => ?_, h⟩
      rcases List.mem_cons.1 he with rfl | he
      · exact hlt
      · exact String.lt_trans hlt (hrest.1 e he)
    · next hlt =>
      split
      · next heq =>
        subst heq
        exact List.pairwise_cons.2 hrest
      · next hne =>
        refine List.pairwise_cons.2 ⟨fun e he => ?_, pairwise_insertEntry key value hrest.2⟩
        rcases mem_insertEntry he with rfl | he
        · refine Decidable.byContradiction fun hnot => hne ?_
          exact String.le_antisymm (String.not_lt.1 hlt) (String.not_lt.1 hnot)
        · exact hrest.1 e he

/-- The table with a value under a key. -/
def insert (table : Table β) (key : String) (value : β) : Table β :=
  ⟨insertEntry key value table.entries, pairwise_insertEntry key value table.ascending⟩

/-- The table without a value under a key. -/
def erase (table : Table β) (key : String) : Table β :=
  ⟨eraseEntry key table.entries, table.ascending.filter _⟩

/-! ### Reading what was written -/

theorem findValue?_insertEntry_self (key : String) (value : β) (entries : List (String × β)) :
    findValue? key (insertEntry key value entries) = some value := by
  induction entries with
  | nil => simp [insertEntry, findValue?]
  | cons entry rest ih =>
    rw [insertEntry]
    split
    · simp [findValue?]
    · split
      · simp [findValue?]
      · next hne => simp [findValue?, hne, ih]

theorem findValue?_insertEntry_of_ne {key other : String} (h : other ≠ key) (value : β)
    (entries : List (String × β)) :
    findValue? other (insertEntry key value entries) = findValue? other entries := by
  induction entries with
  | nil => simp [insertEntry, findValue?, h.symm]
  | cons entry rest ih =>
    rw [insertEntry]
    split
    · simp [findValue?, h.symm]
    · split
      · next heq =>
        subst heq
        simp [findValue?, h.symm]
      · simp [findValue?, ih]

theorem findValue?_eraseEntry_self (key : String) (entries : List (String × β)) :
    findValue? key (eraseEntry key entries) = none := by
  induction entries with
  | nil => rfl
  | cons entry rest ih =>
    rw [eraseEntry] at ih
    rw [eraseEntry, List.filter_cons]
    by_cases h : entry.1 = key
    · simpa [h] using ih
    · simpa [h, findValue?] using ih

theorem findValue?_eraseEntry_of_ne {key other : String} (h : other ≠ key)
    (entries : List (String × β)) :
    findValue? other (eraseEntry key entries) = findValue? other entries := by
  induction entries with
  | nil => rfl
  | cons entry rest ih =>
    rw [eraseEntry] at ih
    rw [eraseEntry, List.filter_cons]
    by_cases he : entry.1 = key
    · simpa [he, findValue?, h.symm] using ih
    · simp [he, findValue?, ih]

@[simp] theorem get?_empty (key : String) : (empty : Table β).get? key = none := rfl

@[simp] theorem get?_insert_self (table : Table β) (key : String) (value : β) :
    (table.insert key value).get? key = some value :=
  findValue?_insertEntry_self key value table.entries

theorem get?_insert_of_ne (table : Table β) {key other : String} (h : other ≠ key) (value : β) :
    (table.insert key value).get? other = table.get? other :=
  findValue?_insertEntry_of_ne h value table.entries

@[simp] theorem get?_erase_self (table : Table β) (key : String) :
    (table.erase key).get? key = none :=
  findValue?_eraseEntry_self key table.entries

theorem get?_erase_of_ne (table : Table β) {key other : String} (h : other ≠ key) :
    (table.erase key).get? other = table.get? other :=
  findValue?_eraseEntry_of_ne h table.entries

/-! ### Tables at once -/

/-- The table of a list of entries, the last of each key winning. -/
def ofList (entries : List (String × β)) : Table β :=
  entries.foldl (fun table entry => table.insert entry.1 entry.2) empty

/-- The keys that begin with a given text, in ascending order. -/
def keysFrom (table : Table β) (start : String) : List String :=
  table.keys.filter fun key => start.toList.isPrefixOf key.toList

/-- The table with every value replaced by its image. -/
def map {γ : Type} (f : β → γ) (table : Table β) : Table γ :=
  ⟨table.entries.map fun entry => (entry.1, f entry.2), by
    rw [List.pairwise_map]
    exact table.ascending⟩

end Table

end GatewaySession
