import GatewaySession.Proofs.Session.Caching
import GatewaySession.Proofs.Storage.Frames
import GatewaySession.Proofs.Vault.Finding

/-!
# Working storage and a key store that may be locked

Nothing fails here but the key store, which may be locked now and then, or all the time, or never.
The storage does what it is asked to, whatever it holds, and the key of the vault is one and the
same whenever it is given out.

A program that fails because the key store is locked may have done a part of its work. What it has
done by then is said of the storage alone: a condition on what a program ends with and on the
storage it leaves, for every state with a given storage.

## Main definitions

* `Depot` — such surroundings
* `Depot.Ensures` — what a program ends with and leaves, from a storage
* `Storage.Emptied` — a vault's keys are gone, and no others
* `Rehearsal.World.depot` — rehearsed worlds in which nothing is made to fail

## Main results

* `Storage.IsUsable.list_congr` — the keys that are listed are those that do not read as none
* `Depot.ensures_read`, `Depot.ensures_store`, `Depot.ensures_clearAll` — the operations of a vault
-/

namespace GatewaySession

variable {σ α β : Type}

/-! ### The keys of a storage -/

namespace Storage

variable {storage other : Storage}

/-- The keys that are listed are those of a table, which are the ones that do not read as none. -/
theorem IsUsable.exists_table (usable : storage.IsUsable) :
    ∃ (β : Type) (table : Table β), (∀ start, storage.list start = .ok (table.keysFrom start)) ∧
      ∀ key, storage.get key = .ok none ↔ table.get? key = none := by
  cases storage with
  | memory memory =>
    refine ⟨Bytes, memory.values, fun _ => rfl, fun key => ?_⟩
    rw [Storage.get, MemoryStorage.get, usable.1]
    exact ⟨Except.ok.inj, congrArg Except.ok⟩
  | file state =>
    obtain ⟨table, read⟩ := FileState.exists_document usable
    refine ⟨String, table, fun start => ?_, fun key => ?_⟩
    · rw [Storage.list, FileState.list, read]
      rfl
    · rw [Storage.get, FileState.get_of_document read]
      cases table.get? key with
      | none => simp
      | some text =>
        cases decoded : FileState.decode key text <;> simp [decoded, Except.map]

/-- **Listing** tells the same of storages in which the same keys read as none. -/
theorem IsUsable.list_congr (usable : storage.IsUsable) (usable' : other.IsUsable)
    (same : ∀ key, other.get key = .ok none ↔ storage.get key = .ok none) (start : String) :
    other.list start = storage.list start := by
  obtain ⟨_, table, lists, reads⟩ := usable.exists_table
  obtain ⟨_, table', lists', reads'⟩ := usable'.exists_table
  rw [lists, lists', Table.keysFrom_eq fun name _ => ?_]
  rw [← not_iff_not, Option.not_isSome_iff_eq_none, Option.not_isSome_iff_eq_none, ← reads,
    ← reads']
  exact same name

/-- A key that is not admitted is not written. -/
theorem IsUsable.put_of_refused (usable : storage.IsUsable) {key : String} {error : Error}
    (refused : StorageKey.check key = .error error) (value : Bytes) :
    storage.put key value = .error error := by
  cases storage with
  | memory memory =>
    rw [Storage.put, MemoryStorage.put, usable.2.1, refused]
    rfl
  | file state =>
    rw [Storage.put, FileState.put, refused]
    rfl

/-- What is left of a storage when a vault is emptied: nothing under keys that begin as the vault's
do, and everything else. -/
structure Emptied (vault : Vault) (before after : Storage) : Prop where
  /-- It can be used afterwards. -/
  usable : after.IsUsable
  /-- What is found there. -/
  get (name : String) : after.get name =
    if vault.keyStart.toList.isPrefixOf name.toList then .ok none else before.get name

end Storage

/-! ### The surroundings -/

/-- The storage after an effect; where writing or removing fails, nothing is changed. -/
def Effect.stores : Effect → Storage → Storage
  | .write name value, storage => (storage.put name value).toOption.getD storage
  | .remove name, storage => (storage.delete name).toOption.getD storage
  | _, storage => storage

/-- Surroundings where the storage works and the key store may be locked. Nothing is said of effects
that concern others, such as the gateway. -/
structure Depot (σ : Type) (vault : Vault) (key : Aes256.Key) where
  /-- How effects are answered. -/
  handle : (effect : Effect) → σ → effect.Reply × σ
  /-- The storage. -/
  storage : σ → Storage
  /-- The states in which the surroundings are as they should be. -/
  IsSound : σ → Prop
  /-- They stay among these states. -/
  isSound {effect : Effect} {state : σ} : effect.IsForgetful → IsSound state →
    IsSound (handle effect state).2
  /-- The storage is changed by writing and removing. -/
  stores {effect : Effect} {state : σ} : effect.IsForgetful → IsSound state →
    storage (handle effect state).2 = effect.stores (storage state)
  /-- Reading tells what is stored. -/
  reads {state : σ} (name : String) : IsSound state →
    (handle (.read name) state).1 = (storage state).get name
  /-- Writing tells whether the key is admitted. -/
  writes {state : σ} (name : String) (value : Bytes) : IsSound state →
    (handle (.write name value) state).1 = ((storage state).put name value).map fun _ => ()
  /-- Removing tells whether it was done. -/
  removes {state : σ} (name : String) : IsSound state →
    (handle (.remove name) state).1 = ((storage state).delete name).map fun _ => ()
  /-- Listing tells the keys. -/
  lists {state : σ} (start : String) : IsSound state →
    (handle (.list start) state).1 = (storage state).list start
  /-- The key store gives the key, or it is locked. -/
  keys {state : σ} : IsSound state → (handle (.sealingKey vault.name) state).1 = .ok key ∨
    (handle (.sealingKey vault.name) state).1 = .error .storeLocked

namespace Depot

variable {vault : Vault} {key : Aes256.Key} (depot : Depot σ vault key)

/-- Whether the key store is never locked. -/
def IsUnlocked : Prop :=
  ∀ state, depot.IsSound state → (depot.handle (.sealingKey vault.name) state).1 = .ok key

/-- Whether the key store was locked. -/
def Locks (result : Except Error α) : Prop := result = .error .storeLocked ∧ ¬depot.IsUnlocked

/-- What a program ends with and leaves, from any state with a given storage. -/
def Ensures (before : Storage) (program : Program α)
    (post : Except Error α → Storage → Prop) : Prop :=
  ∀ state, depot.IsSound state → depot.storage state = before →
    depot.IsSound (program.run depot.handle state).2 ∧
      post (program.run depot.handle state).1 (depot.storage (program.run depot.handle state).2)

variable {depot} {before : Storage} {program : Program α} {post : Except Error α → Storage → Prop}

namespace Ensures

theorem done {result : Except Error α} (h : post result before) :
    depot.Ensures before (.done result) post :=
  fun _ sound same => ⟨sound, same ▸ h⟩

theorem mono {post' : Except Error α → Storage → Prop} (h : depot.Ensures before program post)
    (weaker : ∀ result after, post result after → post' result after) :
    depot.Ensures before program post' :=
  fun state sound same => ⟨(h state sound same).1, weaker _ _ (h state sound same).2⟩

/-- One program after another. -/
theorem bind {f : α → Program β} {post : Except Error β → Storage → Prop}
    (h : depot.Ensures before program fun result after => match result with
      | .ok a => depot.Ensures after (f a) post
      | .error error => post (.error error) after) :
    depot.Ensures before (program >>= f) post := by
  intro state sound same
  obtain ⟨sound', next⟩ := h state sound same
  rw [Program.run_bind]
  cases run : program.run depot.handle state with
  | mk result between =>
  rw [run] at sound' next
  cases result with
  | ok a => exact next between sound' rfl
  | error error => exact ⟨sound', next⟩

/-- A program after one whose errors are caught. -/
theorem rescue {f : Except Error α → Program β} {post : Except Error β → Storage → Prop}
    (h : depot.Ensures before program fun result after => depot.Ensures after (f result) post) :
    depot.Ensures before (program.attempt >>= f) post := by
  intro state sound same
  obtain ⟨sound', next⟩ := h state sound same
  rw [Program.run_attempt_bind rfl]
  exact next _ sound' rfl

/-- An effect, and a program after it. -/
theorem perform {effect : Effect} {next : effect.Reply → Program α} (own : effect.IsForgetful)
    (h : ∀ state, depot.IsSound state → depot.storage state = before →
      depot.Ensures (effect.stores before) (next (depot.handle effect state).1) post) :
    depot.Ensures before (.perform effect next) post := by
  intro state sound same
  exact h state sound same _ (depot.isSound own sound)
    ((depot.stores own sound).trans (congrArg effect.stores same))

/-- While nobody else writes to the store. -/
theorem guarded (h : depot.Ensures before program post) :
    depot.Ensures before program.guarded post := by
  refine .perform (.inl trivial) fun _ _ _ => ?_
  refine .rescue (h.mono fun result after ends => ?_)
  exact .perform (.inl trivial) fun _ _ _ => .done ends

/-- A storage operation wraps its errors. -/
theorem about {operation name : String} (h : depot.Ensures before program fun result after =>
      post (result.mapError (.storageOperation operation name)) after) :
    depot.Ensures before (Vault.about operation name program) post := by
  refine .rescue (h.mono fun result after ends => ?_)
  cases result with
  | ok a => exact .done ends
  | error error => exact .done ends

end Ensures

/-! ### Effects -/

theorem ensures_fetch (name : String) : depot.Ensures before (Program.read name)
    fun result after => result = before.get name ∧ after = before :=
  .perform (.inl trivial) fun _ sound same => .done ⟨same ▸ depot.reads name sound, rfl⟩

theorem ensures_put (name : String) (value : Bytes) :
    depot.Ensures before (Program.write name value) fun result after =>
      result = (before.put name value).map (fun _ => ()) ∧
        after = (before.put name value).toOption.getD before :=
  .perform (.inl trivial) fun _ sound same => .done ⟨same ▸ depot.writes name value sound, rfl⟩

theorem ensures_delete (name : String) : depot.Ensures before (Program.remove name)
    fun result after => result = (before.delete name).map (fun _ => ()) ∧
      after = (before.delete name).toOption.getD before :=
  .perform (.inl trivial) fun _ sound same => .done ⟨same ▸ depot.removes name sound, rfl⟩

theorem ensures_list (start : String) : depot.Ensures before (Program.list start)
    fun result after => result = before.list start ∧ after = before :=
  .perform (.inl trivial) fun _ sound same => .done ⟨same ▸ depot.lists start sound, rfl⟩

theorem ensures_sealingKey : depot.Ensures before (Program.sealingKey vault.name)
    fun result after => (result = .ok key ∨ depot.Locks result) ∧ after = before := by
  refine .perform (.inl trivial) fun state sound _ => .done ⟨?_, rfl⟩
  obtain given | locked := depot.keys sound
  · exact .inl given
  · refine .inr ⟨locked, fun unlocked => ?_⟩
    rw [unlocked state sound] at locked
    cases locked

end Depot

/-! ### The vault -/

/-- The content of a blob is the record in its plaintext. -/
theorem Vault.content?_eq_unwrap [Record α] (vault : Vault) (key : Aes256.Key) (blob : Bytes) :
    (vault.content? key blob : Option α) = match Envelope.unwrap key vault.name blob with
      | .error _ => none
      | .ok plaintext => Record.decode? plaintext := by
  cases long : Envelope.checkLength blob with
  | error error =>
    rw [content?_of_short long, Envelope.unwrap_of_short long]
  | ok _ =>
    cases opened : Envelope.unwrapWith key vault.name blob with
    | error error => rw [content?_of_altered opened, Envelope.unwrap_of_long long, opened]
    | ok plaintext => rw [content?, long, Envelope.unwrap_of_long long, opened]

namespace Depot

variable {vault : Vault} {key : Aes256.Key} {depot : Depot σ vault key} {before : Storage}

/-- Opening a value gives what is in it, unless the key is wanted and locked away. -/
theorem ensures_unsealed (blob : Bytes) : depot.Ensures before (vault.unsealed blob)
    fun result after => (result = Envelope.unwrap key vault.name blob ∨ depot.Locks result) ∧
      after = before := by
  unfold Vault.unsealed
  cases long : Envelope.checkLength blob with
  | error error => exact .done ⟨.inl (by rw [Envelope.unwrap, long]; rfl), rfl⟩
  | ok _ =>
    refine .bind (.done (.bind (ensures_sealingKey.mono ?_)))
    rintro _ _ ⟨rfl | locks, rfl⟩
    · exact .done ⟨.inl (Envelope.unwrap_of_long long).symm, rfl⟩
    · obtain ⟨rfl, locked⟩ := locks
      exact ⟨.inr ⟨rfl, locked⟩, rfl⟩

/-- **Reading a slot** ends as what is found there says, or the key store is locked, and changes
nothing. -/
theorem ensures_read (slot : Slot) :
    depot.Ensures before (vault.read slot : Program (Option slot.Content)) fun result after =>
      ((vault.finding key before slot).Reads (vault.keyFor slot) result ∨ depot.Locks result) ∧
        after = before := by
  refine .bind (.about ((ensures_fetch _).mono ?_))
  rintro _ before ⟨rfl, rfl⟩
  unfold Vault.finding
  cases before.get (vault.keyFor slot) with
  | error error => exact ⟨.inl rfl, rfl⟩
  | ok found =>
  cases found with
  | none => exact .done ⟨.inl rfl, rfl⟩
  | some blob =>
  refine .bind ((ensures_unsealed blob).mono ?_)
  rintro _ before ⟨rfl | locks, rfl⟩
  · have content := Vault.content?_eq_unwrap (α := slot.Content) vault key blob
    cases opened : Envelope.unwrap key vault.name blob with
    | error error =>
      obtain ⟨detail, rfl⟩ := Envelope.integrity_of_unwrap opened
      rw [opened] at content
      simp only [content]
      exact ⟨.inl ⟨detail, rfl⟩, trivial⟩
    | ok plaintext =>
      rw [opened] at content
      refine .bind (.done ?_)
      simp only [content, Vault.recordOf]
      cases (Record.decode? plaintext : Option slot.Content) with
      | none => exact ⟨.inl ⟨_, rfl⟩, trivial⟩
      | some value => exact .done ⟨.inl rfl, rfl⟩
  · obtain ⟨rfl, locked⟩ := locks
    exact ⟨.inr ⟨rfl, locked⟩, rfl⟩

/-- Removing keys one after the other: they have no value then, and no other key is concerned. -/
theorem ensures_removeKeys (usable : before.IsUsable) (names : List String) :
    depot.Ensures before (Vault.removeKeys names) fun result after =>
      result = .ok () ∧ after.IsUsable ∧ (∀ name ∈ names, after.get name = .ok none) ∧
        ∀ name, name ∉ names → after.get name = before.get name := by
  induction names generalizing before with
  | nil => exact .done ⟨rfl, usable, fun _ mem => absurd mem List.not_mem_nil, fun _ _ => rfl⟩
  | cons name names ih =>
    obtain ⟨between, deleted, sets⟩ := usable.delete name
    refine .bind (.about ((ensures_delete name).mono ?_))
    rw [deleted]
    rintro _ _ ⟨rfl, rfl⟩
    refine (ih sets.usable).mono ?_
    rintro result after ⟨done, usable', gone, same⟩
    refine ⟨done, usable', fun other mem => ?_, fun other absent => ?_⟩
    · by_cases again : other ∈ names
      · exact gone other again
      · obtain rfl := (List.mem_cons.1 mem).resolve_right again
        exact (same other again).trans sets.get_self
    · rw [List.mem_cons, not_or] at absent
      exact (same other absent.2).trans (sets.get_of_ne other absent.1)

/-- **Emptying the vault** works whatever is there. -/
theorem ensures_clearAll (usable : before.IsUsable) :
    depot.Ensures before vault.clearAll fun result after =>
      result = .ok () ∧ before.Emptied vault after := by
  obtain ⟨names, listed, begin, complete⟩ := usable.list vault.keyStart
  refine .guarded (.bind (.about ((ensures_list _).mono ?_)))
  rw [listed]
  rintro _ _ ⟨rfl, rfl⟩
  refine (ensures_removeKeys usable names).mono ?_
  rintro result after ⟨done, usable', gone, same⟩
  refine ⟨done, usable', fun name => ?_⟩
  by_cases mem : name ∈ names
  · rw [gone name mem, if_pos (begin name mem)]
  · rw [same name mem]
    split
    · next begins =>
      by_contra found
      exact mem (complete name begins found)
    · rfl

/-- What comes of writing a value, by whether its key is admitted. -/
def Puts (name : String) (value : Bytes) (before : Storage) (result : Except Error Unit)
    (after : Storage) : Prop :=
  match StorageKey.check name with
  | .ok _ => result = .ok () ∧ before.Sets name (some value) after
  | .error error => result = .error (.storageOperation "put" name error) ∧ after = before

theorem ensures_write (usable : before.IsUsable) (name : String) (value : Bytes) :
    depot.Ensures before (Vault.about "put" name (.write name value)) (Puts name value before) := by
  refine .about ((ensures_put name value).mono ?_)
  unfold Puts
  cases checked : StorageKey.check name with
  | error error =>
    rw [usable.put_of_refused checked]
    rintro _ _ ⟨rfl, rfl⟩
    exact ⟨rfl, rfl⟩
  | ok _ =>
    obtain ⟨stored, put, sets⟩ := usable.put checked value
    rw [put]
    rintro _ _ ⟨rfl, rfl⟩
    exact ⟨rfl, sets⟩

/-- **Filling a slot** writes a sealed value, or the key store is locked. -/
theorem ensures_store [Record α] (usable : before.IsUsable) (slot : Slot) (value : α) :
    depot.Ensures before (vault.store slot value) fun result after =>
      (∃ nonce, Puts (vault.keyFor slot) (vault.blob key nonce value) before result after) ∨
        depot.Locks result ∧ after = before := by
  refine .guarded (.bind (.bind (ensures_sealingKey.mono ?_)))
  rintro _ before ⟨rfl | locks, rfl⟩
  · refine .perform (.inl trivial) fun state _ _ => .done ?_
    exact (ensures_write usable _ _).mono fun _ _ puts => .inl ⟨_, puts⟩
  · obtain ⟨rfl, locked⟩ := locks
    exact .inr ⟨⟨rfl, locked⟩, rfl⟩

end Depot

/-! ### Rehearsed worlds -/

namespace Rehearsal.World

/-- A world where nothing is made to fail, with the key of a vault in its ring, which is locked or
not. -/
structure Houses (world : World) (place : Place) (vault : Vault) (key : Aes256.Key)
    (isLocked : Bool) : Prop where
  /-- No operation of the storage is made to fail. -/
  storageFaults : world.faultsOf place.seat = []
  /-- Asking for a key is not made to fail. -/
  faults : world.faults = []
  /-- The key of the vault. -/
  key : world.ring.keys.get? vault.name = some key
  /-- Whether the ring is locked. -/
  isLocked : world.ring.isLocked = isLocked

variable {world : World} {place : Place} {vault : Vault} {key : Aes256.Key} {isLocked : Bool}

namespace Houses

variable (houses : world.Houses place vault key isLocked)

include houses

theorem reading (operation : Operation) (name : String) (read : Storage → Except Error α) :
    world.reading place.seat operation name read = read world.storage := by
  rw [World.reading, houses.storageFaults]
  rfl

theorem writing (operation : Operation) (name : String) (write : Storage → Except Error Storage) :
    world.writing place.seat operation name write = ((write world.storage).map fun _ => (),
      { world with storage := (write world.storage).toOption.getD world.storage }) := by
  rw [World.writing, houses.reading]
  cases write world.storage with
  | error error => rfl
  | ok storage => rfl

/-- Other storage makes no difference. -/
theorem withStorage (storage : Storage) :
    Houses { world with storage } place vault key isLocked :=
  ⟨houses.storageFaults, houses.faults, houses.key, houses.isLocked⟩

/-- Asking for any key. -/
theorem sealingKey (name : String) :
    (world.sealingKey name).2.Houses place vault key isLocked ∧
      (world.sealingKey name).2.storage = world.storage := by
  have sound : Fault.find? world.faults .key name = none := by
    rw [houses.faults]
    rfl
  cases locked : world.ring.isLocked with
  | true =>
    rw [sealingKey_of_locked sound locked]
    exact ⟨⟨houses.storageFaults, houses.faults, houses.key, houses.isLocked⟩, rfl⟩
  | false =>
  cases known : world.ring.keys.get? name with
  | some other =>
    rw [sealingKey_of_known sound locked known]
    exact ⟨⟨houses.storageFaults, houses.faults, houses.key, houses.isLocked⟩, rfl⟩
  | none =>
    have ne : vault.name ≠ name := fun same =>
      Option.some_ne_none _ (houses.key.symm.trans (same ▸ known))
    rw [sealingKey_of_new sound locked known]
    exact ⟨⟨houses.storageFaults, houses.faults,
      (Table.get?_insert_of_ne _ ne _).trans houses.key, houses.isLocked⟩, rfl⟩

/-- The key of the vault is given if the ring is not locked. -/
theorem sealingKey_given : (world.sealingKey vault.name).1 =
    if isLocked then .error .storeLocked else .ok key := by
  have sound : Fault.find? world.faults .key vault.name = none := by
    rw [houses.faults]
    rfl
  cases isLocked with
  | true =>
    rw [sealingKey_of_locked sound houses.isLocked]
    rfl
  | false =>
    rw [sealingKey_of_known sound houses.isLocked houses.key]
    rfl

/-- Nothing is made to fail by what a session does to its vault. -/
theorem answer {effect : Effect} (own : effect.IsForgetful) :
    (answer place effect world).2.Houses place vault key isLocked ∧
      (World.answer place effect world).2.storage = effect.stores world.storage := by
  obtain storage | rfl | rfl := own
  · cases effect with
    | write name value =>
      rw [World.answer, houses.writing]
      exact ⟨houses.withStorage _, rfl⟩
    | remove name =>
      rw [World.answer, houses.writing]
      exact ⟨houses.withStorage _, rfl⟩
    | sealingKey name => exact houses.sealingKey name
    | nonce =>
      show world.nonce.2.Houses place vault key isLocked ∧ world.nonce.2.storage = world.storage
      obtain ⟨nonce, drawn, nonces, eq⟩ := world.exists_nonce_eq
      rw [eq]
      exact ⟨⟨houses.storageFaults, houses.faults, houses.key, houses.isLocked⟩, rfl⟩
    | read | list | hold | release => exact ⟨houses, rfl⟩
    | _ => exact storage.elim
  · exact ⟨⟨(world.faultsOf_cacheUser _ _).trans houses.storageFaults, houses.faults, houses.key,
      houses.isLocked⟩, rfl⟩
  · show (world.cacheConnection place.desk none).Houses place vault key isLocked ∧
      (world.cacheConnection place.desk none).storage = world.storage
    unfold World.cacheConnection
    split
    · exact ⟨⟨houses.storageFaults, houses.faults, houses.key, houses.isLocked⟩, rfl⟩
    · exact ⟨houses, rfl⟩

end Houses

/-- **A rehearsed world** where nothing is made to fail. -/
def depot (place : Place) (vault : Vault) (key : Aes256.Key) (isLocked : Bool) :
    Depot World vault key where
  handle := answer place
  storage := storage
  IsSound world := world.Houses place vault key isLocked
  isSound own houses := (houses.answer own).1
  stores own houses := (houses.answer own).2
  reads name houses := houses.reading .get name _
  writes name value houses := congrArg Prod.fst (houses.writing .put name _)
  removes name houses := congrArg Prod.fst (houses.writing .delete name _)
  lists start houses := houses.reading .list start _
  keys houses := by
    have given := houses.sealingKey_given
    cases isLocked with
    | false => exact .inl given
    | true => exact .inr given

/-- Where the ring is not locked, it stays so. -/
theorem isUnlocked_depot : (depot place vault key false).IsUnlocked :=
  fun _ houses => houses.sealingKey_given

end Rehearsal.World

end GatewaySession
