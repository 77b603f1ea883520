import GatewaySession.Proofs.Credential.Record
import GatewaySession.Proofs.Program.Run
import GatewaySession.Proofs.Sealing.Envelope
import GatewaySession.Proofs.Storage.Working
import GatewaySession.Proofs.Vault.Keys
import GatewaySession.Rehearsal.World

/-!
# Vaults in a world that works

A world serves a vault when its storage works, no operation is made to fail, and the vault's key is
in the ring. What an operation of the vault answers is then determined by the stored values and by
whether the ring is locked, and so are the values afterwards. Locking matters only where a key is
asked for: that is when something is sealed or opened, and never when something is removed.

## Main definitions

* `Rehearsal.World.Serves` — a world that works for a vault, and the values in its storage
* `Vault.blob` — the sealed blob of a record

## Main results

* `Rehearsal.World.sealingKey_of_fault`, `Rehearsal.World.sealingKey_of_locked`,
  `Rehearsal.World.sealingKey_of_known`, `Rehearsal.World.sealingKey_of_new` — asking for a sealing
  key, in any world
* `Vault.run_read_none`, `Vault.run_read_some`, `Vault.run_store`, `Vault.run_clear`,
  `Vault.run_clearAll` — the operations
-/

namespace GatewaySession

open Rehearsal

/-! ### Any world -/

namespace Rehearsal.World

variable {world : World} {name : String}

/-- A nonce is drawn, or the next of those that are given out first. -/
theorem exists_nonce_eq (world : World) :
    ∃ nonce drawn nonces, world.nonce = (nonce, { world with drawn, nonces }) := by
  rw [World.nonce]
  split
  · exact ⟨_, world.drawn, _, rfl⟩
  · exact ⟨_, _, world.nonces, rfl⟩

theorem sealingKey_of_fault {error : Error}
    (fault : Fault.find? world.faults .key name = some error) :
    world.sealingKey name = (.error error, world) := by
  simp only [World.sealingKey, fault]

section

variable (sound : Fault.find? world.faults .key name = none)

include sound

/-- A locked ring refuses. -/
theorem sealingKey_of_locked (locked : world.ring.isLocked = true) :
    world.sealingKey name = (.error .storeLocked, { world with drawn := world.drawn + 1 }) := by
  simp only [World.sealingKey, sound, KeyRing.key, locked, if_true]

variable (unlocked : world.ring.isLocked = false)

include unlocked

theorem sealingKey_of_known {key : Aes256.Key} (known : world.ring.keys.get? name = some key) :
    world.sealingKey name = (.ok key, { world with drawn := world.drawn + 1 }) := by
  simp only [World.sealingKey, sound, KeyRing.key, unlocked, Bool.false_eq_true, if_false, known]

/-- The key of a new name is drawn, and kept. -/
theorem sealingKey_of_new (new : world.ring.keys.get? name = none) :
    world.sealingKey name = (.ok (freshKey world.drawn),
      { world with
        ring := world.ring.withKey name (freshKey world.drawn)
        drawn := world.drawn + 1 }) := by
  simp only [World.sealingKey, sound, KeyRing.key, unlocked, Bool.false_eq_true, if_false, new]

end

end Rehearsal.World

/-! ### Effects -/

/-- A world that works for a vault, with the values in its storage and the state of its ring. -/
structure Rehearsal.World.Serves (world : World) (place : Place) (vault : Vault) (key : Aes256.Key)
    (locked : Bool) (values : Table Bytes) : Prop where
  /-- The storage works. -/
  storage : world.storage.Holds values
  /-- No operation of the storage is made to fail. -/
  storageFaults : world.faultsOf place.seat = []
  /-- Asking for a key is not made to fail. -/
  faults : world.faults = []
  /-- The key of the vault is in the ring. -/
  key : world.ring.keys.get? vault.name = some key
  /-- Whether the ring is locked. -/
  isLocked : world.ring.isLocked = locked

/-- What is cached of the user has nothing to do with the faults of the storage. -/
theorem Rehearsal.World.faultsOf_cacheUser (world : World) (n : Nat)
    (credential : Option UserCredential) :
    (world.cacheUser n credential).faultsOf n = world.faultsOf n := by
  have former : ((world.cacheUser n credential).seat n).formerFaults =
      (world.seat n).formerFaults := by
    simp only [World.cacheUser, World.seat, List.getD_eq_getElem?_getD, List.getElem?_modify_eq]
    cases world.seats[n]? with
    | none => rfl
    | some seat => rfl
  rw [World.faultsOf, former]
  rfl

namespace Rehearsal.World.Serves

variable {world : World} {place : Place} {vault : Vault} {key : Aes256.Key} {locked : Bool}
  {values : Table Bytes}

theorem reading {α : Type} (serves : world.Serves place vault key locked values)
    (operation : Operation) (name : String) (read : Storage → Except Error α) :
    world.reading place.seat operation name read = read world.storage := by
  rw [World.reading, serves.storageFaults]
  rfl

/-- Reading an entry of the storage. -/
theorem read (serves : world.Serves place vault key locked values) (name : String) :
    World.answer place (.read name) world = (.ok (values.get? name), world) := by
  show (world.reading place.seat .get name (·.get name), world) = _
  rw [serves.reading, serves.storage.get]

/-- Writing an entry of the storage. -/
theorem write (serves : world.Serves place vault key locked values) {name : String}
    (admitted : StorageKey.check name = .ok ()) (value : Bytes) :
    ∃ world', World.answer place (.write name value) world = (.ok (), world') ∧
      world'.Serves place vault key locked (values.insert name value) := by
  obtain ⟨storage, put, holds⟩ := serves.storage.put admitted value
  refine ⟨{ world with storage }, ?_, ⟨holds, serves.storageFaults, serves.faults, serves.key,
    serves.isLocked⟩⟩
  show world.writing place.seat .put name (·.put name value) = _
  rw [World.writing, serves.reading, put]

/-- Removing an entry of the storage. -/
theorem remove (serves : world.Serves place vault key locked values) (name : String) :
    ∃ world', World.answer place (.remove name) world = (.ok (), world') ∧
      world'.Serves place vault key locked (values.erase name) := by
  obtain ⟨storage, deleted, holds⟩ := serves.storage.delete name
  refine ⟨{ world with storage }, ?_, ⟨holds, serves.storageFaults, serves.faults, serves.key,
    serves.isLocked⟩⟩
  show world.writing place.seat .delete name (·.delete name) = _
  rw [World.writing, serves.reading, deleted]

/-- Listing the entries of the storage. -/
theorem list (serves : world.Serves place vault key locked values) (start : String) :
    World.answer place (.list start) world = (.ok (values.keysFrom start), world) := by
  show (world.reading place.seat .list start (·.list start), world) = _
  rw [serves.reading, serves.storage.list]

/-- Asking for the key of the vault: a locked ring refuses. -/
theorem sealingKey (serves : world.Serves place vault key locked values) :
    ∃ world', World.answer place (.sealingKey vault.name) world =
        (if locked then .error .storeLocked else .ok key, world') ∧
      world'.Serves place vault key locked values := by
  have sound : Fault.find? world.faults .key vault.name = none := by
    rw [serves.faults]
    rfl
  refine ⟨{ world with drawn := world.drawn + 1 }, ?_, ⟨serves.storage, serves.storageFaults,
    serves.faults, serves.key, serves.isLocked⟩⟩
  cases locked with
  | true => exact sealingKey_of_locked sound serves.isLocked
  | false => exact sealingKey_of_known sound serves.isLocked serves.key

/-- Asking for a nonce. -/
theorem nonce (serves : world.Serves place vault key locked values) :
    ∃ nonce world', World.answer place .nonce world = (nonce, world') ∧
      world'.Serves place vault key locked values := by
  obtain ⟨nonce, drawn, nonces, eq⟩ := world.exists_nonce_eq
  exact ⟨nonce, _, eq, serves.storage, serves.storageFaults, serves.faults, serves.key,
    serves.isLocked⟩

end Rehearsal.World.Serves

/-! ### Slots -/

namespace Vault

variable {world : World} {place : Place} {vault : Vault} {key : Aes256.Key} {locked : Bool}
  {values : Table Bytes} {α : Type} [Record α]

/-- The sealed blob of a record. -/
def blob (vault : Vault) (key : Aes256.Key) (nonce : Gcm.Nonce) (value : α) : Bytes :=
  Envelope.wrap key vault.name nonce (Record.encode value)

theorem run_fetch (serves : world.Serves place vault key locked values) (slot : Slot) :
    (about "get" (vault.keyFor slot) (.read (vault.keyFor slot))).run (World.answer place) world =
      (.ok (values.get? (vault.keyFor slot)), world) := by
  refine run_about_ok ?_
  rw [Program.run_read, serves.read]

/-- **Reading an empty slot** asks for no key. -/
theorem run_read_none (serves : world.Serves place vault key locked values) {slot : Slot}
    (empty : values.get? (vault.keyFor slot) = none) :
    (vault.read slot : Program (Option α)).run (World.answer place) world = (.ok none, world) := by
  have fetched := run_fetch serves slot
  rw [empty] at fetched
  rw [Vault.read, Program.run_bind_ok fetched]
  exact Program.run_pure _ _ _

/-- Opening a blob that was sealed for the vault, unless the ring is locked. -/
theorem run_unsealed (serves : world.Serves place vault key locked values) (nonce : Gcm.Nonce)
    (plaintext : Bytes) :
    ∃ world', (vault.unsealed (Envelope.wrap key vault.name nonce plaintext)).run
          (World.answer place) world =
        (if locked then .error .storeLocked else .ok plaintext, world') ∧
      world'.Serves place vault key locked values := by
  obtain ⟨world', asked, serves'⟩ := serves.sealingKey
  refine ⟨world', ?_, serves'⟩
  have long : (Program.ofExcept (Envelope.checkLength
      (Envelope.wrap key vault.name nonce plaintext))).run (World.answer place) world =
      (.ok (), world) := by
    rw [Envelope.checkLength_wrap, Program.run_ofExcept]
  have keyed : (Program.sealingKey vault.name).run (World.answer place) world =
      (if locked then .error .storeLocked else .ok key, world') := by
    rw [Program.run_sealingKey, asked]
  rw [Vault.unsealed, Program.run_bind_ok long]
  cases locked with
  | true => exact Program.run_bind_error keyed
  | false =>
    rw [Program.run_bind_ok keyed, Envelope.unwrapWith_wrap]
    exact Program.run_ofExcept _ _ _

/-- **Reading a record** opens it, unless the ring is locked. -/
theorem run_read_some (serves : world.Serves place vault key locked values) {slot : Slot}
    {nonce : Gcm.Nonce} {value : α} (faithful : Record.Faithful value)
    (stored : values.get? (vault.keyFor slot) = some (vault.blob key nonce value)) :
    ∃ world', (vault.read slot : Program (Option α)).run (World.answer place) world =
        (if locked then .error .storeLocked else .ok (some value), world') ∧
      world'.Serves place vault key locked values := by
  obtain ⟨world', opened, serves'⟩ := run_unsealed serves nonce (Record.encode value)
  refine ⟨world', ?_, serves'⟩
  have fetched := run_fetch serves slot
  rw [stored, blob] at fetched
  rw [Vault.read, Program.run_bind_ok fetched]
  cases locked with
  | true => exact Program.run_bind_error opened
  | false =>
    have decoded : (recordOf slot (Record.encode value) : Except Error α) = .ok value := by
      rw [recordOf, faithful]
    have made : (Program.ofExcept (recordOf slot (Record.encode value) : Except Error α)).run
        (World.answer place) world' = (.ok value, world') := by
      rw [decoded, Program.run_ofExcept]
    refine (Program.run_bind_ok opened).trans ((Program.run_bind_ok made).trans ?_)
    exact Program.run_pure _ _ _

/-- Sealing a plaintext for the vault, unless the ring is locked. -/
theorem run_sealed (serves : world.Serves place vault key locked values) (plaintext : Bytes) :
    ∃ nonce world', (vault.sealed plaintext).run (World.answer place) world =
        (if locked then .error .storeLocked else
          .ok (Envelope.wrap key vault.name nonce plaintext), world') ∧
      world'.Serves place vault key locked values := by
  obtain ⟨world₁, asked, serves₁⟩ := serves.sealingKey
  obtain ⟨nonce, world₂, given, serves₂⟩ := serves₁.nonce
  have keyed : (Program.sealingKey vault.name).run (World.answer place) world =
      (if locked then .error .storeLocked else .ok key, world₁) := by
    rw [Program.run_sealingKey, asked]
  have drawn : (Program.ask .nonce).run (World.answer place) world₁ = (.ok nonce, world₂) := by
    rw [Program.run_ask, given]
  rw [Vault.sealed]
  cases locked with
  | true => exact ⟨nonce, world₁, Program.run_bind_error keyed, serves₁⟩
  | false =>
    refine ⟨nonce, world₂, ?_, serves₂⟩
    refine (Program.run_bind_ok keyed).trans ((Program.run_bind_ok drawn).trans ?_)
    exact Program.run_pure _ _ _

/-- Nobody else writes in the meantime, and holding the store changes nothing. -/
theorem run_guarded {β : Type} (program : Program β) :
    program.guarded.run (World.answer place) world = program.run (World.answer place) world := by
  rw [Program.run_guarded]
  rfl

/-- **Storing a record** seals it, unless the ring is locked. -/
theorem run_store (serves : world.Serves place vault key locked values) {slot : Slot}
    (admitted : StorageKey.check (vault.keyFor slot) = .ok ()) (value : α) :
    ∃ nonce world', (vault.store slot value).run (World.answer place) world =
        (if locked then .error .storeLocked else .ok (), world') ∧
      world'.Serves place vault key locked
        (if locked then values else
          values.insert (vault.keyFor slot) (vault.blob key nonce value)) := by
  obtain ⟨nonce, world₁, done, serves₁⟩ := run_sealed serves (Record.encode value)
  obtain ⟨world₂, written, serves₂⟩ := serves₁.write admitted (vault.blob key nonce value)
  rw [Vault.store, run_guarded, Vault.write]
  cases locked with
  | true => exact ⟨nonce, world₁, Program.run_bind_error done, serves₁⟩
  | false =>
    refine ⟨nonce, world₂, (Program.run_bind_ok done).trans (run_about_ok ?_), serves₂⟩
    rw [blob] at written
    rw [Program.run_write, written]

theorem run_remove (serves : world.Serves place vault key locked values) (slot : Slot) :
    ∃ world', (vault.remove slot).run (World.answer place) world = (.ok (), world') ∧
      world'.Serves place vault key locked (values.erase (vault.keyFor slot)) := by
  obtain ⟨world', removed, serves'⟩ := serves.remove (vault.keyFor slot)
  refine ⟨world', run_about_ok ?_, serves'⟩
  rw [Program.run_remove, removed]

/-- **Emptying a slot** asks for no key. -/
theorem run_clear (serves : world.Serves place vault key locked values) (slot : Slot) :
    ∃ world', (vault.clear slot).run (World.answer place) world = (.ok (), world') ∧
      world'.Serves place vault key locked (values.erase (vault.keyFor slot)) := by
  rw [Vault.clear, run_guarded]
  exact run_remove serves slot

/-! ### The refresh token -/

/-- Taking out nothing. -/
theorem run_takeRefreshToken_none (serves : world.Serves place vault key locked values)
    (empty : values.get? (vault.keyFor .refreshToken) = none) :
    vault.takeRefreshToken.run (World.answer place) world = (.ok none, world) := by
  rw [takeRefreshToken, run_guarded, Program.run_attempt_bind (run_read_none serves empty)]
  exact Program.run_pure _ _ _

/-- **Taking out the refresh token** empties its slot, unless the ring is locked. -/
theorem run_takeRefreshToken_some (serves : world.Serves place vault key locked values)
    {nonce : Gcm.Nonce} {token : String}
    (stored : values.get? (vault.keyFor .refreshToken) = some (vault.blob key nonce token)) :
    ∃ world', vault.takeRefreshToken.run (World.answer place) world =
        (if locked then .error .storeLocked else .ok (some token), world') ∧
      world'.Serves place vault key locked
        (if locked then values else values.erase (vault.keyFor .refreshToken)) := by
  obtain ⟨world₁, opened, serves₁⟩ := run_read_some serves (Record.faithful_text token) stored
  obtain ⟨world₂, cleared, serves₂⟩ := run_remove serves₁ .refreshToken
  rw [takeRefreshToken, run_guarded, Program.run_attempt_bind opened]
  cases locked with
  | true => exact ⟨world₁, Program.run_fail _ _ _, serves₁⟩
  | false =>
    refine ⟨world₂, (Program.run_bind_ok cleared).trans ?_, serves₂⟩
    exact Program.run_pure _ _ _

/-! ### All slots -/

/-- Removing keys one after the other. -/
theorem run_removeKeys (serves : world.Serves place vault key locked values)
    (names : List String) :
    ∃ world', (removeKeys names).run (World.answer place) world = (.ok (), world') ∧
      world'.Serves place vault key locked (names.foldl Table.erase values) := by
  induction names generalizing world values with
  | nil => exact ⟨world, rfl, serves⟩
  | cons name names ih =>
    obtain ⟨removed, erased, serves₁⟩ := serves.remove name
    obtain ⟨world', run, serves'⟩ := ih serves₁
    refine ⟨world', ?_, serves'⟩
    have gone : (about "delete" name (.remove name)).run (World.answer place) world =
        (.ok (), removed) := by
      refine run_about_ok ?_
      rw [Program.run_remove, erased]
    rw [removeKeys, Program.run_bind_ok gone]
    exact run

/-- Erased keys have no value afterwards. -/
theorem get?_foldl_erase {name : String} (names : List String) (values : Table Bytes)
    (mem : name ∈ names ∨ values.get? name = none) :
    (names.foldl Table.erase values).get? name = none := by
  induction names generalizing values with
  | nil => exact mem.resolve_left List.not_mem_nil
  | cons other names ih =>
    refine ih _ ?_
    by_cases same : name = other
    · subst same
      exact .inr (Table.get?_erase_self values name)
    · rw [Table.get?_erase_of_ne values same]
      exact mem.imp_left fun mem => (List.mem_cons.1 mem).resolve_left same

/-- **Emptying every slot** asks for no key. -/
theorem run_clearAll (serves : world.Serves place vault key locked values) :
    ∃ world' values', vault.clearAll.run (World.answer place) world = (.ok (), world') ∧
      world'.Serves place vault key locked values' ∧
      ∀ slot, values'.get? (vault.keyFor slot) = none := by
  obtain ⟨world', removed, serves'⟩ :=
    run_removeKeys serves (values.keysFrom vault.keyStart)
  refine ⟨world', _, ?_, serves', fun slot => get?_foldl_erase _ _ ?_⟩
  · have listed : (about "list" vault.keyStart (.list vault.keyStart)).run (World.answer place)
        world = (.ok (values.keysFrom vault.keyStart), world) := by
      refine run_about_ok ?_
      rw [Program.run_list, serves.list]
    rw [clearAll, run_guarded, Program.run_bind_ok listed]
    exact removed
  · cases found : values.get? (vault.keyFor slot) with
    | none => exact .inr rfl
    | some value => exact .inl (Table.mem_keysFrom found (isPrefixOf_keyFor vault slot))

end Vault

end GatewaySession
