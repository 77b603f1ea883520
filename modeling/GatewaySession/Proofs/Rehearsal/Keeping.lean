import GatewaySession.Proofs.Vault.Keeping
import GatewaySession.Proofs.Vault.Serving

/-!
# Rehearsals keep what is stored

A rehearsed world is made to fail: operations of its storage have faults, its key ring is locked,
its gateway refuses, and hooks and users do things in between. Through all of this it keeps what is
stored, as long as its storage works in itself and the key of the vault is in the ring.

## Main definitions

* `Rehearsal.World.stored` — what is stored in a world
* `Rehearsal.World.Keeps` — worlds that keep what is stored
* `Rehearsal.World.keeper` — such worlds as surroundings

## Main results

* `Rehearsal.World.answer_leaves` — what an effect leaves, for each effect
-/

namespace GatewaySession

namespace Storage.Holds

variable {storage storage' : Storage} {values : Table Bytes}

/-- Only admitted keys are written. -/
theorem check_of_put (holds : Holds storage values) {key : String} {value : Bytes}
    (put : storage.put key value = .ok storage') : StorageKey.check key = .ok () := by
  cases checked : StorageKey.check key with
  | ok _ => rfl
  | error error =>
    cases holds with
    | memory =>
      rw [Storage.put, MemoryStorage.put, checked] at put
      cases put
    | missing =>
      rw [Storage.put, FileState.put, checked] at put
      cases put
    | file =>
      rw [Storage.put, FileState.put, checked] at put
      cases put

end Storage.Holds

namespace Rehearsal.World

/-! ### What does not touch the storage -/

/-- Whether a world has the storage and the keys of another. -/
def SameStore (before after : World) : Prop :=
  after.storage = before.storage ∧ after.ring.keys = before.ring.keys

variable {α : Type}

namespace SameStore

theorem refl (world : World) : world.SameStore world := ⟨rfl, rfl⟩

theorem trans {first second third : World} (h : first.SameStore second)
    (h' : second.SameStore third) : first.SameStore third :=
  ⟨h'.1.trans h.1, h'.2.trans h.2⟩

end SameStore

theorem sameStore_nonce (world : World) : world.SameStore world.nonce.2 := by
  obtain ⟨_, _, _, eq⟩ := world.exists_nonce_eq
  rw [eq]
  exact ⟨rfl, rfl⟩

theorem sameStore_replaceQueue (world : World) (k : Nat) (desk : Desk) (queue : Queue) :
    world.SameStore (world.replaceQueue k desk queue) := by
  rw [replaceQueue]
  split
  · exact ⟨rfl, rfl⟩
  · exact ⟨rfl, rfl⟩

theorem sameStore_withQueueAt (world : World) (k? : Option Nat) (missing : α)
    (operation : Queue → α × Queue) :
    world.SameStore (world.withQueueAt k? missing operation).2 := by
  unfold withQueueAt
  split
  · exact sameStore_replaceQueue world _ _ _
  · exact .refl world

theorem sameStore_submitAt (world : World) (k? : Option Nat) (request : Request) :
    world.SameStore (world.submitAt k? request).2 := by
  have same := sameStore_withQueueAt world k? 0 (·.submit request)
  cases k? with
  | none => exact same
  | some k => exact same

theorem sameStore_supplyCredentials (world : World) (id : Nat) (credential : UserCredential) :
    world.SameStore (world.supplyCredentials id credential).2 := by
  rw [supplyCredentials]
  split
  · exact .refl world
  · next desk _ =>
    exact sameStore_withQueueAt (world.cacheUser desk.seat (some credential)) _ _ _

/-- Actions of a script lock and unlock the ring, but leave storage and keys alone. -/
theorem sameStore_act (world : World) (action : Action) : world.SameStore (world.act action).2 := by
  cases action with
  | lock => exact ⟨rfl, rfl⟩
  | unlock => exact ⟨rfl, rfl⟩
  | setClock seconds => exact ⟨rfl, rfl⟩
  | submit request => exact sameStore_submitAt world world.desk? request
  | cancel id => exact sameStore_withQueueAt world world.desk? false (·.cancel id)
  | process => exact sameStore_withQueueAt world world.desk? 0 (·.process world.elapsed)
  | supplyCredentials id credential => exact sameStore_supplyCredentials world id credential
  | look => exact ⟨rfl, rfl⟩

theorem sameStore_actAll (world : World) (actions : List Action) :
    world.SameStore (world.actAll actions) := by
  rw [actAll]
  induction actions generalizing world with
  | nil => exact .refl world
  | cons action actions ih =>
    rw [List.foldl_cons]
    exact (sameStore_act world action).trans (ih _)

theorem sameStore_connect (world : World) (k? : Option Nat)
    (registration : Option DeviceIdentity) :
    world.SameStore (world.connect k? registration).2 := by
  rw [connect]
  split
  · exact .refl world
  · exact ⟨rfl, rfl⟩

theorem sameStore_cacheConnection (world : World) (k? : Option Nat)
    (connection : Option Connection) : world.SameStore (world.cacheConnection k? connection) := by
  cases k? with
  | none => exact .refl world
  | some k => exact ⟨rfl, rfl⟩

theorem sameStore_send (world : World) (request : Request) :
    world.SameStore (world.send request).2 := by
  rw [send]
  exact sameStore_actAll _ _

theorem sameStore_askUser (world : World) (k? : Option Nat) (id : Nat) (need : Need) :
    world.SameStore (world.askUser k? id need).2 := by
  rw [askUser]
  split
  · exact .refl world
  · exact sameStore_actAll _ _

/-! ### What is stored -/

/-- What is stored in a world. -/
def stored (world : World) (name : String) : Option Bytes :=
  match world.storage.get name with
  | .ok value => value
  | .error _ => none

/-- Whether a world keeps what is stored: its storage works, and the key of a vault is in its ring.
-/
def Keeps (vault : Vault) (key : Aes256.Key) (world : World) : Prop :=
  (∃ values, world.storage.Holds values) ∧ world.ring.keys.get? vault.name = some key

variable {world world' : World} {vault : Vault} {key : Aes256.Key}

theorem stored_eq {values : Table Bytes} (holds : world.storage.Holds values) (name : String) :
    world.stored name = values.get? name := by
  rw [stored, holds.get]

/-- A world keeps what another has stored, if it has its storage and its keys. -/
theorem SameStore.leaves (same : world.SameStore world') (keeps : world.Keeps vault key) :
    world'.Keeps vault key ∧ world'.stored = world.stored := by
  obtain ⟨storage, keys⟩ := same
  refine ⟨⟨?_, ?_⟩, ?_⟩
  · rw [storage]
    exact keeps.1
  · rw [keys]
    exact keeps.2
  · funext name
    rw [stored, stored, storage]

/-! ### Effects -/

variable {place : Place}

/-- Asking for a sealing key changes no stored value. The key of the vault is never drawn anew. -/
theorem sealingKey_keeps (keeps : world.Keeps vault key) (name : String) :
    (world.sealingKey name).2.Keeps vault key ∧
      (world.sealingKey name).2.stored = world.stored ∧
      ∀ other, name = vault.name → (world.sealingKey name).1 = .ok other → other = key := by
  obtain ⟨holds, keyed⟩ := keeps
  cases fault : Fault.find? world.faults .key name with
  | some error =>
    rw [sealingKey_of_fault fault]
    exact ⟨⟨holds, keyed⟩, rfl, fun _ _ failed => nomatch failed⟩
  | none =>
  cases locked : world.ring.isLocked with
  | true =>
    rw [sealingKey_of_locked fault locked]
    exact ⟨⟨holds, keyed⟩, rfl, fun _ _ failed => nomatch failed⟩
  | false =>
  cases found : world.ring.keys.get? name with
  | some present =>
    rw [sealingKey_of_known fault locked found]
    refine ⟨⟨holds, keyed⟩, rfl, ?_⟩
    intro other own given
    rw [own, keyed] at found
    exact (Except.ok.inj given).symm.trans (Option.some.inj found).symm
  | none =>
    have foreign : vault.name ≠ name := fun own => nomatch (own ▸ keyed).symm.trans found
    rw [sealingKey_of_new fault locked found]
    refine ⟨⟨holds, ?_⟩, rfl, fun _ own _ => absurd own.symm foreign⟩
    exact (Table.get?_insert_of_ne _ foreign _).trans keyed

/-- What is read without a fault is what the storage reads. -/
theorem eq_of_reading {n : Nat} {operation : Operation} {name : String}
    {read : Storage → Except Error α} {value : α}
    (done : world.reading n operation name read = .ok value) : read world.storage = .ok value := by
  rw [reading] at done
  split at done
  · cases done
  · exact done

/-- A value that is written is stored, unless the operation is made to fail. -/
theorem writing_put (keeps : world.Keeps vault key) (n : Nat) (name : String) (value : Bytes) :
    (world.writing n .put name (·.put name value)).2.Keeps vault key ∧
      (Effect.write name value).Leaves (world.writing n .put name (·.put name value)).1
        world.stored (world.writing n .put name (·.put name value)).2.stored := by
  obtain ⟨⟨values, holds⟩, keyed⟩ := keeps
  rw [writing]
  cases done : world.reading n .put name (·.put name value) with
  | error error => exact ⟨⟨⟨values, holds⟩, keyed⟩, .inl rfl⟩
  | ok storage =>
    have put : world.storage.put name value = .ok storage := eq_of_reading done
    obtain ⟨storage', put', holds'⟩ := holds.put (holds.check_of_put put) value
    obtain rfl := Except.ok.inj (put.symm.trans put')
    refine ⟨⟨⟨_, holds'⟩, keyed⟩, ?_⟩
    funext other
    rw [stored_eq holds']
    by_cases same : other = name
    · rw [same, Table.get?_insert_self, Function.update_self]
    · rw [Table.get?_insert_of_ne _ same, Function.update_of_ne same, stored_eq holds]

/-- A value that is removed is not stored, unless the operation is made to fail. -/
theorem writing_delete (keeps : world.Keeps vault key) (n : Nat) (name : String) :
    (world.writing n .delete name (·.delete name)).2.Keeps vault key ∧
      (Effect.remove name).Leaves (world.writing n .delete name (·.delete name)).1
        world.stored (world.writing n .delete name (·.delete name)).2.stored := by
  obtain ⟨⟨values, holds⟩, keyed⟩ := keeps
  rw [writing]
  cases done : world.reading n .delete name (·.delete name) with
  | error error => exact ⟨⟨⟨values, holds⟩, keyed⟩, .inl rfl⟩
  | ok storage =>
    have deleted : world.storage.delete name = .ok storage := eq_of_reading done
    obtain ⟨storage', deleted', holds'⟩ := holds.delete name
    obtain rfl := Except.ok.inj (deleted.symm.trans deleted')
    refine ⟨⟨⟨_, holds'⟩, keyed⟩, ?_⟩
    funext other
    rw [stored_eq holds']
    by_cases same : other = name
    · rw [same, Table.get?_erase_self, Function.update_self]
    · rw [Table.get?_erase_of_ne _ same, Function.update_of_ne same, stored_eq holds]

/-- **A world keeps what is stored**, whatever effect it answers. -/
theorem answer_leaves (keeps : world.Keeps vault key) (effect : Effect) :
    (answer place effect world).2.Keeps vault key ∧
      effect.Leaves (answer place effect world).1 world.stored
        (answer place effect world).2.stored := by
  cases effect with
  | write name value => exact writing_put keeps place.seat name value
  | remove name => exact writing_delete keeps place.seat name
  | sealingKey name =>
    obtain ⟨keeps', same, -⟩ := sealingKey_keeps keeps name
    exact ⟨keeps', same⟩
  | nonce => exact (sameStore_nonce world).leaves keeps
  | cacheConnection connection =>
    exact (sameStore_cacheConnection world place.desk connection).leaves keeps
  | connect identity => exact (sameStore_connect world place.desk identity).leaves keeps
  | send _ _ request => exact (sameStore_send world request).leaves keeps
  | ask id need => exact (sameStore_askUser world place.desk id need).leaves keeps
  | _ => exact SameStore.leaves ⟨rfl, rfl⟩ keeps

/-- **A rehearsed world** keeps what is stored. -/
def keeper (place : Place) (vault : Vault) (key : Aes256.Key) : Keeper World vault key where
  handle := answer place
  stored := stored
  IsSound := (·.Keeps vault key)
  isSound effect keeps := (answer_leaves keeps effect).1
  leaves effect keeps := (answer_leaves keeps effect).2
  read name value keeps done := by
    obtain ⟨⟨values, holds⟩, -⟩ := keeps
    rw [stored_eq holds]
    exact Except.ok.inj ((eq_of_reading done).symm.trans (holds.get name))
  list name keeps done start filled := by
    obtain ⟨⟨values, holds⟩, -⟩ := keeps
    rw [stored_eq holds] at filled
    obtain ⟨value, found⟩ := Option.ne_none_iff_exists'.1 filled
    rw [Except.ok.inj ((eq_of_reading done).symm.trans (holds.list _))]
    exact Table.mem_keysFrom found start
  sealingKey other keeps := (sealingKey_keeps keeps vault.name).2.2 other rfl

/-! ### Worlds that work -/

namespace Serves

variable {locked : Bool} {values : Table Bytes}

/-- A world that works for a vault keeps what is stored. -/
theorem keeps (serves : world.Serves place vault key locked values) : world.Keeps vault key :=
  ⟨⟨values, serves.storage⟩, serves.key⟩

/-- The values of its storage are what is stored. -/
theorem inSlot (serves : world.Serves place vault key locked values) (slot : Slot) :
    (keeper place vault key).inSlot world slot = values.get? (vault.keyFor slot) :=
  stored_eq serves.storage _

/-- Locking and unlocking the ring. -/
theorem setLocked (serves : world.Serves place vault key locked values) (locked' : Bool) :
    ({ world with ring := { world.ring with isLocked := locked' } } : World).Serves place vault key
      locked' values :=
  ⟨serves.storage, serves.storageFaults, serves.faults, serves.key, rfl⟩

/-- Caching or dropping a credential of the user. -/
theorem cacheUser (serves : world.Serves place vault key locked values)
    (credential : Option UserCredential) :
    (world.cacheUser place.seat credential).Serves place vault key locked values :=
  ⟨serves.storage, (world.faultsOf_cacheUser _ _).trans serves.storageFaults, serves.faults,
    serves.key, serves.isLocked⟩

/-- Caching or dropping a connection. -/
theorem cacheConnection (serves : world.Serves place vault key locked values)
    (connection : Option Connection) :
    (world.cacheConnection place.desk connection).Serves place vault key locked values := by
  cases place with
  | mk seat desk =>
  cases desk with
  | none => exact serves
  | some k =>
    exact ⟨serves.storage, serves.storageFaults, serves.faults, serves.key, serves.isLocked⟩

end Serves

end Rehearsal.World

end GatewaySession
