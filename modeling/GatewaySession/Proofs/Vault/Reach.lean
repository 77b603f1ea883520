import GatewaySession.Proofs.Storage.Frames
import GatewaySession.Proofs.Vault.Refinement
import GatewaySession.Proofs.Vault.Watching

/-!
# How far the operations of a vault reach

The name of a vault and the name of a slot make a storage key, with a dot between them. Names may
hold dots, names of slots do not, so the last dot tells where the name of the vault ends and no key
belongs to two vaults. Emptying every slot goes by how keys begin, and that does not tell vaults
apart: the keys of a vault named `a.b` begin as those of a vault named `a`. The one vault is said
to enclose the other.

An operation writes and removes within its reach only, which is its own slots, or all that begins as
its keys do; it asks for no key but its own. What lies outside is left alone in any world, whatever
fails in it.

## Main definitions

* `Vault.Encloses` — whether emptying every slot of one vault reaches another
* `Vault.Operation.Reaches` — the storage keys an operation may write or remove
* `Rehearsal.World.Leaves` — what is left alone

## Main results

* `Vault.eq_of_keyFor_eq` — no key belongs to two vaults
* `Vault.isPrefixOf_keyFor_iff` — whose keys begin as those of a vault
* `Vault.Operation.leaves` — an operation leaves alone what it does not reach
* `Vault.clearAll_cases` — emptying every slot where removing works
-/

namespace GatewaySession

open Rehearsal
open Program (Meets)

/-! ### Names -/

theorem Slot.not_mem_name (slot : Slot) : '.' ∉ slot.name.toList := by
  cases slot <;> decide

namespace Vault

variable {vault other : Vault}

/-- Whether the name of a vault begins with the name of another and a dot. -/
def Encloses (vault other : Vault) : Prop := vault.keyStart.toList <+: other.name.toList

instance : Decidable (vault.Encloses other) :=
  inferInstanceAs (Decidable (vault.keyStart.toList <+: other.name.toList))

/-- A vault that encloses another has the shorter name. -/
theorem Encloses.length_lt (h : vault.Encloses other) :
    vault.name.toList.length < other.name.toList.length := by
  have length := List.IsPrefix.length_le h
  rw [keyStart, String.toList_append, List.length_append] at length
  exact length

theorem Encloses.asymm (h : vault.Encloses other) : ¬other.Encloses vault := fun back =>
  absurd (Nat.lt_trans h.length_lt back.length_lt) (Nat.lt_irrefl _)

theorem toList_keyStart (vault : Vault) :
    vault.keyStart.toList = vault.name.toList ++ ['.'] := by
  rw [keyStart, String.toList_append]
  rfl

theorem eq_of_name_eq (same : vault.name.toList = other.name.toList) : vault = other := by
  cases vault
  cases other
  exact congrArg Vault.mk (String.toList_inj.1 same)

/-- What begins as the keys of two vaults do: they are one, or one of them encloses the other. -/
theorem enclosing_of_isPrefixOf {name : String}
    (begins : vault.keyStart.toList.isPrefixOf name.toList = true)
    (begins' : other.keyStart.toList.isPrefixOf name.toList = true) :
    vault = other ∨ vault.Encloses other ∨ other.Encloses vault := by
  have nested {vault other : Vault} (h : vault.keyStart.toList <+: other.keyStart.toList) :
      vault = other ∨ vault.Encloses other := by
    rw [other.toList_keyStart, List.prefix_concat_iff] at h
    refine h.imp_left fun same => ?_
    rw [vault.toList_keyStart] at same
    exact eq_of_name_eq (List.append_cancel_right same)
  obtain h | h := List.prefix_or_prefix_of_prefix (List.isPrefixOf_iff_prefix.1 begins)
    (List.isPrefixOf_iff_prefix.1 begins')
  · exact (nested h).imp_right .inl
  · exact (nested h).elim (fun same => .inl same.symm) fun encloses => .inr (.inr encloses)

/-- **A key begins as those of a vault** if it is one of its keys, or one of a vault that it
encloses. -/
theorem isPrefixOf_keyFor_iff (slot : Slot) :
    vault.keyStart.toList.isPrefixOf (other.keyFor slot).toList = true ↔
      vault = other ∨ vault.Encloses other := by
  have key : (other.keyFor slot).toList = other.name.toList ++ '.' :: slot.name.toList := by
    rw [keyFor, String.toList_append, toList_keyStart, List.append_assoc, List.singleton_append]
  rw [List.isPrefixOf_iff_prefix, Encloses, key, toList_keyStart]
  constructor
  · intro begins
    obtain within | beyond :=
      List.prefix_or_prefix_of_prefix begins (List.prefix_append _ _)
    · exact .inr within
    · obtain same | ⟨rest, eq⟩ := List.prefix_concat_iff.1 beyond
      · exact .inr (same ▸ List.prefix_rfl)
      · -- What is left of the longer name would stand before the name of the slot.
        rw [← eq, List.append_assoc, List.prefix_append_right_inj] at begins
        cases rest with
        | nil =>
          rw [List.append_nil] at eq
          exact .inl (eq_of_name_eq eq.symm)
        | cons first rest =>
          obtain ⟨-, within⟩ := List.cons_prefix_cons.1 begins
          exact absurd (within.subset (List.mem_append_right _ (List.mem_singleton_self _)))
            slot.not_mem_name
  · rintro (rfl | within)
    · exact ⟨slot.name.toList, by rw [List.append_assoc]; rfl⟩
    · exact within.trans (List.prefix_append _ _)

/-- **No key belongs to two vaults.** -/
theorem eq_of_keyFor_eq {slot slot' : Slot} (h : vault.keyFor slot = other.keyFor slot') :
    vault = other := by
  have begins := (isPrefixOf_keyFor_iff slot').1 (h ▸ isPrefixOf_keyFor vault slot)
  have begins' := (isPrefixOf_keyFor_iff slot).1 (h.symm ▸ isPrefixOf_keyFor other slot')
  obtain same | encloses := begins
  · exact same
  · exact begins'.elim Eq.symm fun back => absurd back encloses.asymm

/-! ### What operations do -/

/-- A program that uses the sealing key of one name only, and writes and removes certain storage
keys only. It may count on it that keys that are listed begin as they were asked for. -/
def reach (name : String) (reaches : String → Prop) : Watch Unit where
  permits _
    | .read _ | .list _ | .nonce | .time | .hold | .release => True
    | .sealingKey other => other = name
    | .write key _ | .remove key => reaches key
    | _ => False
  grants
    | .list start, .ok keys => ∀ key ∈ keys, start.toList.isPrefixOf key.toList = true
    | _, _ => True
  next _ _ _ := ()

section

variable {α : Type} [Record α] {reaches : String → Prop} {slot : Slot}

theorem reach_read : (vault.read slot : Program (Option α)).Meets (reach vault.name reaches)
    (fun _ _ => True) () := by
  refine Meets.bind (Watch.meets_about ⟨trivial, fun reply _ => ?_⟩)
  rcases reply with source | (_ | blob)
  · trivial
  · trivial
  refine Meets.bind (Meets.bind ?_)
  cases Envelope.checkLength blob with
  | error error => trivial
  | ok _ =>
  refine ⟨rfl, fun reply _ => ?_⟩
  cases reply with
  | error error => trivial
  | ok key =>
  show Meets _ _ _ (Program.ofExcept (Envelope.unwrapWith key vault.name blob))
  cases Envelope.unwrapWith key vault.name blob with
  | error error => trivial
  | ok plaintext =>
  refine Meets.bind ?_
  cases (recordOf slot plaintext : Except Error α) with
  | error error => trivial
  | ok value => trivial

theorem reach_remove {name key : String} (reached : reaches key) :
    (about "delete" key (.remove key)).Meets (reach name reaches) (fun _ _ => True) () :=
  Watch.meets_about ⟨reached, fun _ _ => trivial⟩

theorem reach_clear {name : String} (reached : reaches (vault.keyFor slot)) :
    (vault.clear slot).Meets (reach name reaches) (fun _ _ => True) () := by
  have removed : (vault.remove slot).Meets (reach name reaches) (fun _ _ => True) () :=
    reach_remove reached
  exact Watch.meets_guarded trivial (removed.mono fun _ _ _ => ⟨trivial, trivial⟩)

theorem reach_store {value : α} (reached : reaches (vault.keyFor slot)) :
    (vault.store slot value).Meets (reach vault.name reaches) (fun _ _ => True) () := by
  refine Watch.meets_guarded trivial (Meets.bind (Meets.bind ⟨rfl, fun reply _ => ?_⟩))
  cases reply with
  | error error => exact ⟨trivial, trivial⟩
  | ok key =>
  exact ⟨trivial, fun nonce _ => Watch.meets_about
    ⟨reached, fun _ _ => ⟨trivial, trivial⟩⟩⟩

theorem reach_takeRefreshToken (reached : reaches (vault.keyFor .refreshToken)) :
    vault.takeRefreshToken.Meets (reach vault.name reaches) (fun _ _ => True) () := by
  have removed : (vault.remove .refreshToken).Meets (reach vault.name reaches)
      (fun _ _ => True) () := reach_remove reached
  refine Watch.meets_guarded trivial (Meets.rescue (reach_read.mono ?_))
  rintro _ (error | (_ | token)) -
  · split
    · next eq => cases eq
    · next eq => cases eq
    · refine Meets.bind (removed.mono fun _ result _ => ?_)
      cases result <;> exact ⟨trivial, trivial⟩
    · exact ⟨trivial, trivial⟩
  · exact ⟨trivial, trivial⟩
  · refine Meets.bind (removed.mono fun _ result _ => ?_)
    cases result <;> exact ⟨trivial, trivial⟩

theorem reach_removeKeys {keys : List String} (reached : ∀ key ∈ keys, reaches key) :
    (removeKeys keys).Meets (reach vault.name reaches) (fun _ _ => True) () := by
  induction keys with
  | nil => trivial
  | cons key keys ih =>
    obtain ⟨first, rest⟩ := List.forall_mem_cons.1 reached
    refine Meets.bind ((reach_remove first).mono fun _ result _ => ?_)
    cases result with
    | error error => trivial
    | ok _ => exact ih rest

theorem reach_clearAll
    (reached : ∀ key, vault.keyStart.toList.isPrefixOf key.toList = true → reaches key) :
    vault.clearAll.Meets (reach vault.name reaches) (fun _ _ => True) () := by
  refine Watch.meets_guarded trivial (Meets.bind (Watch.meets_about ⟨trivial, ?_⟩))
  intro reply begin
  cases reply with
  | error error => exact ⟨trivial, trivial⟩
  | ok keys =>
    exact (reach_removeKeys fun key mem => reached key (begin key mem)).mono
      fun _ _ _ => ⟨trivial, trivial⟩

end

/-- The storage keys that an operation may write or remove. -/
def Operation.Reaches (vault : Vault) : Operation → String → Prop
  | .set slot _, name | .clear slot, name => name = vault.keyFor slot
  | .takeRefreshToken, name => name = vault.keyFor .refreshToken
  | .clearAll, name => vault.keyStart.toList.isPrefixOf name.toList = true
  | .get _, _ | .lock, _ | .unlock, _ => False

end Vault

/-! ### What is left alone -/

/-- What is left alone in a world by one who uses the sealing key of a name, and writes and removes
certain storage keys. -/
structure Rehearsal.World.Leaves (before : World) (name : String) (reaches : String → Prop)
    (after : World) : Prop where
  /-- The same operations of the storage fail. -/
  akin : before.storage.IsAkin after.storage
  /-- Other storage keys are read as before. -/
  get : ∀ key, ¬reaches key → after.storage.get key = before.storage.get key
  /-- Other storage keys are there or not as before. -/
  has : ∀ key, ¬reaches key → (after.storage.Has key ↔ before.storage.Has key)
  /-- The sealing keys of other names are the same. -/
  sealing : ∀ other, other ≠ name → after.ring.keys.get? other = before.ring.keys.get? other
  /-- The ring is locked or not as before. -/
  isLocked : after.ring.isLocked = before.ring.isLocked
  /-- The operations that fail are the same. -/
  faults : after.faults = before.faults
  /-- What belongs to each session is the same. -/
  seats : after.seats = before.seats
  /-- The clock is the same. -/
  now : after.now = before.now

namespace Rehearsal.World.Leaves

variable {before between after : World} {name : String} {reaches : String → Prop}

theorem refl (world : World) (name : String) (reaches : String → Prop) :
    world.Leaves name reaches world :=
  ⟨.refl _, fun _ _ => rfl, fun _ _ => Iff.rfl, fun _ _ => rfl, rfl, rfl, rfl, rfl⟩

theorem trans (first : before.Leaves name reaches between)
    (second : between.Leaves name reaches after) : before.Leaves name reaches after where
  akin := first.akin.trans second.akin
  get key outside := (second.get key outside).trans (first.get key outside)
  has key outside := (second.has key outside).trans (first.has key outside)
  sealing other ne := (second.sealing other ne).trans (first.sealing other ne)
  isLocked := second.isLocked.trans first.isLocked
  faults := second.faults.trans first.faults
  seats := second.seats.trans first.seats
  now := second.now.trans first.now

/-- Nothing is touched that is to be left alone. -/
theorem of_same (storage : after.storage = before.storage) (ring : after.ring = before.ring)
    (faults : after.faults = before.faults) (seats : after.seats = before.seats)
    (now : after.now = before.now) : before.Leaves name reaches after where
  akin := storage ▸ .refl _
  get _ _ := by rw [storage]
  has _ _ := by rw [storage]
  sealing _ _ := by rw [ring]
  isLocked := by rw [ring]
  faults := faults
  seats := seats
  now := now

/-- A change of one storage key. -/
theorem storing {world : World} {storage : Storage} {key : String}
    (spares : world.storage.Spares key storage) (reached : reaches key) :
    world.Leaves name reaches { world with storage } where
  akin := spares.akin
  get other outside := spares.get other fun same => outside (same ▸ reached)
  has other outside := spares.has other fun same => outside (same ▸ reached)
  sealing _ _ := rfl
  isLocked := rfl
  faults := rfl
  seats := rfl
  now := rfl

theorem faultsOf (leaves : before.Leaves name reaches after) (n : Nat) :
    after.faultsOf n = before.faultsOf n := by
  rw [World.faultsOf, World.faultsOf, World.seat, World.seat, leaves.seats, leaves.faults]

end Rehearsal.World.Leaves

/-- An operation of the storage that fails by a fault or of its own leaves everything as it was. -/
theorem Rehearsal.World.writing_cases (world : World) (n : Nat) (operation : Rehearsal.Operation)
    (name : String) (write : Storage → Except Error Storage) :
    (∃ error, Fault.find? (world.faultsOf n) operation name = some error ∧
        world.writing n operation name write = (.error error, world)) ∨
      Fault.find? (world.faultsOf n) operation name = none ∧
        world.writing n operation name write = match write world.storage with
          | .ok storage => (.ok (), { world with storage })
          | .error error => (.error error, world) := by
  rw [World.writing, World.reading]
  cases Fault.find? (world.faultsOf n) operation name with
  | some error => exact .inl ⟨error, rfl, rfl⟩
  | none => exact .inr ⟨rfl, rfl⟩

namespace Rehearsal.World

variable {world : World} {name key : String} {reaches : String → Prop}

/-- An operation of the storage on one key that is reached. -/
theorem leaves_writing {write : Storage → Except Error Storage} (reached : reaches key)
    (spares : ∀ storage, write world.storage = .ok storage → world.storage.Spares key storage)
    (n : Nat) (operation : Rehearsal.Operation) :
    world.Leaves name reaches (world.writing n operation key write).2 := by
  obtain ⟨error, -, failed⟩ | ⟨-, done⟩ := world.writing_cases n operation key write
  · rw [failed]
    exact .refl _ _ _
  · rw [done]
    cases written : write world.storage with
    | error error => exact .refl _ _ _
    | ok storage => exact .storing (spares storage written) reached

theorem leaves_put (reached : reaches key) (n : Nat) (value : Bytes) :
    world.Leaves name reaches (world.writing n .put key (·.put key value)).2 := by
  refine leaves_writing reached (fun storage written => ?_) n .put
  obtain ⟨error, failed, -⟩ | ⟨after, _, done, -, spares, -⟩ :=
    (Storage.IsAkin.refl world.storage).put key value value
  · rw [written] at failed
    cases failed
  · rw [written] at done
    cases done
    exact spares

theorem leaves_delete (reached : reaches key) (n : Nat) :
    world.Leaves name reaches (world.writing n .delete key (·.delete key)).2 := by
  refine leaves_writing reached (fun storage removed => ?_) n .delete
  obtain ⟨-, error, failed⟩ | ⟨-, after, done, spares, -⟩ := world.storage.delete_cases key
  · rw [removed] at failed
    cases failed
  · rw [removed] at done
    cases done
    exact spares

theorem leaves_nonce : world.Leaves name reaches world.nonce.2 := by
  obtain ⟨nonce, drawn, nonces, eq⟩ := world.exists_nonce_eq
  rw [eq]
  exact .of_same rfl rfl rfl rfl rfl

/-- A sealing key that is drawn is added under its name. -/
theorem leaves_sealingKey : world.Leaves name reaches (world.sealingKey name).2 := by
  cases fault : Fault.find? world.faults .key name with
  | some error =>
    rw [sealingKey_of_fault fault]
    exact .refl _ _ _
  | none =>
  cases locked : world.ring.isLocked with
  | true =>
    rw [sealingKey_of_locked fault locked]
    exact .of_same rfl rfl rfl rfl rfl
  | false =>
  cases known : world.ring.keys.get? name with
  | some key =>
    rw [sealingKey_of_known fault locked known]
    exact .of_same rfl rfl rfl rfl rfl
  | none =>
    rw [sealingKey_of_new fault locked known]
    exact { Leaves.refl world name reaches with
      sealing := fun other ne => Table.get?_insert_of_ne _ ne _ }

/-- Keys that are listed begin as was asked for. -/
theorem grants_list (world : World) (n : Nat) (start : String) :
    (Vault.reach name reaches).grants (.list start)
      (world.reading n .list start (·.list start)) := by
  rw [World.reading]
  cases Fault.find? (world.faultsOf n) .list start with
  | some error => trivial
  | none =>
    cases listed : world.storage.list start with
    | error error => trivial
    | ok keys => exact fun key mem => ((Storage.mem_list_iff listed key).1 mem).1

/-- What one effect leaves alone, where keys that are listed begin as they should. -/
theorem leaves_answer {place : Place} {effect : Effect}
    (permitted : (Vault.reach name reaches).permits () effect) :
    (Vault.reach name reaches).grants effect (World.answer place effect world).1 ∧
      world.Leaves name reaches (World.answer place effect world).2 := by
  cases effect with
  | list start => exact ⟨world.grants_list place.seat start, .refl _ _ _⟩
  | sealingKey other =>
    obtain rfl : other = name := permitted
    exact ⟨trivial, leaves_sealingKey⟩
  | nonce => exact ⟨trivial, leaves_nonce⟩
  | write key value => exact ⟨trivial, leaves_put permitted place.seat value⟩
  | remove key => exact ⟨trivial, leaves_delete permitted place.seat⟩
  | read | time | hold | release => exact ⟨trivial, .refl _ _ _⟩
  | _ => exact permitted.elim

end Rehearsal.World

/-- A run leaves alone what it does not reach. -/
theorem Program.Meets.leaves {α : Type} {name : String} {reaches : String → Prop}
    {post : Unit → Except Error α → Prop} {program : Program α}
    (h : program.Meets (Vault.reach name reaches) post ()) (place : Place) (world : World) :
    world.Leaves name reaches (program.run (World.answer place) world).2 := by
  have run : ∃ last, world.Leaves name reaches (program.run (World.answer place) world).2 ∧
      post last (program.run (World.answer place) world).1 := by
    refine h.run (fun _ last => world.Leaves name reaches last) ?_ world (.refl _ _ _)
    intro _ last effect leaves permitted
    obtain ⟨granted, leaves'⟩ := World.leaves_answer permitted
    exact ⟨granted, leaves.trans leaves'⟩
  obtain ⟨_, leaves, -⟩ := run
  exact leaves

namespace Vault

variable {vault other : Vault}

/-- **An operation keeps to its reach.** -/
theorem Operation.meets_reach {operation : Operation} {program : Program Answer}
    (performed : operation.program? vault = some program) :
    program.Meets (reach vault.name (operation.Reaches vault)) (fun _ _ => True) () := by
  have answered {α : Type} {inner : Program α} {f : α → Answer} {reaches : String → Prop}
      (h : inner.Meets (reach vault.name reaches) (fun _ _ => True) ()) :
      (f <$> inner).Meets (reach vault.name reaches) (fun _ _ => True) () := by
    rw [map_eq_pure_bind]
    refine Meets.bind (h.mono fun _ result _ => ?_)
    cases result <;> trivial
  cases operation with
  | get slot =>
    cases performed
    rw [get_eq_read]
    exact answered reach_read
  | set slot value =>
    cases performed
    rw [set_eq_store]
    exact answered (reach_store (show Reaches vault (.set slot value) _ from rfl))
  | takeRefreshToken =>
    cases performed
    exact answered (reach_takeRefreshToken (show Reaches vault .takeRefreshToken _ from rfl))
  | clear slot =>
    cases performed
    exact answered (reach_clear (show Reaches vault (.clear slot) _ from rfl))
  | clearAll =>
    cases performed
    exact answered (reach_clearAll fun _ begins => begins)
  | lock => cases performed
  | unlock => cases performed

/-- **An operation leaves alone what it does not reach**, in any world. -/
theorem Operation.leaves (vault : Vault) {operation : Operation} {program : Program Answer}
    (performed : operation.program? vault = some program) (place : Place) (world : World) :
    world.Leaves vault.name (operation.Reaches vault)
      (program.run (World.answer place) world).2 :=
  (meets_reach performed).leaves place world

/-- What an operation reaches of another vault: nothing, unless it empties every slot and the vault
encloses the other. -/
theorem Operation.not_reaches (ne : vault ≠ other) {operation : Operation}
    (apart : operation = .clearAll → ¬vault.Encloses other) (slot : Slot) :
    ¬operation.Reaches vault (other.keyFor slot) := by
  intro reached
  cases operation with
  | get slot => exact reached
  | set slot' value => exact ne (eq_of_keyFor_eq (Eq.symm reached))
  | takeRefreshToken => exact ne (eq_of_keyFor_eq (Eq.symm reached))
  | clear slot' => exact ne (eq_of_keyFor_eq (Eq.symm reached))
  | clearAll => exact ((isPrefixOf_keyFor_iff slot).1 reached).elim ne (apart rfl)
  | lock => exact reached
  | unlock => exact reached

/-- Whether two vaults have different names, and neither encloses the other. -/
def IsApart (vault other : Vault) : Prop :=
  vault ≠ other ∧ ¬vault.Encloses other ∧ ¬other.Encloses vault

instance : Decidable (vault.IsApart other) :=
  inferInstanceAs (Decidable (vault ≠ other ∧ ¬vault.Encloses other ∧ ¬other.Encloses vault))

/-- An operation reaches nothing that begins as the keys of a vault that is apart. -/
theorem Operation.not_reaches_of_isApart (apart : other.IsApart vault) {operation : Operation}
    {name : String} (begins : other.keyStart.toList.isPrefixOf name.toList = true) :
    ¬operation.Reaches vault name := by
  intro reached
  obtain ⟨ne, outer, inner⟩ := apart
  have own (slot : Slot) (same : name = vault.keyFor slot) : False := by
    rw [same, isPrefixOf_keyFor_iff] at begins
    exact begins.elim ne outer
  cases operation with
  | get slot => exact reached
  | set slot value => exact own slot reached
  | takeRefreshToken => exact own .refreshToken reached
  | clear slot => exact own slot reached
  | clearAll =>
    obtain same | encloses | encloses := enclosing_of_isPrefixOf begins reached
    · exact ne same
    · exact outer encloses
    · exact inner encloses
  | lock => exact reached
  | unlock => exact reached

theorem Operation.perform_of_program? {operation : Operation} {program : Program Answer}
    (performed : operation.program? vault = some program) (place : Place) (world : World) :
    operation.perform vault place world = program.run (World.answer place) world := by
  cases operation <;> cases performed <;> rfl

/-! ### Emptying every slot -/

/-- A world where removing works at a seat, whatever else fails. -/
def Removes (world : World) (n : Nat) : Prop :=
  world.storage.Removes ∧ ∀ name, Fault.find? (world.faultsOf n) .delete name = none

/-- Removing keys where removing works changes nothing but storage. -/
theorem removeKeys_removes {world : World} {place : Place} (removes : Removes world place.seat)
    (names : List String) :
    ∃ storage, (removeKeys names).run (World.answer place) world =
        (.ok (), { world with storage }) ∧ world.storage.IsAkin storage ∧
      (∀ name ∈ names, ¬storage.Has name) ∧
      ∀ name, name ∉ names → (storage.Has name ↔ world.storage.Has name) := by
  induction names generalizing world with
  | nil => exact ⟨_, rfl, .refl _, fun _ mem => absurd mem List.not_mem_nil, fun _ _ => Iff.rfl⟩
  | cons name names ih =>
    obtain ⟨fails, -⟩ | ⟨-, storage, deleted, spares, gone⟩ := world.storage.delete_cases name
    · exact absurd removes.1 fails
    have removed : (about "delete" name (.remove name)).run (World.answer place) world =
        (.ok (), { world with storage }) := by
      refine run_about_ok ?_
      show world.writing place.seat .delete name (·.delete name) = _
      obtain ⟨error, failed, -⟩ | ⟨-, done⟩ :=
        world.writing_cases place.seat .delete name (·.delete name)
      · rw [removes.2] at failed
        cases failed
      · rw [done, deleted]
    have removes' : Removes { world with storage } place.seat :=
      ⟨spares.akin.removes removes.1, removes.2⟩
    obtain ⟨last, run, akin, empty, same⟩ := ih removes'
    refine ⟨last, ?_, spares.akin.trans akin, ?_, ?_⟩
    · rw [removeKeys, Program.run_bind_ok removed]
      exact run
    · intro key mem
      by_cases again : key ∈ names
      · exact empty key again
      · obtain rfl := (List.mem_cons.1 mem).resolve_right again
        rw [same key again]
        exact gone
    · intro key absent
      rw [List.mem_cons, not_or] at absent
      rw [same key absent.2]
      exact spares.has key absent.1

/-- **Emptying every slot where removing works**: the keys cannot be listed, or nothing is left
under any key that begins as the vault's do. -/
theorem clearAll_cases (vault : Vault) {world : World} {place : Place}
    (removes : Removes world place.seat) :
    (∃ error, Fault.find? (world.faultsOf place.seat) .list vault.keyStart = some error ∧
        vault.clearAll.run (World.answer place) world =
          (.error (.storageOperation "list" vault.keyStart error), world)) ∨
      Fault.find? (world.faultsOf place.seat) .list vault.keyStart = none ∧
        ∃ storage, vault.clearAll.run (World.answer place) world =
            (.ok (), { world with storage }) ∧ world.storage.IsAkin storage ∧
          ∀ name, vault.keyStart.toList.isPrefixOf name.toList = true → ¬storage.Has name := by
  have answered : World.answer place (.list vault.keyStart) world =
      (world.reading place.seat .list vault.keyStart (·.list vault.keyStart), world) := rfl
  rw [World.reading] at answered
  rw [clearAll, run_guarded]
  cases fault : Fault.find? (world.faultsOf place.seat) .list vault.keyStart with
  | some error =>
    rw [fault] at answered
    refine .inl ⟨error, rfl, Program.run_bind_error ?_⟩
    rw [run_about, Program.run_list, answered]
  | none =>
    rw [fault] at answered
    obtain ⟨names, listed⟩ : ∃ names, world.storage.list vault.keyStart = .ok names := by
      have works := removes.1
      cases stored : world.storage with
      | memory memory => exact ⟨_, rfl⟩
      | file state =>
        rw [stored] at works
        obtain ⟨table, read⟩ := FileState.exists_document works
        exact ⟨table.keysFrom vault.keyStart, by rw [Storage.list, FileState.list, read]; rfl⟩
    simp only [listed] at answered
    obtain ⟨storage, run, akin, gone, same⟩ := removeKeys_removes removes names
    have listing : (about "list" vault.keyStart (.list vault.keyStart)).run (World.answer place)
        world = (.ok names, world) := run_about_ok answered
    refine .inr ⟨rfl, storage, (Program.run_bind_ok listing).trans run, akin,
      fun name begins present => ?_⟩
    by_cases mem : name ∈ names
    · exact gone name mem present
    · exact mem ((Storage.mem_list_iff listed name).2 ⟨begins, (same name mem).1 present⟩)

end Vault

end GatewaySession
