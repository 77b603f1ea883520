import GatewaySession.Proofs.Vault.Serving
import Mathlib.Logic.Function.Basic

/-!
# A vault is a record of six slots

Seen from outside, a vault that starts empty is a plain record with one optional value in each slot
and a flag that says whether the key store is locked. Setting writes one slot, clearing empties one
slot or all, taking the refresh token reads and empties its slot; while the flag is set, what has to
be sealed or opened is refused and nothing changes. Sealing, the JSON of the records and the
encoding of the storage do not show.

The simulation relates the plain record to the values in storage slot by slot: an empty slot has no
value, and a filled one has a sealed blob of its record under some nonce. Since the keys of
different slots differ, an operation on one slot leaves the relation of the others alone.

## Main definitions

* `Slot.Content` — the type of the record in a slot
* `Vault.Operation`, `Vault.Operation.perform` — the operations, performed in a world
* `Vault.Plain`, `Vault.Plain.answer` — the plain record, and what it answers
* `Vault.Mirrors` — the relation of the simulation

## Main results

* `Vault.perform_mirrors` — one operation
* `Vault.performAll_answers` — every sequence of operations is answered as by the plain record
-/

namespace GatewaySession

open Rehearsal

/-! ### The contents of slots -/

/-- The type of the record in a slot. -/
abbrev Slot.Content : Slot → Type
  | .accessToken => AccessToken
  | .refreshToken => String
  | .idToken => IdToken
  | .clientCredential => ClientCredential
  | .deviceIdentity => DeviceIdentity
  | .configuredClientId => String

instance : (slot : Slot) → Record slot.Content
  | .accessToken => inferInstanceAs (Record AccessToken)
  | .refreshToken => inferInstanceAs (Record String)
  | .idToken => inferInstanceAs (Record IdToken)
  | .clientCredential => inferInstanceAs (Record ClientCredential)
  | .deviceIdentity => inferInstanceAs (Record DeviceIdentity)
  | .configuredClientId => inferInstanceAs (Record String)

/-- Whether a record can be written: a registration needs a plain time. -/
def Slot.IsWritable : (slot : Slot) → slot.Content → Prop
  | .deviceIdentity, (identity : DeviceIdentity) => identity.registeredAt.IsPlain
  | _, _ => True

/-- A record that can be written is read as it was written. -/
theorem Slot.faithful : (slot : Slot) → {value : slot.Content} → slot.IsWritable value →
    Record.Faithful value
  | .accessToken, value, _ => Record.faithful_accessToken value
  | .refreshToken, value, _ => Record.faithful_text value
  | .idToken, value, _ => Record.faithful_idToken value
  | .clientCredential, value, _ => Record.faithful_clientCredential value
  | .deviceIdentity, _, plain => Record.faithful_deviceIdentity plain
  | .configuredClientId, value, _ => Record.faithful_text value

namespace Vault

/-! ### Operations -/

/-- The record of a slot. -/
def get (vault : Vault) : (slot : Slot) → Program (Option slot.Content)
  | .accessToken => vault.accessToken
  | .refreshToken => vault.refreshToken
  | .idToken => vault.idToken
  | .clientCredential => vault.clientCredential
  | .deviceIdentity => vault.deviceIdentity
  | .configuredClientId => vault.configuredClientId

/-- Stores the record of a slot. -/
def set (vault : Vault) : (slot : Slot) → slot.Content → Program Unit
  | .accessToken => vault.setAccessToken
  | .refreshToken => vault.setRefreshToken
  | .idToken => vault.setIdToken
  | .clientCredential => vault.setClientCredential
  | .deviceIdentity => vault.setDeviceIdentity
  | .configuredClientId => vault.setConfiguredClientId

theorem get_eq_read (vault : Vault) (slot : Slot) : vault.get slot = vault.read slot := by
  cases slot <;> rfl

theorem set_eq_store (vault : Vault) (slot : Slot) (value : slot.Content) :
    vault.set slot value = vault.store slot value := by
  cases slot <;> rfl

/-- An operation of a vault, or a change of the key store. -/
inductive Operation where
  /-- Look at a slot. -/
  | get (slot : Slot)
  /-- Fill a slot. -/
  | set (slot : Slot) (value : slot.Content)
  /-- Take the refresh token out. -/
  | takeRefreshToken
  /-- Empty a slot. -/
  | clear (slot : Slot)
  /-- Empty every slot. -/
  | clearAll
  /-- Lock the key store. -/
  | lock
  /-- Unlock the key store. -/
  | unlock

/-- What an operation answers. -/
inductive Answer where
  /-- The record of a slot, if there is one. -/
  | found (slot : Slot) (record : Option slot.Content)
  /-- It is done. -/
  | done

namespace Operation

/-- Whether an operation fills a slot with a record that can be written, if it fills one. -/
def IsWritable : Operation → Prop
  | set slot value => slot.IsWritable value
  | _ => True

/-- The operation as a program; the key store is changed by somebody else. -/
def program? (vault : Vault) : Operation → Option (Program Answer)
  | get slot => some (Answer.found slot <$> vault.get slot)
  | set slot value => some ((fun _ => .done) <$> vault.set slot value)
  | takeRefreshToken => some (Answer.found .refreshToken <$> vault.takeRefreshToken)
  | clear slot => some ((fun _ => .done) <$> vault.clear slot)
  | clearAll => some ((fun _ => .done) <$> vault.clearAll)
  | lock => none
  | unlock => none

/-- Performs an operation in a world. -/
def perform (vault : Vault) (place : Place) (operation : Operation) (world : World) :
    Except Error Answer × World :=
  match operation.program? vault with
  | some program => world.perform place program
  | none =>
    (.ok .done, (world.act (match operation with | lock => .lock | _ => .unlock)).2)

/-- Performs operations one after the other. -/
def performAll (vault : Vault) (place : Place) :
    List Operation → World → List (Except Error Answer) × World
  | [], world => ([], world)
  | operation :: rest, world =>
    let (answer, world) := operation.perform vault place world
    let (answers, world) := performAll vault place rest world
    (answer :: answers, world)

end Operation

/-! ### The plain record -/

/-- A record of six slots, and whether the key store is locked. -/
structure Plain where
  /-- The record of each slot, if there is one. -/
  record : (slot : Slot) → Option slot.Content
  /-- Whether the key store is locked. -/
  isLocked : Bool

namespace Plain

/-- Nothing in any slot. -/
def empty (isLocked : Bool) : Plain := ⟨fun _ => none, isLocked⟩

/-- Replaces what is in a slot. -/
def put (plain : Plain) (slot : Slot) (content : Option slot.Content) : Plain :=
  { plain with record := Function.update plain.record slot content }

/-- The record of a slot: a locked key store refuses what is there. -/
def look (plain : Plain) (slot : Slot) : Except Error Answer :=
  if plain.isLocked ∧ (plain.record slot).isSome then .error .storeLocked
  else .ok (.found slot (plain.record slot))

/-- What an operation answers, and the record after it. -/
def answer (plain : Plain) : Operation → Except Error Answer × Plain
  | .get slot => (plain.look slot, plain)
  | .set slot value =>
    if plain.isLocked then (.error .storeLocked, plain)
    else (.ok .done, plain.put slot (some value))
  | .takeRefreshToken =>
    (plain.look .refreshToken, if plain.isLocked then plain else plain.put .refreshToken none)
  | .clear slot => (.ok .done, plain.put slot none)
  | .clearAll => (.ok .done, empty plain.isLocked)
  | .lock => (.ok .done, { plain with isLocked := true })
  | .unlock => (.ok .done, { plain with isLocked := false })

/-- The answers to operations one after the other, and the record after them. -/
def answerAll : List Operation → Plain → List (Except Error Answer) × Plain
  | [], plain => ([], plain)
  | operation :: rest, plain =>
    let (answer, plain) := plain.answer operation
    let (answers, plain) := answerAll rest plain
    (answer :: answers, plain)

end Plain

/-! ### The simulation -/

/-- The value in storage for what is in a slot. -/
def Mirrored (vault : Vault) (key : Aes256.Key) (values : Table Bytes) (slot : Slot) :
    Option slot.Content → Prop
  | none => values.get? (vault.keyFor slot) = none
  | some value => Record.Faithful value ∧
      ∃ nonce, values.get? (vault.keyFor slot) = some (vault.blob key nonce value)

/-- The values in storage mirror a plain record. -/
def Mirrors (vault : Vault) (key : Aes256.Key) (values : Table Bytes) (plain : Plain) : Prop :=
  ∀ slot, vault.Mirrored key values slot (plain.record slot)

variable {vault : Vault} {key : Aes256.Key} {place : Place} {world : World} {values : Table Bytes}
  {plain : Plain}

/-- What is in a slot depends on the value under its key only. -/
theorem Mirrored.of_get?_eq {other : Table Bytes} {slot : Slot} {content : Option slot.Content}
    (h : vault.Mirrored key values slot content)
    (same : other.get? (vault.keyFor slot) = values.get? (vault.keyFor slot)) :
    vault.Mirrored key other slot content := by
  cases content with
  | none => exact same.trans h
  | some value =>
    obtain ⟨faithful, nonce, stored⟩ := h
    exact ⟨faithful, nonce, same.trans stored⟩

/-- A change under the key of one slot is a change of that slot. -/
theorem Mirrors.put (mirrors : vault.Mirrors key values plain) {other : Table Bytes} {slot : Slot}
    (content : Option slot.Content) (filled : vault.Mirrored key other slot content)
    (frame : ∀ name, name ≠ vault.keyFor slot → other.get? name = values.get? name) :
    vault.Mirrors key other (plain.put slot content) := by
  intro third
  rw [Plain.put]
  by_cases same : third = slot
  · subst same
    simp only [Function.update_self]
    exact filled
  · simp only [Function.update_of_ne same]
    exact (mirrors third).of_get?_eq (frame _ fun eq => same (keyFor_injective vault eq))

theorem Mirrors.insert (mirrors : vault.Mirrors key values plain) {slot : Slot}
    {value : slot.Content} (faithful : Record.Faithful value) (nonce : Gcm.Nonce) :
    vault.Mirrors key (values.insert (vault.keyFor slot) (vault.blob key nonce value))
      (plain.put slot (some value)) :=
  mirrors.put (some value) ⟨faithful, nonce, Table.get?_insert_self _ _ _⟩
    fun _ other => Table.get?_insert_of_ne values other _

theorem Mirrors.erase (mirrors : vault.Mirrors key values plain) (slot : Slot) :
    vault.Mirrors key (values.erase (vault.keyFor slot)) (plain.put slot none) :=
  mirrors.put none (Table.get?_erase_self _ _)
    fun _ other => Table.get?_erase_of_ne values other

theorem run_map {α β : Type} (f : α → β) {program : Program α} {last : World}
    {result : Except Error α} (h : program.run (World.answer place) world = (result, last)) :
    (f <$> program).run (World.answer place) world = (f <$> result, last) := by
  rw [map_eq_pure_bind]
  cases result with
  | ok a => exact (Program.run_bind_ok h).trans (Program.run_pure _ _ _)
  | error error => exact Program.run_bind_error h

/-- Looking at a slot. -/
theorem run_get (serves : world.Serves place vault key plain.isLocked values)
    (mirrors : vault.Mirrors key values plain) (slot : Slot) :
    ∃ world', (Answer.found slot <$> vault.get slot).run (World.answer place) world =
        (plain.look slot, world') ∧
      world'.Serves place vault key plain.isLocked values := by
  have mirrored := mirrors slot
  rw [get_eq_read, Plain.look]
  cases content : plain.record slot with
  | none =>
    rw [content] at mirrored
    refine ⟨world, ?_, serves⟩
    rw [if_neg (by simp)]
    exact run_map _ (run_read_none serves mirrored)
  | some value =>
    rw [content] at mirrored
    obtain ⟨faithful, nonce, stored⟩ := mirrored
    obtain ⟨world', run, serves'⟩ := run_read_some serves faithful stored
    refine ⟨world', ?_, serves'⟩
    rw [run_map _ run]
    cases plain.isLocked with
    | true => rfl
    | false => rfl

/-- Taking the refresh token out. -/
theorem run_take (serves : world.Serves place vault key plain.isLocked values)
    (mirrors : vault.Mirrors key values plain) :
    ∃ world' values', (Answer.found .refreshToken <$> vault.takeRefreshToken).run
          (World.answer place) world = (plain.look .refreshToken, world') ∧
      world'.Serves place vault key plain.isLocked values' ∧
      vault.Mirrors key values'
        (if plain.isLocked then plain else plain.put .refreshToken none) := by
  have mirrored := mirrors .refreshToken
  rw [Plain.look]
  cases content : plain.record .refreshToken with
  | none =>
    rw [content] at mirrored
    have unchanged : plain.put .refreshToken none = plain := by
      rw [Plain.put, ← content, Function.update_eq_self]
    refine ⟨world, values, ?_, serves, ?_⟩
    · rw [if_neg (by simp)]
      exact run_map _ (run_takeRefreshToken_none serves mirrored)
    · rw [unchanged, ite_self]
      exact mirrors
  | some value =>
    rw [content] at mirrored
    obtain ⟨-, nonce, stored⟩ := mirrored
    obtain ⟨world', run, serves'⟩ := run_takeRefreshToken_some serves stored
    have kept := mirrors.erase .refreshToken
    refine ⟨world', _, ?_, serves', ?_⟩
    · refine (run_map _ run).trans ?_
      cases plain.isLocked with
      | true => rfl
      | false => rfl
    · cases locked : plain.isLocked with
      | true => exact mirrors
      | false => exact kept

/-- **One operation** is answered as by the plain record, which is mirrored again afterwards. -/
theorem perform_mirrors (valid : ∀ slot, StorageKey.check (vault.keyFor slot) = .ok ())
    (serves : world.Serves place vault key plain.isLocked values)
    (mirrors : vault.Mirrors key values plain) {operation : Operation}
    (writable : operation.IsWritable) :
    ∃ world' values', operation.perform vault place world = ((plain.answer operation).1, world') ∧
      world'.Serves place vault key (plain.answer operation).2.isLocked values' ∧
      vault.Mirrors key values' (plain.answer operation).2 := by
  cases operation with
  | get slot =>
    obtain ⟨world', run, serves'⟩ := run_get serves mirrors slot
    exact ⟨world', values, run, serves', mirrors⟩
  | set slot value =>
    obtain ⟨nonce, world', run, serves'⟩ := run_store serves (valid slot) value
    rw [← set_eq_store] at run
    have mapped := run_map (fun _ => Answer.done) run
    rw [Plain.answer]
    cases locked : plain.isLocked with
    | true =>
      simp only [locked, if_true] at mapped serves' ⊢
      exact ⟨world', values, mapped, serves', mirrors⟩
    | false =>
      simp only [locked, Bool.false_eq_true, if_false] at mapped serves' ⊢
      exact ⟨world', _, mapped, by rw [Plain.put, locked]; exact serves',
        mirrors.insert (slot.faithful writable) nonce⟩
  | takeRefreshToken =>
    obtain ⟨world', values', run, serves', mirrors'⟩ := run_take serves mirrors
    refine ⟨world', values', run, ?_, mirrors'⟩
    rw [Plain.answer]
    cases locked : plain.isLocked with
    | true => simpa only [locked, if_true] using serves'
    | false =>
      simp only [Bool.false_eq_true, if_false, Plain.put]
      exact serves'
  | clear slot =>
    obtain ⟨world', run, serves'⟩ := run_clear serves slot
    exact ⟨world', _, run_map _ run, serves', mirrors.erase slot⟩
  | clearAll =>
    obtain ⟨world', values', run, serves', gone⟩ := run_clearAll serves
    exact ⟨world', values', run_map _ run, serves', gone⟩
  | lock =>
    exact ⟨_, values, rfl, ⟨serves.storage, serves.storageFaults, serves.faults, serves.key, rfl⟩,
      mirrors⟩
  | unlock =>
    exact ⟨_, values, rfl, ⟨serves.storage, serves.storageFaults, serves.faults, serves.key, rfl⟩,
      mirrors⟩

theorem performAll_mirrors (valid : ∀ slot, StorageKey.check (vault.keyFor slot) = .ok ())
    (serves : world.Serves place vault key plain.isLocked values)
    (mirrors : vault.Mirrors key values plain) {operations : List Operation}
    (writable : ∀ operation ∈ operations, operation.IsWritable) :
    (Operation.performAll vault place operations world).1 =
      (Plain.answerAll operations plain).1 := by
  induction operations generalizing world values plain with
  | nil => rfl
  | cons operation operations ih =>
    obtain ⟨first, rest⟩ := List.forall_mem_cons.1 writable
    obtain ⟨world', values', performed, serves', mirrors'⟩ :=
      perform_mirrors valid serves mirrors first
    have answers := ih serves' mirrors' rest
    rw [Operation.performAll, Plain.answerAll, performed]
    exact congrArg ((plain.answer operation).1 :: ·) answers

/-- **Every sequence of operations** on a vault that starts empty, in working storage of either
kind, is answered as by a plain record of six slots. -/
theorem performAll_answers (vault : Vault) (place : Place) (key : Aes256.Key) (world : World)
    (valid : ∀ slot, StorageKey.check (vault.keyFor slot) = .ok ())
    (empty : world.storage = .memory {} ∨ world.storage = .file .missing)
    (storageFaults : world.faultsOf place.seat = []) (faults : world.faults = [])
    (keyed : world.ring.keys.get? vault.name = some key) (operations : List Operation)
    (writable : ∀ operation ∈ operations, operation.IsWritable) :
    (Operation.performAll vault place operations world).1 =
      (Plain.answerAll operations (.empty world.ring.isLocked)).1 := by
  have holds : world.storage.Holds .empty := by
    rcases empty with memory | missing
    · rw [memory]
      exact .memory .empty
    · rw [missing]
      exact .missing
  have serves : world.Serves place vault key (Plain.empty world.ring.isLocked).isLocked .empty :=
    ⟨holds, storageFaults, faults, keyed, rfl⟩
  have mirrors : vault.Mirrors key .empty (.empty world.ring.isLocked) := fun _ => rfl
  exact performAll_mirrors valid serves mirrors writable

/-- A vault whose key store is locked while a refresh token is in it. -/
theorem performAll_answers_locked :
    (Operation.performAll ⟨"t"⟩ { seat := 0 }
        [.set .refreshToken "r", .lock, .takeRefreshToken, .get .idToken, .clear .idToken, .unlock,
          .takeRefreshToken, .takeRefreshToken]
        { now := 0, ring := KeyRing.withKey {} "t" (Vector.replicate 32 0) }).1 =
      [.ok .done, .ok .done, .error .storeLocked, .ok (.found .idToken none), .ok .done, .ok .done,
        .ok (.found .refreshToken (some "r")), .ok (.found .refreshToken none)] :=
  (performAll_answers ⟨"t"⟩ { seat := 0 } (Vector.replicate 32 0) _
    (fun slot => by cases slot <;> rfl) (.inl rfl) rfl rfl rfl _
    (by simp [Operation.IsWritable, Slot.IsWritable])).trans rfl

end Vault

end GatewaySession
