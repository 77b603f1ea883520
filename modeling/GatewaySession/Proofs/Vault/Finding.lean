import GatewaySession.Proofs.Storage.Content
import GatewaySession.Proofs.Vault.Refinement
import GatewaySession.Proofs.Vault.Watching

/-!
# A vault over storage with any content

What a vault reads from a slot depends on what the storage has under the slot's key and on the key
that seals its records. There may be nothing, or a text that encodes no value, or a value without a
record in it, or a record. A value is without a record if it is too short, or was altered, or was
sealed under another key, or opens to a text that is no record of the kind.

The surroundings are those of a world where nothing is made to fail and the key ring is unlocked.
The vault's key may be there or not: a key that is not there is drawn at its first use and kept.

## Main definitions

* `Finding`, `Vault.finding` — what is found in a slot
* `Rehearsal.World.Opens` — a world where nothing fails, with the key that a vault has or will have

## Main results

* `Vault.finding_eq_garbled_iff` — when the storage cannot tell the value of a slot
* `Vault.opens_read`, `Vault.opens_takeRefreshToken` — reading, and reading with removal
* `Vault.opens_store`, `Vault.opens_clear`, `Vault.opens_clearAll` — writing and removing
-/

namespace GatewaySession

open Rehearsal

/-! ### What is found in a slot -/

/-- What is found in a slot. -/
inductive Finding (α : Type) where
  /-- Nothing. -/
  | nothing
  /-- What the storage cannot read, with its error. -/
  | garbled (error : Error)
  /-- A value without a record in it. -/
  | corrupt
  /-- A record. -/
  | record (value : α)

namespace Finding

variable {α β : Type}

/-- What reading a slot ends with. -/
def Reads (key : String) : Finding α → Except Error (Option α) → Prop
  | nothing, result => result = .ok none
  | garbled error, result => result = .error (.storageOperation "get" key error)
  | corrupt, result => ∃ detail, result = .error (.integrity detail)
  | record value, result => result = .ok (some value)

/-- The answer to one who takes a value without a record for absent: a view of the record, or of its
absence. -/
def answer (key : String) (view : Option α → β) : Finding α → Except Error β
  | nothing => .ok (view none)
  | garbled error => .error (.storageOperation "get" key error)
  | corrupt => .ok (view none)
  | record value => .ok (view (some value))

/-- Whether the value is removed by one who drops values without a record, and takes records out or
leaves them. -/
def isDropped (takes : Bool) : Finding α → Bool
  | corrupt => true
  | record _ => takes
  | _ => false

/-- The storage after one who drops values without a record. -/
def Leaves (takes : Bool) (key : String) (finding : Finding α) (before after : Storage) : Prop :=
  if finding.isDropped takes then before.Sets key none after else after = before

end Finding

namespace Vault

/-- What is found in a slot of a vault that is sealed with a key. -/
def finding (vault : Vault) (key : Aes256.Key) (storage : Storage) (slot : Slot) :
    Finding slot.Content :=
  match storage.get (vault.keyFor slot) with
  | .error error => .garbled error
  | .ok none => .nothing
  | .ok (some blob) =>
    match vault.content? key blob with
    | none => .corrupt
    | some value => .record value

variable {vault : Vault} {key : Aes256.Key} {storage : Storage}

theorem finding_eq_corrupt {slot : Slot} {blob : Bytes}
    (found : storage.get (vault.keyFor slot) = .ok (some blob))
    (unreadable : (vault.content? key blob : Option slot.Content) = none) :
    vault.finding key storage slot = .corrupt := by
  rw [finding, found]
  simp only [unreadable]

/-- **A slot is garbled** if its key is: a text stands there in a file and encodes no value. -/
theorem finding_eq_garbled_iff (usable : storage.IsUsable) (slot : Slot) :
    (∃ error, vault.finding key storage slot = .garbled error) ↔
      storage.IsGarbled (vault.keyFor slot) := by
  obtain ⟨garbled, found⟩ | ⟨readable, value, found⟩ := usable.get_cases (vault.keyFor slot)
  · refine iff_of_true ⟨.integrity s!"invalid base64 for {vault.keyFor slot}: <base64>", ?_⟩ garbled
    rw [finding, found]
  · refine iff_of_false (fun ⟨error, eq⟩ => ?_) readable
    rw [finding, found] at eq
    cases value with
    | none => cases eq
    | some blob =>
      simp only at eq
      split at eq <;> cases eq

end Vault

/-! ### Effects -/

/-- A world where nothing fails and the ring is unlocked. The key of the vault is the one in the
ring, or else the next that is drawn. -/
structure Rehearsal.World.Opens (world : World) (place : Place) (vault : Vault)
    (key : Aes256.Key) : Prop where
  /-- The storage can be used, whatever it holds. -/
  storage : world.storage.IsUsable
  /-- No operation of the storage is made to fail. -/
  storageFaults : world.faultsOf place.seat = []
  /-- Asking for a key is not made to fail. -/
  faults : world.faults = []
  /-- The ring is unlocked. -/
  unlocked : world.ring.isLocked = false
  /-- The key of the vault. -/
  key : (world.ring.keys.get? vault.name).getD (World.freshKey world.drawn) = key

namespace Rehearsal.World.Opens

variable {world : World} {place : Place} {vault : Vault} {key : Aes256.Key}

theorem reading {α : Type} (opens : world.Opens place vault key) (operation : Operation)
    (name : String) (read : Storage → Except Error α) :
    world.reading place.seat operation name read = read world.storage := by
  rw [World.reading, opens.storageFaults]
  rfl

theorem writing (opens : world.Opens place vault key) (operation : Operation) (name : String)
    {write : Storage → Except Error Storage} {storage : Storage}
    (written : write world.storage = .ok storage) :
    world.writing place.seat operation name write = (.ok (), { world with storage }) := by
  rw [World.writing, opens.reading, written]

/-- Other storage that can be used makes no difference. -/
theorem withStorage (opens : world.Opens place vault key) {storage : Storage}
    (usable : storage.IsUsable) : World.Opens { world with storage } place vault key :=
  ⟨usable, opens.storageFaults, opens.faults, opens.unlocked, opens.key⟩

/-- Asking for the key of the vault, which is in the ring afterwards. -/
theorem sealingKey (opens : world.Opens place vault key) :
    ∃ last, World.answer place (.sealingKey vault.name) world = (.ok key, last) ∧
      last.Opens place vault key ∧ last.storage = world.storage ∧ last.now = world.now ∧
      last.ring.keys.get? vault.name = some key := by
  have sound : Fault.find? world.faults .key vault.name = none := by
    rw [opens.faults]
    rfl
  have given := opens.key
  cases found : world.ring.keys.get? vault.name with
  | some known =>
    rw [found, Option.getD_some] at given
    subst given
    exact ⟨_, sealingKey_of_known sound opens.unlocked found, ⟨opens.storage, opens.storageFaults,
      opens.faults, opens.unlocked, congrArg (Option.getD · _) found⟩, rfl, rfl, found⟩
  | none =>
    rw [found, Option.getD_none] at given
    subst given
    have installed : (world.ring.withKey vault.name (World.freshKey world.drawn)).keys.get?
        vault.name = some (World.freshKey world.drawn) := Table.get?_insert_self _ _ _
    have kept (fresh : Aes256.Key) : ((world.ring.withKey vault.name
        (World.freshKey world.drawn)).keys.get? vault.name).getD fresh =
          World.freshKey world.drawn := by
      rw [installed, Option.getD_some]
    exact ⟨_, sealingKey_of_new sound opens.unlocked found, ⟨opens.storage, opens.storageFaults,
      opens.faults, opens.unlocked, kept _⟩, rfl, rfl, installed⟩

/-- Asking for a nonce when the key is in the ring. -/
theorem nonce (opens : world.Opens place vault key)
    (known : world.ring.keys.get? vault.name = some key) :
    ∃ nonce last, World.answer place .nonce world = (nonce, last) ∧
      last.Opens place vault key ∧ last.storage = world.storage := by
  have kept (fresh : Aes256.Key) : (world.ring.keys.get? vault.name).getD fresh = key := by
    rw [known, Option.getD_some]
  obtain ⟨nonce, drawn, nonces, eq⟩ := world.exists_nonce_eq
  exact ⟨nonce, _, eq, ⟨opens.storage, opens.storageFaults, opens.faults, opens.unlocked, kept _⟩,
    rfl⟩

/-- Caching or dropping a credential of the user. -/
theorem cacheUser (opens : world.Opens place vault key) (credential : Option UserCredential) :
    (world.cacheUser place.seat credential).Opens place vault key :=
  ⟨opens.storage, (world.faultsOf_cacheUser _ _).trans opens.storageFaults, opens.faults,
    opens.unlocked, opens.key⟩

end Rehearsal.World.Opens

/-! ### Slots -/

namespace Vault

variable {world : World} {place : Place} {vault : Vault} {key : Aes256.Key} {α : Type} [Record α]

/-- Opening a value gives the record in it, or an integrity error. -/
theorem opens_unsealed (opens : world.Opens place vault key) (slot : Slot) (blob : Bytes) :
    ∃ last, last.Opens place vault key ∧ last.storage = world.storage ∧ last.now = world.now ∧
      ∃ result : Except Error α, (do
          let plaintext ← vault.unsealed blob
          .ofExcept (recordOf slot plaintext) : Program α).run (World.answer place) world =
            (result, last) ∧
        match (vault.content? key blob : Option α) with
        | none => ∃ detail, result = .error (.integrity detail)
        | some value => result = .ok value := by
  obtain ⟨keyed, answered, opens', sameStorage, sameTime, -⟩ := opens.sealingKey
  obtain ⟨result, last, reached, run, made⟩ := run_opened (α := α) slot blob answered
  obtain rfl | rfl := reached
  · exact ⟨last, opens, rfl, rfl, result, run, made⟩
  · exact ⟨last, opens', sameStorage, sameTime, result, run, made⟩

/-- What storage answers is passed on, or wrapped. -/
theorem opens_fetched (opens : world.Opens place vault key) (slot : Slot) :
    (about "get" (vault.keyFor slot) (.read (vault.keyFor slot))).run (World.answer place) world =
      match world.storage.get (vault.keyFor slot) with
      | .ok value => (.ok value, world)
      | .error error => (.error (.storageOperation "get" (vault.keyFor slot) error), world) := by
  have answered : World.answer place (.read (vault.keyFor slot)) world =
      (world.storage.get (vault.keyFor slot), world) :=
    congrArg (·, world) (opens.reading .get _ _)
  rw [run_about, Program.run_read, answered]
  cases world.storage.get (vault.keyFor slot) <;> rfl

/-- **Reading a slot** ends as what is found there says, and changes nothing in storage. -/
theorem opens_read (opens : world.Opens place vault key) (slot : Slot) :
    ∃ result last, (vault.read slot : Program (Option slot.Content)).run (World.answer place)
        world = (result, last) ∧
      (vault.finding key world.storage slot).Reads (vault.keyFor slot) result ∧
      last.Opens place vault key ∧ last.storage = world.storage ∧ last.now = world.now := by
  have fetched := opens_fetched opens slot
  rw [finding]
  cases found : world.storage.get (vault.keyFor slot) with
  | error error =>
    rw [found] at fetched
    exact ⟨_, world, Program.run_bind_error fetched, rfl, opens, rfl, rfl⟩
  | ok value =>
  rw [found] at fetched
  cases value with
  | none =>
    refine ⟨.ok none, world, ?_, rfl, opens, rfl, rfl⟩
    exact (Program.run_bind_ok fetched).trans (Program.run_pure _ _ _)
  | some blob =>
  obtain ⟨last, opens', sameStorage, sameTime, result, run, made⟩ :=
    opens_unsealed (α := slot.Content) opens slot blob
  have read : (vault.read slot : Program (Option slot.Content)).run (World.answer place) world =
      (some <$> result, last) := by
    rw [Vault.read, Program.run_bind_ok fetched]
    simp only
    rw [← bind_assoc]
    cases result with
    | error error => exact Program.run_bind_error run
    | ok value => exact (Program.run_bind_ok run).trans (Program.run_pure _ _ _)
  refine ⟨_, last, read, ?_, opens', sameStorage, sameTime⟩
  cases content : (vault.content? key blob : Option slot.Content) with
  | none =>
    rw [content] at made
    obtain ⟨detail, rfl⟩ := made
    simp only [content]
    exact ⟨detail, rfl⟩
  | some value =>
    rw [content] at made
    obtain rfl := made
    simp only [content]
    rfl

/-- Removing the value of a key, whatever it is. -/
theorem opens_remove (opens : world.Opens place vault key) (name : String) :
    ∃ last, (about "delete" name (.remove name)).run (World.answer place) world = (.ok (), last) ∧
      world.storage.Sets name none last.storage ∧ last.Opens place vault key ∧
      last.now = world.now := by
  obtain ⟨storage, deleted, sets⟩ := opens.storage.delete name
  refine ⟨{ world with storage }, run_about_ok ?_, sets, opens.withStorage sets.usable, rfl⟩
  exact opens.writing .delete name deleted

theorem opens_guarded {β : Type} (program : Program β) (world : World) :
    program.guarded.run (World.answer place) world = program.run (World.answer place) world := by
  rw [Program.run_guarded]
  rfl

/-- **Emptying a slot** works whatever is in it. -/
theorem opens_clear (opens : world.Opens place vault key) (slot : Slot) :
    ∃ last, (vault.clear slot).run (World.answer place) world = (.ok (), last) ∧
      world.storage.Sets (vault.keyFor slot) none last.storage ∧ last.Opens place vault key ∧
      last.now = world.now := by
  rw [Vault.clear, opens_guarded]
  exact opens_remove opens (vault.keyFor slot)

/-- **Filling a slot** works whatever is in it. -/
theorem opens_store (opens : world.Opens place vault key) {slot : Slot}
    (admitted : StorageKey.check (vault.keyFor slot) = .ok ()) (value : α) :
    ∃ nonce last, (vault.store slot value).run (World.answer place) world = (.ok (), last) ∧
      world.storage.Sets (vault.keyFor slot) (some (vault.blob key nonce value)) last.storage := by
  obtain ⟨keyed, answered, opens₁, sameStorage₁, -, known⟩ := opens.sealingKey
  obtain ⟨nonce, drawn, given, opens₂, sameStorage₂⟩ := opens₁.nonce known
  obtain ⟨storage, written, sets⟩ := opens₂.storage.put admitted (vault.blob key nonce value)
  refine ⟨nonce, { drawn with storage }, ?_, ?_⟩
  · have key' : (Program.sealingKey vault.name).run (World.answer place) world =
        (.ok key, keyed) := answered
    have nonce' : (Program.ask .nonce).run (World.answer place) keyed = (.ok nonce, drawn) := by
      rw [Program.run_ask, given]
    have sealed' : (vault.sealed (Record.encode value)).run (World.answer place) world =
        (.ok (vault.blob key nonce value), drawn) :=
      (Program.run_bind_ok key').trans ((Program.run_bind_ok nonce').trans
        (Program.run_pure _ _ _))
    rw [store, opens_guarded, write, Program.run_bind_ok sealed']
    exact run_about_ok (opens₂.writing .put _ written)
  · rw [sameStorage₂, sameStorage₁] at sets
    exact sets

/-! ### The refresh token -/

/-- **Taking out the refresh token** removes a token, and a value that holds none. -/
theorem opens_takeRefreshToken (opens : world.Opens place vault key) :
    ∃ result last, vault.takeRefreshToken.run (World.answer place) world = (result, last) ∧
      (vault.finding key world.storage .refreshToken).Reads (vault.keyFor .refreshToken) result ∧
      (vault.finding key world.storage .refreshToken).Leaves true (vault.keyFor .refreshToken)
        world.storage last.storage := by
  obtain ⟨result, between, read, reads, opens₁, sameStorage, -⟩ := opens_read opens .refreshToken
  obtain ⟨last, removed, sets, -, -⟩ := opens_remove opens₁ (vault.keyFor .refreshToken)
  rw [sameStorage] at sets
  rw [takeRefreshToken, opens_guarded, Program.run_attempt_bind read]
  cases finding : vault.finding key world.storage .refreshToken with
  | nothing =>
    rw [finding] at reads
    obtain rfl := reads
    exact ⟨_, between, Program.run_pure _ _ _, rfl, sameStorage⟩
  | garbled error =>
    rw [finding] at reads
    obtain rfl := reads
    exact ⟨_, between, Program.run_fail _ _ _, rfl, sameStorage⟩
  | corrupt =>
    rw [finding] at reads
    obtain ⟨detail, rfl⟩ := reads
    exact ⟨_, last, (Program.run_bind_ok removed).trans (Program.run_fail _ _ _), ⟨detail, rfl⟩,
      sets⟩
  | record token =>
    rw [finding] at reads
    obtain rfl := reads
    exact ⟨_, last, (Program.run_bind_ok removed).trans (Program.run_pure _ _ _), rfl, sets⟩

/-! ### All slots -/

/-- Removing keys one after the other: they have no value then, and no other key is concerned. -/
theorem opens_removeKeys (opens : world.Opens place vault key) (names : List String) :
    ∃ last, (removeKeys names).run (World.answer place) world = (.ok (), last) ∧
      last.Opens place vault key ∧ (∀ name ∈ names, last.storage.get name = .ok none) ∧
      ∀ name, name ∉ names → last.storage.get name = world.storage.get name := by
  induction names generalizing world with
  | nil => exact ⟨world, rfl, opens, fun _ mem => absurd mem List.not_mem_nil, fun _ _ => rfl⟩
  | cons name names ih =>
    obtain ⟨between, removed, sets, opens₁, -⟩ := opens_remove opens name
    obtain ⟨last, run, opens', gone, same⟩ := ih opens₁
    refine ⟨last, ?_, opens', ?_, ?_⟩
    · rw [removeKeys, Program.run_bind_ok removed]
      exact run
    · intro other mem
      by_cases again : other ∈ names
      · exact gone other again
      · obtain rfl := (List.mem_cons.1 mem).resolve_right again
        rw [same other again, sets.get_self]
    · intro other absent
      rw [List.mem_cons, not_or] at absent
      rw [same other absent.2, sets.get_of_ne other absent.1]

/-- **Emptying every slot** removes what is under keys that begin as the vault's do, garbled or not,
and nothing else. -/
theorem opens_clearAll (opens : world.Opens place vault key) :
    ∃ last, vault.clearAll.run (World.answer place) world = (.ok (), last) ∧
      last.Opens place vault key ∧
      ∀ name, last.storage.get name =
        if vault.keyStart.toList.isPrefixOf name.toList then .ok none
        else world.storage.get name := by
  obtain ⟨names, listed, begin, complete⟩ := opens.storage.list vault.keyStart
  obtain ⟨last, removed, opens', gone, same⟩ := opens_removeKeys opens names
  have listing : (about "list" vault.keyStart (.list vault.keyStart)).run (World.answer place)
      world = (.ok names, world) := by
    refine run_about_ok ?_
    rw [Program.run_list]
    show (world.reading place.seat .list _ _, world) = _
    rw [opens.reading, listed]
  refine ⟨last, ?_, opens', ?_⟩
  · rw [clearAll, opens_guarded, Program.run_bind_ok listing]
    exact removed
  · intro name
    by_cases mem : name ∈ names
    · rw [gone name mem, if_pos (begin name mem)]
    · rw [same name mem]
      split
      · next begins =>
        by_contra found
        exact mem (complete name begins found)
      · rfl

end Vault

end GatewaySession
