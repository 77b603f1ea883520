import GatewaySession.Proofs.Program.Parallel
import GatewaySession.Proofs.Vault.Reach

/-!
# Vaults in one storage

Vaults may share storage and a key ring, and their operations may come in any order. An operation of
one vault changes nothing that is under the keys of another, with one exception: emptying every slot
also empties the vaults whose names begin with its own name and a dot.

So what a vault answers can be told from its own operations alone. Two worlds are compared, one in
which all the steps are taken and one in which only those are that concern the vault. The values
under its keys need not be the same in both, since nonces and keys are drawn at different times, but
they hold the same texts. Where vaults enclose one another the number of keys that are removed
differs as well, and with it where a failing removal stops; there removing has to work.

## Main definitions

* `Vault.Step` — an operation of a vault, at a place
* `Vault.Step.concerns` — the steps that a vault can tell
* `Vault.answers` — what a vault answers
* `Vault.Twins` — two worlds that a vault cannot tell apart

## Main results

* `Vault.twins_perform` — an operation in two worlds that its vault cannot tell apart
* `Vault.twins_answers` — steps that do not concern a vault can be left out
* `Vault.isolated` — vaults of different names in one storage
-/

namespace GatewaySession

open Rehearsal
open Program (Agree)

/-- What holds of related results. -/
theorem Program.Agree.mono {α : Type} {R S : α → α → Prop} {result result' : Except Error α}
    (h : Agree R result result') (weaker : ∀ a a', R a a' → S a a') : Agree S result result' := by
  obtain ⟨related⟩ | ⟨error⟩ := h
  · exact .ok (weaker _ _ related)
  · exact .error error

namespace Vault

/-! ### Steps of several vaults -/

/-- A step: an operation of a vault, at a place. -/
structure Step where
  /-- The vault. -/
  vault : Vault
  /-- Where its operation is performed. -/
  place : Place
  /-- The operation. -/
  operation : Operation

/-- Performs a step. -/
def Step.perform (step : Step) (world : World) : Except Error Answer × World :=
  step.operation.perform step.vault step.place world

/-- Whether a step concerns a vault: its own steps do, and changes of the key store, and emptying
every slot of a vault that encloses it. -/
def Step.concerns (vault : Vault) (step : Step) : Bool :=
  match step.operation with
  | .lock | .unlock => true
  | .clearAll => step.vault == vault || step.vault.Encloses vault
  | _ => step.vault == vault

/-- What a vault answers to its own steps while all are taken one after the other. -/
def answers (vault : Vault) : List Step → World → List (Except Error Answer)
  | [], _ => []
  | step :: rest, world =>
    let (answer, world) := step.perform world
    if step.vault = vault then answer :: answers vault rest world else answers vault rest world

theorem answers_own (vault : Vault) {step : Step} (own : step.vault = vault) (rest : List Step)
    (world : World) : vault.answers (step :: rest) world =
      (step.perform world).1 :: vault.answers rest (step.perform world).2 := if_pos own

theorem answers_other (vault : Vault) {step : Step} (other : step.vault ≠ vault)
    (rest : List Step) (world : World) :
    vault.answers (step :: rest) world = vault.answers rest (step.perform world).2 := if_neg other

/-! ### Worlds that a vault cannot tell apart -/

/-- Whether two blobs are one, or were sealed from one text. -/
inductive SameText (vault : Vault) (key key' : Aes256.Key) : Bytes → Bytes → Prop where
  /-- They are one, and the keys too. -/
  | same (blob : Bytes) : key = key' → SameText vault key key' blob blob
  /-- They were sealed from one text. -/
  | sealed (plaintext : Bytes) (nonce nonce' : Gcm.Nonce) :
      SameText vault key key' (Envelope.wrap key vault.name nonce plaintext)
        (Envelope.wrap key' vault.name nonce' plaintext)

section

variable {vault : Vault} {key key' : Aes256.Key} {blob blob' : Bytes}

theorem SameText.checkLength (same : vault.SameText key key' blob blob') :
    Envelope.checkLength blob = Envelope.checkLength blob' := by
  obtain _ | _ := same
  · rfl
  · rw [Envelope.checkLength_wrap, Envelope.checkLength_wrap]

theorem SameText.unwrapWith (same : vault.SameText key key' blob blob') :
    Envelope.unwrapWith key vault.name blob = Envelope.unwrapWith key' vault.name blob' := by
  obtain ⟨_, keys⟩ | _ := same
  · rw [keys]
  · rw [Envelope.unwrapWith_wrap, Envelope.unwrapWith_wrap]

end

/-- Whether a vault has the same texts in its slots in two worlds: each world has its key, or there
is nothing yet. -/
def SameSlots (vault : Vault) (first second : World) : Prop :=
  (∃ key key', first.ring.keys.get? vault.name = some key ∧
      second.ring.keys.get? vault.name = some key' ∧
      ∀ slot, Agree (Option.Rel (vault.SameText key key'))
        (first.storage.get (vault.keyFor slot)) (second.storage.get (vault.keyFor slot))) ∨
    first.ring.keys.get? vault.name = none ∧ second.ring.keys.get? vault.name = none ∧
      ∀ slot, ¬first.storage.Has (vault.keyFor slot) ∧ ¬second.storage.Has (vault.keyFor slot)

/-- Two worlds that a vault cannot tell apart. If other vaults are apart from it, both worlds have
the same keys that begin as its own; if not, removing works. -/
structure Twins (vault : Vault) (apart : Prop) (first second : World) : Prop where
  /-- The same operations of the storage fail of their own. -/
  akin : first.storage.IsAkin second.storage
  /-- The same operations fail by a fault. -/
  faults : second.faults = first.faults
  /-- What belongs to each session is the same. -/
  seats : second.seats = first.seats
  /-- The ring is locked in both or in neither. -/
  isLocked : second.ring.isLocked = first.ring.isLocked
  /-- The slots hold the same texts. -/
  slots : vault.SameSlots first second
  /-- The same keys begin as those of the vault. -/
  has : apart → ∀ name, vault.keyStart.toList.isPrefixOf name.toList = true →
    (first.storage.Has name ↔ second.storage.Has name)
  /-- Or else removing works. -/
  removes : ¬apart → ∀ n, Removes first n

variable {vault : Vault} {apart : Prop} {first second : World}

/-- A key that two storages that are akin do not have is read alike in both, and as no value. -/
theorem agree_of_not_has {storage other : Storage} {name : String} {R : Bytes → Bytes → Prop}
    (akin : storage.IsAkin other) (absent : ¬storage.Has name) (absent' : ¬other.Has name) :
    Agree (Option.Rel R) (storage.get name) (other.get name) := by
  rw [← akin.get_eq absent absent']
  cases found : storage.get name with
  | error error => exact .error error
  | ok value => cases value with
    | none => exact .ok .none
    | some blob => exact absurd found (Storage.get_of_not_has absent blob)

/-- Every world is its own twin, if the vault's key is there already or its slots are empty. -/
theorem Twins.refl {world : World}
    (sealed : world.ring.keys.get? vault.name ≠ none ∨
      ∀ slot, ¬world.storage.Has (vault.keyFor slot))
    (removes : ¬apart → ∀ n, Removes world n) : vault.Twins apart world world where
  akin := .refl _
  faults := rfl
  seats := rfl
  isLocked := rfl
  slots := by
    cases known : world.ring.keys.get? vault.name with
    | some key =>
      refine .inl ⟨key, key, known, known, fun slot => ?_⟩
      cases world.storage.get (vault.keyFor slot) with
      | error error => exact .error error
      | ok value => cases value with
        | none => exact .ok .none
        | some blob => exact .ok (.some (.same blob rfl))
    | none =>
      have empty := sealed.resolve_left (not_not.2 known)
      exact .inr ⟨known, known, fun slot => ⟨empty slot, empty slot⟩⟩
  has _ _ _ := Iff.rfl
  removes := removes

namespace Twins

theorem faultsOf (twins : vault.Twins apart first second) (n : Nat) :
    second.faultsOf n = first.faultsOf n := by
  rw [World.faultsOf, World.faultsOf, World.seat, World.seat, twins.seats, twins.faults]

theorem removes' (twins : vault.Twins apart first second) (within : ¬apart) (n : Nat) :
    Removes second n := by
  obtain ⟨storage, faults⟩ := twins.removes within n
  exact ⟨twins.akin.removes storage, fun name => by rw [twins.faultsOf, faults]⟩

/-- Where both worlds have the key of the vault, the slots hold the same texts under these keys. -/
theorem agree (twins : vault.Twins apart first second) {key key' : Aes256.Key}
    (known : first.ring.keys.get? vault.name = some key)
    (known' : second.ring.keys.get? vault.name = some key') (slot : Slot) :
    Agree (Option.Rel (vault.SameText key key')) (first.storage.get (vault.keyFor slot))
      (second.storage.get (vault.keyFor slot)) := by
  obtain ⟨_, _, found, found', agree⟩ | ⟨absent, -, -⟩ := twins.slots
  · cases known.symm.trans found
    cases known'.symm.trans found'
    exact agree slot
  · rw [known] at absent
    cases absent

/-- A change of one storage key in both worlds. -/
theorem storing (twins : vault.Twins apart first second) {storage storage' : Storage}
    {name : String} (spares : first.storage.Spares name storage)
    (spares' : second.storage.Spares name storage')
    (slots : vault.SameSlots { first with storage } { second with storage := storage' })
    (has : storage.Has name ↔ storage'.Has name) :
    vault.Twins apart { first with storage } { second with storage := storage' } where
  akin := spares.akin.symm.trans (twins.akin.trans spares'.akin)
  faults := twins.faults
  seats := twins.seats
  isLocked := twins.isLocked
  slots := slots
  has isApart other begins := by
    by_cases same : other = name
    · rw [same]
      exact has
    · exact ((spares.has other same).trans (twins.has isApart other begins)).trans
        (spares'.has other same).symm
  removes within n := ⟨spares.akin.removes (twins.removes within n).1, (twins.removes within n).2⟩

/-- A storage key is removed in both worlds. -/
theorem removed (twins : vault.Twins apart first second) {storage storage' : Storage}
    {name : String} (spares : first.storage.Spares name storage)
    (spares' : second.storage.Spares name storage') (gone : ¬storage.Has name)
    (gone' : ¬storage'.Has name) :
    vault.Twins apart { first with storage } { second with storage := storage' } := by
  refine twins.storing spares spares' ?_ (iff_of_false gone gone')
  have akin := spares.akin.symm.trans (twins.akin.trans spares'.akin)
  obtain ⟨key, key', known, known', agree⟩ | ⟨absent, absent', empty⟩ := twins.slots
  · refine .inl ⟨key, key', known, known', fun slot => ?_⟩
    by_cases same : vault.keyFor slot = name
    · subst same
      exact agree_of_not_has akin gone gone'
    · show Agree _ (storage.get _) (storage'.get _)
      rw [spares.get _ same, spares'.get _ same]
      exact agree slot
  · refine .inr ⟨absent, absent', fun slot => ?_⟩
    by_cases same : vault.keyFor slot = name
    · subst same
      exact ⟨gone, gone'⟩
    · exact ⟨fun has => (empty slot).1 ((spares.has _ same).1 has),
        fun has => (empty slot).2 ((spares'.has _ same).1 has)⟩

/-- A slot is filled in both worlds. -/
theorem written (twins : vault.Twins apart first second) {storage storage' : Storage} {slot : Slot}
    {key key' : Aes256.Key} (known : first.ring.keys.get? vault.name = some key)
    (known' : second.ring.keys.get? vault.name = some key')
    (spares : first.storage.Spares (vault.keyFor slot) storage)
    (spares' : second.storage.Spares (vault.keyFor slot) storage')
    (has : storage.Has (vault.keyFor slot)) (has' : storage'.Has (vault.keyFor slot))
    (here : Agree (Option.Rel (vault.SameText key key')) (storage.get (vault.keyFor slot))
      (storage'.get (vault.keyFor slot))) :
    vault.Twins apart { first with storage } { second with storage := storage' } := by
  refine twins.storing spares spares' (.inl ⟨key, key', known, known', fun other => ?_⟩)
    (iff_of_true has has')
  by_cases same : other = slot
  · subst same
    exact here
  · show Agree _ (storage.get _) (storage'.get _)
    rw [spares.get _ (keyFor_ne vault same), spares'.get _ (keyFor_ne vault same)]
    exact twins.agree known known' other

/-- Every slot is emptied in both worlds, and perhaps more. -/
theorem emptied (twins : vault.Twins apart first second) (within : ¬apart)
    {storage storage' : Storage} (akin : first.storage.IsAkin storage)
    (akin' : second.storage.IsAkin storage')
    (empty : ∀ slot, ¬storage.Has (vault.keyFor slot) ∧ ¬storage'.Has (vault.keyFor slot)) :
    vault.Twins apart { first with storage } { second with storage := storage' } where
  akin := akin.symm.trans (twins.akin.trans akin')
  faults := twins.faults
  seats := twins.seats
  isLocked := twins.isLocked
  slots := by
    obtain ⟨key, key', known, known', -⟩ | ⟨absent, absent', -⟩ := twins.slots
    · exact .inl ⟨key, key', known, known', fun slot => agree_of_not_has
        (akin.symm.trans (twins.akin.trans akin')) (empty slot).1 (empty slot).2⟩
    · exact .inr ⟨absent, absent', empty⟩
  has isApart := absurd isApart within
  removes _ n := ⟨akin.removes (twins.removes within n).1, (twins.removes within n).2⟩

/-- **A step elsewhere**, in one of the worlds only, that reaches no slot of the vault. -/
theorem elsewhere (twins : vault.Twins apart first second) {other : Vault} (ne : other ≠ vault)
    {reaches : String → Prop} {last : World} (leaves : first.Leaves other.name reaches last)
    (outside : ∀ slot, ¬reaches (vault.keyFor slot))
    (beyond : apart → ∀ name, vault.keyStart.toList.isPrefixOf name.toList = true →
      ¬reaches name) : vault.Twins apart last second where
  akin := leaves.akin.symm.trans twins.akin
  faults := twins.faults.trans leaves.faults.symm
  seats := twins.seats.trans leaves.seats.symm
  isLocked := twins.isLocked.trans leaves.isLocked.symm
  slots := by
    have sealing : last.ring.keys.get? vault.name = first.ring.keys.get? vault.name :=
      leaves.sealing vault.name fun same => ne (eq_of_name_eq (congrArg String.toList same.symm))
    rw [SameSlots, sealing]
    refine twins.slots.imp (fun ⟨key, key', known, known', agree⟩ => ?_)
      fun ⟨absent, absent', empty⟩ => ?_
    · refine ⟨key, key', known, known', fun slot => ?_⟩
      rw [leaves.get _ (outside slot)]
      exact agree slot
    · exact ⟨absent, absent', fun slot =>
        ⟨fun has => (empty slot).1 ((leaves.has _ (outside slot)).1 has), (empty slot).2⟩⟩
  has isApart name begins :=
    (leaves.has name (beyond isApart name begins)).trans (twins.has isApart name begins)
  removes within n := ⟨leaves.akin.removes (twins.removes within n).1, fun name => by
    rw [leaves.faultsOf, (twins.removes within n).2]⟩

/-- What is read of a slot: if it is a blob, both worlds have the key of the vault. -/
theorem get (twins : vault.Twins apart first second) (slot : Slot) :
    Agree (Option.Rel fun blob blob' => ∃ key key',
        first.ring.keys.get? vault.name = some key ∧
        second.ring.keys.get? vault.name = some key' ∧ vault.SameText key key' blob blob')
      (first.storage.get (vault.keyFor slot)) (second.storage.get (vault.keyFor slot)) := by
  obtain ⟨key, key', known, known', agree⟩ | ⟨-, -, empty⟩ := twins.slots
  · refine (agree slot).mono fun _ _ related => ?_
    cases related with
    | some same => exact .some ⟨key, key', known, known', same⟩
    | none => exact .none
  · exact agree_of_not_has twins.akin (empty slot).1 (empty slot).2

/-- Reading fails by a fault in both worlds or in neither. -/
theorem reading (twins : vault.Twins apart first second) {α : Type} {R : α → α → Prop}
    {read : Storage → Except Error α} (n : Nat) (operation : Rehearsal.Operation) (name : String)
    (agree : Agree R (read first.storage) (read second.storage)) :
    Agree R (first.reading n operation name read) (second.reading n operation name read) := by
  rw [World.reading, World.reading, twins.faultsOf]
  cases Fault.find? (first.faultsOf n) operation name with
  | some error => exact .error error
  | none => exact agree

/-- Writing or removing fails by a fault in both worlds or in neither. -/
theorem writing (twins : vault.Twins apart first second) (n : Nat)
    (operation : Rehearsal.Operation) (name : String)
    (write write' : Storage → Except Error Storage) :
    (∃ error, first.writing n operation name write = (.error error, first) ∧
        second.writing n operation name write' = (.error error, second)) ∨
      (first.writing n operation name write = match write first.storage with
          | .ok storage => (.ok (), { first with storage })
          | .error error => (.error error, first)) ∧
        second.writing n operation name write' = match write' second.storage with
          | .ok storage => (.ok (), { second with storage })
          | .error error => (.error error, second) := by
  rw [World.writing, World.writing, World.reading, World.reading, twins.faultsOf]
  cases Fault.find? (first.faultsOf n) operation name with
  | some error => exact .inl ⟨error, rfl, rfl⟩
  | none => exact .inr ⟨rfl, rfl⟩

/-- Asking for the key of the vault fails alike, or both worlds have one afterwards. -/
theorem sealingKey (twins : vault.Twins apart first second) :
    (∃ error last last', first.sealingKey vault.name = (.error error, last) ∧
        second.sealingKey vault.name = (.error error, last') ∧ vault.Twins apart last last') ∨
      ∃ key key' last last', first.sealingKey vault.name = (.ok key, last) ∧
        second.sealingKey vault.name = (.ok key', last') ∧ vault.Twins apart last last' ∧
        last.ring.keys.get? vault.name = some key ∧ last'.ring.keys.get? vault.name = some key' ∧
        (∀ known, first.ring.keys.get? vault.name = some known → known = key) ∧
        ∀ known, second.ring.keys.get? vault.name = some known → known = key' := by
  cases fault : Fault.find? first.faults .key vault.name with
  | some error =>
    exact .inl ⟨error, first, second, World.sealingKey_of_fault fault,
      World.sealingKey_of_fault (twins.faults ▸ fault), twins⟩
  | none =>
  have fault' : Fault.find? second.faults .key vault.name = none := twins.faults ▸ fault
  cases locked : first.ring.isLocked with
  | true =>
    exact .inl ⟨_, _, _, World.sealingKey_of_locked fault locked,
      World.sealingKey_of_locked fault' (twins.isLocked.trans locked), { twins with }⟩
  | false =>
  have locked' : second.ring.isLocked = false := twins.isLocked.trans locked
  obtain ⟨key, key', known, known', agree⟩ | ⟨absent, absent', empty⟩ := twins.slots
  · exact .inr ⟨key, key', _, _, World.sealingKey_of_known fault locked known,
      World.sealingKey_of_known fault' locked' known', { twins with }, known, known',
      fun _ same => Option.some.inj (same.symm.trans known),
      fun _ same => Option.some.inj (same.symm.trans known')⟩
  · have drawn (ring : KeyRing) (key : Aes256.Key) :
        (ring.withKey vault.name key).keys.get? vault.name = some key :=
      Table.get?_insert_self _ _ _
    refine .inr ⟨_, _, _, _, World.sealingKey_of_new fault locked absent,
      World.sealingKey_of_new fault' locked' absent', { twins with slots := ?_ }, drawn _ _,
      drawn _ _, fun _ same => absurd (same.symm.trans absent) nofun,
      fun _ same => absurd (same.symm.trans absent') nofun⟩
    exact .inl ⟨_, _, drawn _ _, drawn _ _, fun slot =>
      agree_of_not_has twins.akin (empty slot).1 (empty slot).2⟩

/-- Asking for a nonce. -/
theorem nonce (twins : vault.Twins apart first second) :
    vault.Twins apart first.nonce.2 second.nonce.2 ∧
      first.nonce.2.ring = first.ring ∧ second.nonce.2.ring = second.ring := by
  obtain ⟨_, drawn, nonces, eq⟩ := first.exists_nonce_eq
  obtain ⟨_, drawn', nonces', eq'⟩ := second.exists_nonce_eq
  rw [eq, eq']
  exact ⟨{ twins with }, rfl, rfl⟩

end Twins

/-! ### Programs in two worlds -/

/-- Whether two programs end alike, each in one of two worlds, and leave worlds that the vault
cannot tell apart. -/
def EndAlike (vault : Vault) (apart : Prop) {α : Type} (place : Place)
    (program program' : Program α) (first second : World) : Prop :=
  ∃ result last last', program.run (World.answer place) first = (result, last) ∧
    program'.run (World.answer place) second = (result, last') ∧ vault.Twins apart last last'

namespace EndAlike

variable {α β : Type} {place : Place} {program program' : Program α}

theorem done (twins : vault.Twins apart first second) (result : Except Error α) :
    vault.EndAlike apart place (Program.done result) (Program.done result) first second :=
  ⟨result, first, second, rfl, rfl, twins⟩

/-- One program after another. -/
theorem bind {f f' : α → Program β} (h : vault.EndAlike apart place program program' first second)
    (rest : ∀ a {last last'}, vault.Twins apart last last' →
      vault.EndAlike apart place (f a) (f' a) last last') :
    vault.EndAlike apart place (program >>= f) (program' >>= f') first second := by
  obtain ⟨result, last, last', run, run', twins⟩ := h
  cases result with
  | error error =>
    exact ⟨_, _, _, Program.run_bind_error run, Program.run_bind_error run', twins⟩
  | ok a =>
    rw [EndAlike, Program.run_bind_ok run, Program.run_bind_ok run']
    exact rest a twins

/-- One program after another, where the results of the first are known. -/
theorem after {f f' : α → Program β} {a a' : α} {last last' : World}
    (run : program.run (World.answer place) first = (.ok a, last))
    (run' : program'.run (World.answer place) second = (.ok a', last'))
    (rest : vault.EndAlike apart place (f a) (f' a') last last') :
    vault.EndAlike apart place (program >>= f) (program' >>= f') first second := by
  rw [EndAlike, Program.run_bind_ok run, Program.run_bind_ok run']
  exact rest

/-- A program after one whose errors are caught. -/
theorem rescue {f f' : Except Error α → Program β}
    (h : vault.EndAlike apart place program program' first second)
    (rest : ∀ result {last last'}, vault.Twins apart last last' →
      vault.EndAlike apart place (f result) (f' result) last last') :
    vault.EndAlike apart place (program.attempt >>= f) (program'.attempt >>= f') first second := by
  obtain ⟨result, last, last', run, run', twins⟩ := h
  rw [EndAlike, Program.run_attempt_bind run, Program.run_attempt_bind run']
  exact rest result twins

theorem guarded (h : vault.EndAlike apart place program program' first second) :
    vault.EndAlike apart place program.guarded program'.guarded first second := by
  rw [EndAlike, run_guarded, run_guarded]
  exact h

/-- A storage operation wraps its errors. -/
theorem about {operation key : String}
    (h : vault.EndAlike apart place program program' first second) :
    vault.EndAlike apart place (Vault.about operation key program)
      (Vault.about operation key program') first second :=
  rescue h fun result _ _ twins => by
    cases result with
    | error source => exact done twins _
    | ok a => exact done twins _

end EndAlike

section

variable {place : Place} {key key' : Aes256.Key}

/-- Removing a storage key. -/
theorem twins_remove (twins : vault.Twins apart first second) (name : String) :
    vault.EndAlike apart place (Vault.about "delete" name (.remove name))
      (Vault.about "delete" name (.remove name)) first second := by
  refine EndAlike.about ?_
  obtain ⟨error, failed, failed'⟩ | ⟨answered, answered'⟩ :=
    twins.writing place.seat .delete name (·.delete name) (·.delete name)
  · exact ⟨_, _, _, failed, failed', twins⟩
  obtain ⟨error, failed, failed'⟩ | ⟨_, _, deleted, deleted', spares, spares', gone, gone'⟩ :=
    twins.akin.delete name
  · rw [failed] at answered
    rw [failed'] at answered'
    exact ⟨_, _, _, answered, answered', twins⟩
  · rw [deleted] at answered
    rw [deleted'] at answered'
    exact ⟨_, _, _, answered, answered', twins.removed spares spares' gone gone'⟩

/-- Filling a slot with blobs that were sealed from one text. -/
theorem twins_put {slot : Slot} {blob blob' : Bytes} (twins : vault.Twins apart first second)
    (known : first.ring.keys.get? vault.name = some key)
    (known' : second.ring.keys.get? vault.name = some key')
    (same : vault.SameText key key' blob blob') :
    vault.EndAlike apart place
      (Vault.about "put" (vault.keyFor slot) (.write (vault.keyFor slot) blob))
      (Vault.about "put" (vault.keyFor slot) (.write (vault.keyFor slot) blob')) first second := by
  refine EndAlike.about ?_
  obtain ⟨error, failed, failed'⟩ | ⟨answered, answered'⟩ :=
    twins.writing place.seat .put (vault.keyFor slot) (·.put (vault.keyFor slot) blob)
      (·.put (vault.keyFor slot) blob')
  · exact ⟨_, _, _, failed, failed', twins⟩
  obtain ⟨error, failed, failed'⟩ | ⟨_, _, put, put', spares, spares', has, has', found⟩ :=
    twins.akin.put (vault.keyFor slot) blob blob'
  · rw [failed] at answered
    rw [failed'] at answered'
    exact ⟨_, _, _, answered, answered', twins⟩
  · rw [put] at answered
    rw [put'] at answered'
    refine ⟨_, _, _, answered, answered', twins.written known known' spares spares' has has' ?_⟩
    obtain ⟨here, here'⟩ | ⟨error, here, here'⟩ := found
    · rw [here, here']
      exact .ok (.some same)
    · rw [here, here']
      exact .error error

/-- Opening blobs that were sealed from one text. -/
theorem twins_unsealed {blob blob' : Bytes} (twins : vault.Twins apart first second)
    (known : first.ring.keys.get? vault.name = some key)
    (known' : second.ring.keys.get? vault.name = some key')
    (same : vault.SameText key key' blob blob') :
    vault.EndAlike apart place (vault.unsealed blob) (vault.unsealed blob') first second := by
  rw [unsealed, unsealed, same.checkLength]
  cases Envelope.checkLength blob' with
  | error error => exact .done twins _
  | ok _ =>
  show vault.EndAlike apart place
    (Program.sealingKey vault.name >>= fun key =>
      .ofExcept (Envelope.unwrapWith key vault.name blob))
    (Program.sealingKey vault.name >>= fun key =>
      .ofExcept (Envelope.unwrapWith key vault.name blob')) first second
  obtain ⟨error, last, last', asked, asked', twins'⟩ |
    ⟨key₁, key₁', last, last', asked, asked', twins', -, -, own, own'⟩ := twins.sealingKey
  · exact ⟨_, _, _, Program.run_bind_error asked, Program.run_bind_error asked', twins'⟩
  · obtain rfl := own key known
    obtain rfl := own' key' known'
    have asked : (Program.sealingKey vault.name).run (World.answer place) first =
        (.ok key, last) := asked
    have asked' : (Program.sealingKey vault.name).run (World.answer place) second =
        (.ok key', last') := asked'
    refine .after asked asked' ?_
    rw [same.unwrapWith]
    exact .done twins' _

/-- **Reading a slot** in two worlds that the vault cannot tell apart. -/
theorem twins_read {α : Type} [Record α] (twins : vault.Twins apart first second) (slot : Slot) :
    vault.EndAlike apart place (vault.read slot : Program (Option α)) (vault.read slot) first
      second := by
  have agree := twins.reading place.seat .get (vault.keyFor slot) (twins.get slot)
  have fetched {world : World} {result : Except Error (Option Bytes)}
      (h : world.reading place.seat .get (vault.keyFor slot) (·.get (vault.keyFor slot)) = result) :
      (Program.read (vault.keyFor slot)).run (World.answer place) world = (result, world) :=
    congrArg (·, world) h
  generalize found : first.reading place.seat .get (vault.keyFor slot)
    (·.get (vault.keyFor slot)) = result at agree
  generalize found' : second.reading place.seat .get (vault.keyFor slot)
    (·.get (vault.keyFor slot)) = result' at agree
  rw [Vault.read]
  obtain ⟨related⟩ | ⟨error⟩ := agree
  · refine .after (run_about_ok (fetched found)) (run_about_ok (fetched found')) ?_
    cases related with
    | none => exact .done twins _
    | some same =>
      obtain ⟨key, key', known, known', same⟩ := same
      exact (twins_unsealed twins known known' same).bind fun plaintext _ _ twins =>
        .bind (.done twins _) fun _ _ _ twins => .done twins _
  · have failed {world : World} (h : world.reading place.seat .get (vault.keyFor slot)
        (·.get (vault.keyFor slot)) = .error error) :
        (Vault.about "get" (vault.keyFor slot) (.read (vault.keyFor slot))).run
          (World.answer place) world =
            (.error (.storageOperation "get" (vault.keyFor slot) error), world) := by
      rw [run_about, fetched h]
    exact ⟨_, _, _, Program.run_bind_error (failed found), Program.run_bind_error (failed found'),
      twins⟩

/-- **Filling a slot** in two worlds that the vault cannot tell apart. -/
theorem twins_store {α : Type} [Record α] (twins : vault.Twins apart first second) (slot : Slot)
    (value : α) :
    vault.EndAlike apart place (vault.store slot value) (vault.store slot value) first second := by
  refine EndAlike.guarded ?_
  rw [write]
  obtain ⟨error, last, last', asked, asked', twins'⟩ |
    ⟨key, key', keyed, keyed', asked, asked', twins₁, known, known', -, -⟩ := twins.sealingKey
  · have sealed {world last : World} (h : world.sealingKey vault.name = (.error error, last)) :
        (vault.sealed (Record.encode value)).run (World.answer place) world =
          (.error error, last) := Program.run_bind_error h
    exact ⟨_, _, _, Program.run_bind_error (sealed asked), Program.run_bind_error (sealed asked'),
      twins'⟩
  · have sealed {world keyed : World} {key : Aes256.Key}
        (h : world.sealingKey vault.name = (.ok key, keyed)) :
        (vault.sealed (Record.encode value)).run (World.answer place) world =
          (.ok (Envelope.wrap key vault.name keyed.nonce.1 (Record.encode value)),
            keyed.nonce.2) := by
      have asked : (Program.sealingKey vault.name).run (World.answer place) world =
          (.ok key, keyed) := h
      exact Program.run_bind_ok asked
    obtain ⟨twins₂, ring, ring'⟩ := twins₁.nonce
    exact .after (sealed asked) (sealed asked')
      (twins_put twins₂ (ring ▸ known) (ring' ▸ known') (.sealed _ _ _))

/-- **Taking out the refresh token** in two worlds that the vault cannot tell apart. -/
theorem twins_takeRefreshToken (twins : vault.Twins apart first second) :
    vault.EndAlike apart place vault.takeRefreshToken vault.takeRefreshToken first second := by
  refine EndAlike.guarded (EndAlike.rescue (twins_read twins .refreshToken) ?_)
  rintro (error | (_ | token)) last last' twins
  · split
    · next eq => cases eq
    · next eq => cases eq
    · exact (twins_remove twins _).bind fun _ _ _ twins => .done twins _
    · exact .done twins _
  · exact .done twins _
  · exact (twins_remove twins _).bind fun _ _ _ twins => .done twins _

/-- Removing the same storage keys. -/
theorem twins_removeKeys (twins : vault.Twins apart first second) (names : List String) :
    vault.EndAlike apart place (removeKeys names) (removeKeys names) first second := by
  induction names generalizing first second with
  | nil => exact .done twins _
  | cons name names ih => exact (twins_remove twins name).bind fun _ _ _ twins => ih twins

/-- **Emptying every slot** in two worlds that the vault cannot tell apart. Other vaults are apart,
and the same keys are removed; or else keys are removed that need not be the same. -/
theorem twins_clearAll (twins : vault.Twins apart first second) :
    vault.EndAlike apart place vault.clearAll vault.clearAll first second := by
  by_cases isApart : apart
  · have listed : first.reading place.seat .list vault.keyStart (·.list vault.keyStart) =
        second.reading place.seat .list vault.keyStart (·.list vault.keyStart) := by
      refine (twins.reading place.seat .list vault.keyStart ?_).eq
      rw [twins.akin.list_eq (twins.has isApart)]
      exact .refl _
    refine EndAlike.guarded (EndAlike.bind (EndAlike.about ⟨_, first, second, rfl, ?_, twins⟩)
      fun names _ _ twins => twins_removeKeys twins names)
    exact congrArg (·, second) listed.symm
  · obtain ⟨error, fault, failed⟩ | ⟨fault, storage, run, akin, empty⟩ :=
      vault.clearAll_cases (twins.removes isApart place.seat)
    · obtain ⟨_, fault', failed'⟩ | ⟨fault', -⟩ :=
        vault.clearAll_cases (twins.removes' isApart place.seat)
      · rw [twins.faultsOf, fault] at fault'
        cases fault'
        exact ⟨_, _, _, failed, failed', twins⟩
      · rw [twins.faultsOf, fault] at fault'
        cases fault'
    · obtain ⟨_, fault', -⟩ | ⟨-, storage', run', akin', empty'⟩ :=
        vault.clearAll_cases (twins.removes' isApart place.seat)
      · rw [twins.faultsOf, fault] at fault'
        cases fault'
      · exact ⟨_, _, _, run, run', twins.emptied isApart akin akin' fun slot =>
          ⟨empty _ (isPrefixOf_keyFor vault slot), empty' _ (isPrefixOf_keyFor vault slot)⟩⟩

end

/-! ### Operations and steps -/

variable {place : Place}

theorem EndAlike.map {α β : Type} {program : Program α} (f : α → β)
    (h : vault.EndAlike apart place program program first second) :
    vault.EndAlike apart place (f <$> program) (f <$> program) first second := by
  rw [map_eq_pure_bind]
  exact h.bind fun _ _ _ twins => .done twins _

/-- **An operation** in two worlds that its vault cannot tell apart is answered alike, and leaves
worlds that it cannot tell apart. -/
theorem twins_perform (twins : vault.Twins apart first second) (place : Place)
    (operation : Operation) :
    (operation.perform vault place first).1 = (operation.perform vault place second).1 ∧
      vault.Twins apart (operation.perform vault place first).2
        (operation.perform vault place second).2 := by
  have performed {program : Program Answer} (h : operation.program? vault = some program)
      (alike : vault.EndAlike apart place program program first second) :
      (operation.perform vault place first).1 = (operation.perform vault place second).1 ∧
        vault.Twins apart (operation.perform vault place first).2
          (operation.perform vault place second).2 := by
    obtain ⟨result, last, last', run, run', twins'⟩ := alike
    rw [Operation.perform_of_program? h, Operation.perform_of_program? h, run, run']
    exact ⟨rfl, twins'⟩
  cases operation with
  | get slot =>
    refine performed rfl (EndAlike.map _ ?_)
    rw [get_eq_read]
    exact twins_read twins slot
  | set slot value =>
    refine performed rfl (EndAlike.map _ ?_)
    rw [set_eq_store]
    exact twins_store twins slot value
  | takeRefreshToken => exact performed rfl (.map _ (twins_takeRefreshToken twins))
  | clear slot => exact performed rfl (.map _ (.guarded (twins_remove twins _)))
  | clearAll => exact performed rfl (.map _ (twins_clearAll twins))
  | lock => exact ⟨rfl, { twins with isLocked := rfl }⟩
  | unlock => exact ⟨rfl, { twins with isLocked := rfl }⟩

/-- Emptying every slot of a vault that encloses another, in both worlds. -/
theorem Twins.enclosing (twins : vault.Twins apart first second) (within : ¬apart) {outer : Vault}
    (encloses : outer.Encloses vault) (place : Place) :
    vault.Twins apart (Operation.clearAll.perform outer place first).2
      (Operation.clearAll.perform outer place second).2 := by
  have performs {world last : World} {result : Except Error Unit}
      (run : outer.clearAll.run (World.answer place) world = (result, last)) :
      (Operation.clearAll.perform outer place world).2 = last := by
    show (((fun _ => Answer.done) <$> outer.clearAll).run (World.answer place) world).2 = last
    rw [run_map _ run]
  have covered (slot : Slot) := (isPrefixOf_keyFor_iff slot).2 (.inr encloses)
  obtain ⟨error, fault, failed⟩ | ⟨fault, storage, run, akin, empty⟩ :=
    outer.clearAll_cases (twins.removes within place.seat)
  · obtain ⟨_, -, failed'⟩ | ⟨fault', -⟩ :=
      outer.clearAll_cases (twins.removes' within place.seat)
    · rw [performs failed, performs failed']
      exact twins
    · rw [twins.faultsOf, fault] at fault'
      cases fault'
  · obtain ⟨_, fault', -⟩ | ⟨-, storage', run', akin', empty'⟩ :=
      outer.clearAll_cases (twins.removes' within place.seat)
    · rw [twins.faultsOf, fault] at fault'
      cases fault'
    · rw [performs run, performs run']
      exact twins.emptied within akin akin' fun slot =>
        ⟨empty _ (covered slot), empty' _ (covered slot)⟩

/-- A step that does not concern a vault, in one of the worlds only. -/
theorem Twins.unconcerned (twins : vault.Twins apart first second) {step : Step}
    (unconcerned : step.concerns vault = false) (isApart : apart → vault.IsApart step.vault) :
    vault.Twins apart (step.perform first).2 second := by
  obtain ⟨other, place, operation⟩ := step
  have ne : other ≠ vault := by
    rintro rfl
    rw [Step.concerns] at unconcerned
    split at unconcerned <;> simp at unconcerned
  have spared : operation = .clearAll → ¬other.Encloses vault := by
    rintro rfl encloses
    rw [Step.concerns] at unconcerned
    simp [encloses] at unconcerned
  cases performed : operation.program? other with
  | none =>
    rw [Step.concerns] at unconcerned
    cases operation with
    | lock => cases unconcerned
    | unlock => cases unconcerned
    | _ => cases performed
  | some program =>
    rw [Step.perform, Operation.perform_of_program? performed]
    exact twins.elsewhere ne (Operation.leaves other performed place first)
      (Operation.not_reaches ne spared)
      fun within _ begins => Operation.not_reaches_of_isApart (isApart within) begins

/-- **Steps that do not concern a vault can be left out**: it answers the same to its own. -/
theorem twins_answers {steps : List Step}
    (isApart : apart → ∀ step ∈ steps, step.vault = vault ∨ vault.IsApart step.vault)
    (twins : vault.Twins apart first second) :
    vault.answers steps first = vault.answers (steps.filter (·.concerns vault)) second := by
  induction steps generalizing first second with
  | nil => rfl
  | cons step steps ih =>
    have rest (within : apart) := (List.forall_mem_cons.1 (isApart within)).2
    by_cases own : step.vault = vault
    · have concerned : step.concerns vault = true := by
        rw [Step.concerns, own]
        split <;> simp
      obtain ⟨same, twins'⟩ := twins_perform twins step.place step.operation
      rw [List.filter_cons_of_pos concerned, answers_own _ own, answers_own _ own, Step.perform,
        Step.perform, own, same, ih rest twins']
    · cases concerned : step.concerns vault with
      | false =>
        have spared (within : apart) : vault.IsApart step.vault :=
          ((List.forall_mem_cons.1 (isApart within)).1).resolve_left own
        rw [List.filter_cons_of_neg (by rw [concerned]; exact nofun), answers_other _ own]
        exact ih rest (twins.unconcerned concerned spared)
      | true =>
        rw [List.filter_cons_of_pos concerned, answers_other _ own, answers_other _ own]
        refine ih rest ?_
        rw [Step.concerns] at concerned
        obtain ⟨other, place, operation⟩ := step
        split at concerned
        · next locks =>
          obtain rfl : operation = .lock := locks
          exact { twins with isLocked := rfl }
        · next unlocks =>
          obtain rfl : operation = .unlock := unlocks
          exact { twins with isLocked := rfl }
        · next clears =>
          obtain rfl : operation = .clearAll := clears
          have encloses : other.Encloses vault := by
            simpa [show other ≠ vault from own] using concerned
          refine twins.enclosing (fun within => ?_) encloses place
          exact ((List.forall_mem_cons.1 (isApart within)).1.resolve_left own).2.2 encloses
        · exact absurd (beq_iff_eq.1 concerned) own

/-! ### Isolation -/

/-- **Vaults of different names in one storage.** In any world an operation of one vault leaves
every record of another alone, unless it empties every slot and the name of the other begins with
its name and a dot. In that case, where storage works, no record of the other is left. So what a
vault answers depends on the steps that concern it only: if vaults enclose one another removing has
to work, and if not anything may fail. Its key is there from the start, or nothing is in its slots,
since the keys that are made in two runs need not be the same. -/
theorem isolated (vault : Vault) (world : World) :
    (∀ (other : Vault) (place : Place) (operation : Operation), other ≠ vault →
        (operation = .clearAll → ¬other.Encloses vault) → ∀ slot,
          (operation.perform other place world).2.storage.get (vault.keyFor slot) =
            world.storage.get (vault.keyFor slot)) ∧
      (∀ (other : Vault) (place : Place), other.Encloses vault → world.storage.IsUsable →
        world.faultsOf place.seat = [] →
          (Operation.clearAll.perform other place world).1 = .ok .done ∧
            ∀ slot, (Operation.clearAll.perform other place world).2.storage.get
              (vault.keyFor slot) = .ok none) ∧
      ∀ steps : List Step,
        (world.ring.keys.get? vault.name ≠ none ∨
          ∀ slot, ¬world.storage.Has (vault.keyFor slot)) →
        ((∀ step ∈ steps, step.vault = vault ∨ vault.IsApart step.vault) ∨
          ∀ n, Removes world n) →
        vault.answers steps world = vault.answers (steps.filter (·.concerns vault)) world := by
  refine ⟨fun other place operation ne spared slot => ?_,
    fun other place encloses usable faults => ?_, fun steps sealed mode => ?_⟩
  · cases performed : operation.program? other with
    | none => cases operation <;> first | rfl | cases performed
    | some program =>
      rw [Operation.perform_of_program? performed]
      exact (Operation.leaves other performed place world).get _
        (Operation.not_reaches ne spared slot)
  · have removes : Removes world place.seat := ⟨usable.removes, fun name => by rw [faults]; rfl⟩
    obtain ⟨_, fault, -⟩ | ⟨-, storage, run, akin, empty⟩ := other.clearAll_cases removes
    · rw [faults] at fault
      cases fault
    have performed : Operation.clearAll.perform other place world =
        (.ok .done, { world with storage }) := run_map _ run
    rw [performed]
    refine ⟨rfl, fun slot => ?_⟩
    exact (akin.usable usable).get_of_not_has
      (empty _ ((isPrefixOf_keyFor_iff slot).2 (.inr encloses)))
  · by_cases apart : ∀ step ∈ steps, step.vault = vault ∨ vault.IsApart step.vault
    · exact twins_answers (fun _ => apart) (.refl sealed fun other => absurd apart other)
    · exact twins_answers (fun within => within)
        (.refl sealed fun _ => mode.resolve_left apart)

/-- A vault `a` that stores a refresh token of its own and is emptied, beside a vault `a-b`, and
around a vault `a.b`. -/
theorem isolated_neighbours :
    (Operation.clearAll.perform ⟨"a"⟩ ⟨0, none⟩ { now := 0 }).2.storage.get
        ((⟨"a-b"⟩ : Vault).keyFor .refreshToken) = .ok none ∧
      (Operation.clearAll.perform ⟨"a"⟩ ⟨0, none⟩ { now := 0 }).1 = .ok .done ∧
      answers ⟨"a-b"⟩ [⟨⟨"a-b"⟩, ⟨0, none⟩, .set .refreshToken "r"⟩,
          ⟨⟨"a"⟩, ⟨1, none⟩, .set .refreshToken "s"⟩, ⟨⟨"a"⟩, ⟨1, none⟩, .clearAll⟩,
          ⟨⟨"a-b"⟩, ⟨0, none⟩, .get .refreshToken⟩] { now := 0 } =
        answers ⟨"a-b"⟩ [⟨⟨"a-b"⟩, ⟨0, none⟩, .set .refreshToken "r"⟩,
          ⟨⟨"a-b"⟩, ⟨0, none⟩, .get .refreshToken⟩] { now := 0 } :=
  ⟨(isolated ⟨"a-b"⟩ { now := 0 }).1 ⟨"a"⟩ ⟨0, none⟩ .clearAll (by decide) (fun _ => by decide)
      .refreshToken,
    ((isolated ⟨"a.b"⟩ { now := 0 }).2.1 ⟨"a"⟩ ⟨0, none⟩ (by decide) ⟨rfl, rfl, rfl⟩ rfl).1,
    (isolated ⟨"a-b"⟩ { now := 0 }).2.2 _ (.inr fun _ present => nomatch present)
      (.inl (by
        simp only [List.forall_mem_cons, List.not_mem_nil, false_implies, implies_true, and_true]
        decide))⟩

/-- **A vault is not isolated from one that encloses it**: what `a.b` has stored is gone when `a` is
emptied. -/
theorem not_isolated_of_encloses :
    (⟨"a"⟩ : Vault) ≠ ⟨"a.b"⟩ ∧ ∃ world,
      answers ⟨"a.b"⟩ [⟨⟨"a.b"⟩, ⟨0, none⟩, .set .refreshToken "r"⟩,
          ⟨⟨"a"⟩, ⟨0, none⟩, .clearAll⟩, ⟨⟨"a.b"⟩, ⟨0, none⟩, .get .refreshToken⟩] world =
        [.ok .done, .ok (.found .refreshToken none)] ∧
      answers ⟨"a.b"⟩ [⟨⟨"a.b"⟩, ⟨0, none⟩, .set .refreshToken "r"⟩,
          ⟨⟨"a.b"⟩, ⟨0, none⟩, .get .refreshToken⟩] world =
        [.ok .done, .ok (.found .refreshToken (some "r"))] := by
  let inner : Vault := ⟨"a.b"⟩
  let place : Place := ⟨0, none⟩
  let start : World := { now := 0, ring := KeyRing.withKey {} "a.b" (Vector.replicate 32 0) }
  have serves : start.Serves place inner (Vector.replicate 32 0) false .empty :=
    ⟨.memory _, rfl, rfl, rfl, rfl⟩
  have admitted : StorageKey.check ((⟨"a.b"⟩ : Vault).keyFor .refreshToken) = .ok () := by
    rfl
  obtain ⟨nonce, stored, run, serves'⟩ := run_store serves admitted "r"
  have set : Step.perform ⟨inner, place, .set .refreshToken "r"⟩ start = (.ok .done, stored) :=
    run_map (fun _ => Answer.done) run
  refine ⟨by decide, start, ?_, ?_⟩
  · have removes : Removes stored place.seat :=
      ⟨serves'.storage.isUsable.removes, fun name => by rw [serves'.storageFaults]; rfl⟩
    have encloses : (⟨"a"⟩ : Vault).Encloses ⟨"a.b"⟩ := by decide
    obtain ⟨_, fault, -⟩ | ⟨-, storage, clear, akin, empty⟩ := clearAll_cases ⟨"a"⟩ removes
    · rw [serves'.storageFaults] at fault
      cases fault
    have cleared : Step.perform ⟨⟨"a"⟩, place, .clearAll⟩ stored =
        (.ok .done, { stored with storage }) := run_map (fun _ => Answer.done) clear
    have gone : storage.get (inner.keyFor .refreshToken) = .ok none :=
      (akin.usable serves'.storage.isUsable).get_of_not_has
        (empty _ ((isPrefixOf_keyFor_iff _).2 (.inr encloses)))
    have read : World.answer place (.read (inner.keyFor .refreshToken)) { stored with storage } =
        (.ok none, { stored with storage }) := by
      show (World.reading { stored with storage } 0 .get (inner.keyFor .refreshToken)
        (·.get (inner.keyFor .refreshToken)), { stored with storage }) = _
      rw [World.reading, show World.faultsOf { stored with storage } 0 = [] from
        serves'.storageFaults]
      exact congrArg (·, { stored with storage }) gone
    have got : (Step.perform ⟨inner, place, .get .refreshToken⟩ { stored with storage }).1 =
        .ok (.found .refreshToken none) :=
      congrArg Prod.fst (run_map (Answer.found .refreshToken) (run_read_nothing read))
    exact (answers_own inner rfl _ _).trans (by
      rw [set, answers_other inner (by decide), cleared, answers_own inner rfl, got]
      rfl)
  · obtain ⟨_, read, -⟩ := run_read_some serves' (Record.faithful_text "r")
      (Table.get?_insert_self _ _ _)
    have got : (Step.perform ⟨inner, place, .get .refreshToken⟩ stored).1 =
        .ok (.found .refreshToken (some "r")) :=
      congrArg Prod.fst (run_map (Answer.found .refreshToken) read)
    exact (answers_own inner rfl _ _).trans (by
      rw [set, answers_own inner rfl, got]
      rfl)

end Vault

end GatewaySession
