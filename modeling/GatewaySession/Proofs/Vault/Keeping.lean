import GatewaySession.Engine
import GatewaySession.Proofs.Vault.Serving
import Mathlib.Logic.Function.Basic

/-!
# Surroundings that keep what is stored

Surroundings may fail at any time, for any reason: storage refuses, the key store is locked, the
gateway does not answer. All that is asked of them is that they keep what is stored. Only writing
and removing change it, and where they fail they have done it or they have not; what is read is what
is stored; and the vault is sealed with one key.

Nothing is said of when an operation fails, so the results below are about operations that succeed.
They say what such an operation has left in the slots of the vault.

## Main definitions

* `Effect.Leaves` — what an effect may leave of what is stored
* `Keeper` — surroundings that keep what is stored
* `Vault.Marks` — whether what is stored is a sealed client id

## Main results

* `Keeper.run_clearAll_ok` — every slot is empty
* `Keeper.run_reconcile_ok` — the client id is recorded, and everything of another client is gone
* `Keeper.run_start_ok` — the same for a session that is opened
-/

namespace GatewaySession

/-! ### What is stored -/

/-- What an effect leaves of what is stored. Only writing and removing change anything, and where
they fail they may have done it all the same. -/
def Effect.Leaves : (effect : Effect) → effect.Reply → (before after : String → Option Bytes) → Prop
  | .write name value, .ok _, before, after => after = Function.update before name (some value)
  | .write name value, .error _, before, after =>
    after = before ∨ after = Function.update before name (some value)
  | .remove name, .ok _, before, after => after = Function.update before name none
  | .remove name, .error _, before, after =>
    after = before ∨ after = Function.update before name none
  | _, _, before, after => after = before

/-- What is stored after an effect, and was not before, is what the effect writes. -/
theorem Effect.Leaves.eq_write {effect : Effect} {reply : effect.Reply}
    {before after : String → Option Bytes} {name : String} {value : Bytes}
    (h : effect.Leaves reply before after) (absent : before name ≠ some value)
    (present : after name = some value) : effect = .write name value := by
  have unchanged (same : after = before) : effect = .write name value :=
    absurd (same ▸ present) absent
  cases effect with
  | write other written =>
    have update (same : after = Function.update before other (some written)) :
        Effect.write other written = .write name value := by
      by_cases here : name = other
      · rw [same, here, Function.update_self] at present
        rw [here, Option.some.inj present]
      · rw [same, Function.update_of_ne here] at present
        exact absurd present absent
    cases reply with
    | error error => exact h.elim unchanged update
    | ok _ => exact update h
  | remove other =>
    have update (same : after = Function.update before other none) :
        Effect.remove other = .write name value := by
      by_cases here : name = other
      · rw [same, here, Function.update_self] at present
        cases present
      · rw [same, Function.update_of_ne here] at present
        exact absurd present absent
    cases reply with
    | error error => exact h.elim unchanged update
    | ok _ => exact update h
  | _ => exact unchanged h

/-- Surroundings that keep what is stored, and the key that seals a vault in them. -/
structure Keeper (σ : Type) (vault : Vault) (key : Aes256.Key) where
  /-- How effects are answered. -/
  handle : (effect : Effect) → σ → effect.Reply × σ
  /-- What is stored. -/
  stored : σ → String → Option Bytes
  /-- The states in which the surroundings keep what is stored. -/
  IsSound : σ → Prop
  /-- They stay among these states. -/
  isSound {state : σ} (effect : Effect) : IsSound state → IsSound (handle effect state).2
  /-- What an effect leaves. -/
  leaves {state : σ} (effect : Effect) : IsSound state →
    effect.Leaves (handle effect state).1 (stored state) (stored (handle effect state).2)
  /-- What is read is what is stored. -/
  read {state : σ} (name : String) (value : Option Bytes) : IsSound state →
    (handle (.read name) state).1 = .ok value → value = stored state name
  /-- What is stored is listed. -/
  list {state : σ} {start : String} {names : List String} (name : String) : IsSound state →
    (handle (.list start) state).1 = .ok names → start.toList.isPrefixOf name.toList = true →
    stored state name ≠ none → name ∈ names
  /-- The vault is sealed with one key. -/
  sealingKey {state : σ} (other : Aes256.Key) : IsSound state →
    (handle (.sealingKey vault.name) state).1 = .ok other → other = key

namespace Vault

/-- Whether what is stored is a sealed client id. -/
def Marks (vault : Vault) (key : Aes256.Key) (clientId : String) (blob : Option Bytes) : Prop :=
  ∃ nonce, blob = some (vault.blob key nonce clientId)

theorem Marks.ne_none {vault : Vault} {key : Aes256.Key} {clientId : String} {blob : Option Bytes}
    (marks : vault.Marks key clientId blob) : blob ≠ none := by
  obtain ⟨nonce, rfl⟩ := marks
  exact Option.some_ne_none _

end Vault

/-- A session that is made has a client id. -/
theorem Session.eq_of_make {settings : Settings} {device : Device} {session : Session}
    (made : Session.make settings device = .ok session) :
    session = ⟨settings, device⟩ ∧ settings.clientId ≠ "" := by
  rw [make] at made
  cases checked : settings.check with
  | error error =>
    rw [checked] at made
    cases made
  | ok _ =>
    rw [checked] at made
    simp only [bind, Except.bind] at made
    split at made
    · cases made
    · cases made
      refine ⟨rfl, ?_⟩
      intro none
      rw [Settings.check, none] at checked
      split at checked
      · cases checked
      · rw [if_pos (by decide +kernel)] at checked
        cases checked

namespace Keeper

variable {σ : Type} {vault : Vault} {key : Aes256.Key} (keeper : Keeper σ vault key)

/-- What is stored in a slot. -/
def inSlot (state : σ) (slot : Slot) : Option Bytes := keeper.stored state (vault.keyFor slot)

/-- Whether every slot is empty but that of the client id. -/
def IsBare (state : σ) : Prop :=
  ∀ slot, slot ≠ .configuredClientId → keeper.inSlot state slot = none

variable {keeper} {state last : σ}

/-! ### Effects one by one -/

theorem after_read {name : String} {reply : Except Error (Option Bytes)}
    (sound : keeper.IsSound state) (answered : keeper.handle (.read name) state = (reply, last)) :
    keeper.IsSound last ∧ keeper.stored last = keeper.stored state ∧
      ∀ value, reply = .ok value → value = keeper.stored state name := by
  have sound' := keeper.isSound (.read name) sound
  have leaves : keeper.stored _ = _ := keeper.leaves (.read name) sound
  have read (value : Option Bytes) := keeper.read name value sound
  rw [answered] at sound' leaves read
  exact ⟨sound', leaves, read⟩

theorem after_sealingKey {reply : Except Error Aes256.Key} (sound : keeper.IsSound state)
    (answered : keeper.handle (.sealingKey vault.name) state = (reply, last)) :
    keeper.IsSound last ∧ keeper.stored last = keeper.stored state ∧
      ∀ other, reply = .ok other → other = key := by
  have sound' := keeper.isSound (.sealingKey vault.name) sound
  have leaves : keeper.stored _ = _ := keeper.leaves (.sealingKey vault.name) sound
  have same (other : Aes256.Key) := keeper.sealingKey other sound
  rw [answered] at sound' leaves same
  exact ⟨sound', leaves, same⟩

theorem after_list {start : String} {names : List String} (sound : keeper.IsSound state)
    (answered : keeper.handle (.list start) state = (.ok names, last)) :
    keeper.IsSound last ∧ keeper.stored last = keeper.stored state ∧
      ∀ name, start.toList.isPrefixOf name.toList = true → keeper.stored state name ≠ none →
        name ∈ names := by
  have sound' := keeper.isSound (.list start) sound
  have leaves : keeper.stored _ = _ := keeper.leaves (.list start) sound
  have list (name : String) := keeper.list name sound (congrArg Prod.fst answered)
  rw [answered] at sound' leaves
  exact ⟨sound', leaves, list⟩

theorem after_write {name : String} {value : Bytes} (sound : keeper.IsSound state)
    (answered : keeper.handle (.write name value) state = (.ok (), last)) :
    keeper.IsSound last ∧
      keeper.stored last = Function.update (keeper.stored state) name (some value) := by
  have sound' := keeper.isSound (.write name value) sound
  have leaves := keeper.leaves (.write name value) sound
  rw [answered] at sound' leaves
  exact ⟨sound', leaves⟩

theorem after_remove {name : String} (sound : keeper.IsSound state)
    (answered : keeper.handle (.remove name) state = (.ok (), last)) :
    keeper.IsSound last ∧ keeper.stored last = Function.update (keeper.stored state) name none := by
  have sound' := keeper.isSound (.remove name) sound
  have leaves := keeper.leaves (.remove name) sound
  rw [answered] at sound' leaves
  exact ⟨sound', leaves⟩

/-! ### Reading -/

/-- Opening a blob changes nothing. What was sealed for the vault is opened unless anything fails.
-/
theorem run_unsealed {blob : Bytes} {result : Except Error Bytes} (sound : keeper.IsSound state)
    (run : (vault.unsealed blob).run keeper.handle state = (result, last)) :
    keeper.IsSound last ∧ keeper.stored last = keeper.stored state ∧
      ∀ nonce plaintext, blob = Envelope.wrap key vault.name nonce plaintext →
        result = .ok plaintext ∨ ∃ error, result = .error error := by
  rw [Vault.unsealed] at run
  obtain ⟨error, checked, failed⟩ | ⟨_, between, checked, run⟩ := Program.run_bind_cases run
  · rw [Program.run_ofExcept] at checked
    obtain ⟨-, rfl⟩ := Prod.mk.inj checked
    exact ⟨sound, rfl, fun _ _ _ => .inr ⟨error, failed⟩⟩
  rw [Program.run_ofExcept] at checked
  obtain ⟨-, rfl⟩ := Prod.mk.inj checked
  obtain ⟨error, asked, failed⟩ | ⟨other, keyed, asked, run⟩ := Program.run_bind_cases run
  · obtain ⟨sound', same, -⟩ := keeper.after_sealingKey sound asked
    exact ⟨sound', same, fun _ _ _ => .inr ⟨error, failed⟩⟩
  obtain ⟨sound', same, own⟩ := keeper.after_sealingKey sound asked
  rw [Program.run_ofExcept] at run
  obtain ⟨opened, rfl⟩ := Prod.mk.inj run
  refine ⟨sound', same, fun nonce plaintext sealed => .inl ?_⟩
  rw [own other rfl, sealed, Envelope.unwrapWith_wrap] at opened
  exact opened.symm

/-- **Reading a slot** changes nothing. An empty slot reads as nothing unless storage fails, and a
sealed record as the record unless anything fails. -/
theorem run_read {α : Type} [Record α] {slot : Slot} {result : Except Error (Option α)}
    (sound : keeper.IsSound state)
    (run : (vault.read slot).run keeper.handle state = (result, last)) :
    keeper.IsSound last ∧ keeper.stored last = keeper.stored state ∧
      (keeper.inSlot state slot = none →
        result = .ok none ∨ ∃ key source, result = .error (.storageOperation "get" key source)) ∧
      ∀ nonce value, Record.Faithful value →
        keeper.inSlot state slot = some (vault.blob key nonce value) →
        result = .ok (some value) ∨ ∃ error, result = .error error := by
  rw [Vault.read] at run
  obtain ⟨error, about, failed⟩ | ⟨found, fetched, about, run⟩ := Program.run_bind_cases run
  · obtain ⟨source, fetch, wrapped⟩ | ⟨_, _, absurd⟩ := Vault.run_about_cases about
    · obtain ⟨sound', same, -⟩ := keeper.after_read sound fetch
      exact ⟨sound', same,
        fun _ => .inr ⟨_, source, failed.trans (congrArg _ (Except.error.inj wrapped))⟩,
        fun _ _ _ _ => .inr ⟨error, failed⟩⟩
    · cases absurd
  obtain ⟨sound₁, same₁, read⟩ := keeper.after_read sound (Vault.run_about_eq_ok about)
  have stored : found = keeper.inSlot state slot := read found rfl
  cases found with
  | none =>
    obtain ⟨rfl, rfl⟩ := Prod.mk.inj run
    exact ⟨sound₁, same₁, fun _ => .inl rfl, fun _ _ _ filled =>
      absurd (stored.trans filled) (Option.some_ne_none _).symm⟩
  | some blob =>
    have filled : keeper.inSlot state slot ≠ none := fun empty =>
      Option.some_ne_none blob (stored.trans empty)
    obtain ⟨error, opening, failed⟩ | ⟨plaintext, between, opening, run⟩ :=
      Program.run_bind_cases run
    · obtain ⟨sound₂, same₂, -⟩ := run_unsealed sound₁ opening
      exact ⟨sound₂, same₂.trans same₁, fun empty => absurd empty filled,
        fun _ _ _ _ => .inr ⟨error, failed⟩⟩
    obtain ⟨sound₂, same₂, opens⟩ := run_unsealed sound₁ opening
    rw [Program.run_bind, Program.run_ofExcept] at run
    cases decoded : (Vault.recordOf slot plaintext : Except Error α) with
    | error error =>
      rw [decoded] at run
      obtain ⟨rfl, rfl⟩ := Prod.mk.inj run
      exact ⟨sound₂, same₂.trans same₁, fun empty => absurd empty filled,
        fun _ _ _ _ => .inr ⟨error, rfl⟩⟩
    | ok record =>
      rw [decoded] at run
      obtain ⟨rfl, rfl⟩ := Prod.mk.inj run
      refine ⟨sound₂, same₂.trans same₁, fun empty => absurd empty filled,
        fun nonce value faithful sealed => .inl ?_⟩
      have eq : blob = vault.blob key nonce value := Option.some.inj (stored.trans sealed)
      obtain ok | ⟨_, failed⟩ := opens nonce (Record.encode value) eq
      · rw [Except.ok.inj ok, Vault.recordOf, faithful] at decoded
        rw [Except.ok.inj decoded]
      · cases failed

/-! ### Removing and storing -/

/-- **Removing keys** one after the other leaves nothing under them. -/
theorem run_removeKeys_ok {names : List String} (sound : keeper.IsSound state)
    (run : (Vault.removeKeys names).run keeper.handle state = (.ok (), last)) :
    keeper.IsSound last ∧ ∀ name, name ∈ names ∨ keeper.stored state name = none →
      keeper.stored last name = none := by
  induction names generalizing state with
  | nil =>
    cases run
    exact ⟨sound, fun name gone => gone.resolve_left List.not_mem_nil⟩
  | cons other names ih =>
    obtain ⟨_, between, removed, rest⟩ := Program.run_bind_eq_ok run
    obtain ⟨sound₁, erased⟩ := keeper.after_remove sound (Vault.run_about_eq_ok removed)
    obtain ⟨sound', gone⟩ := ih sound₁ rest
    refine ⟨sound', fun name mem => gone name ?_⟩
    rw [erased]
    by_cases same : name = other
    · rw [same]
      exact .inr (Function.update_self _ _ _)
    · rw [Function.update_of_ne same]
      exact mem.imp_left fun mem => (List.mem_cons.1 mem).resolve_left same

/-- A guarded program, without the guard. -/
theorem run_guarded {α : Type} {program : Program α} {result : Except Error α}
    (sound : keeper.IsSound state)
    (run : program.guarded.run keeper.handle state = (result, last)) :
    ∃ first final, keeper.IsSound first ∧ keeper.stored first = keeper.stored state ∧
      program.run keeper.handle first = (result, final) ∧
      (keeper.IsSound final → keeper.IsSound last ∧ keeper.stored last = keeper.stored final) := by
  have held : keeper.stored _ = _ := keeper.leaves .hold sound
  cases inner : program.run keeper.handle (keeper.handle .hold state).2 with
  | mk result' final =>
  rw [Program.run_guarded, inner] at run
  cases run
  refine ⟨_, final, keeper.isSound .hold sound, held, inner, ?_⟩
  intro sound'
  have released : keeper.stored _ = _ := keeper.leaves .release sound'
  exact ⟨keeper.isSound .release sound', released⟩

/-- **Emptying every slot** empties them. -/
theorem run_clearAll_ok (sound : keeper.IsSound state)
    (run : vault.clearAll.run keeper.handle state = (.ok (), last)) :
    keeper.IsSound last ∧ ∀ slot, keeper.inSlot last slot = none := by
  obtain ⟨first, last', sound₁, -, run, rest⟩ := run_guarded sound run
  obtain ⟨names, listed, list, removed⟩ := Program.run_bind_eq_ok run
  obtain ⟨sound₂, same, mem⟩ := keeper.after_list sound₁ (Vault.run_about_eq_ok list)
  obtain ⟨sound₃, gone⟩ := run_removeKeys_ok sound₂ removed
  obtain ⟨sound', kept⟩ := rest sound₃
  refine ⟨sound', ?_⟩
  intro slot
  rw [inSlot, kept]
  refine gone _ ?_
  rw [same]
  by_cases empty : keeper.stored first (vault.keyFor slot) = none
  · exact .inr empty
  · exact .inl (mem _ (Vault.isPrefixOf_keyFor vault slot) empty)

/-- Sealing changes nothing. -/
theorem run_sealed_ok {plaintext blob : Bytes} (sound : keeper.IsSound state)
    (run : (vault.sealed plaintext).run keeper.handle state = (.ok blob, last)) :
    keeper.IsSound last ∧ keeper.stored last = keeper.stored state ∧
      ∃ nonce, blob = Envelope.wrap key vault.name nonce plaintext := by
  obtain ⟨other, keyed, asked, run⟩ := Program.run_bind_eq_ok run
  obtain ⟨sound₁, same₁, own⟩ := keeper.after_sealingKey sound asked
  have sound₂ := keeper.isSound .nonce sound₁
  have same₂ : keeper.stored _ = _ := keeper.leaves .nonce sound₁
  obtain ⟨nonce, drawn, ask, run⟩ := Program.run_bind_eq_ok run
  rw [Program.run_ask] at ask
  obtain ⟨-, rfl⟩ := Prod.mk.inj ask
  obtain ⟨wrapped, rfl⟩ := Prod.mk.inj run
  refine ⟨sound₂, same₂.trans same₁, nonce, ?_⟩
  rw [← Except.ok.inj wrapped, own other rfl]

/-- **Storing a record** seals it and leaves everything else alone. -/
theorem run_store_ok {α : Type} [Record α] {slot : Slot} {value : α} (sound : keeper.IsSound state)
    (run : (vault.store slot value).run keeper.handle state = (.ok (), last)) :
    keeper.IsSound last ∧ ∃ nonce, keeper.stored last =
      Function.update (keeper.stored state) (vault.keyFor slot)
        (some (vault.blob key nonce value)) := by
  obtain ⟨first, final, sound₁, same₁, run, rest⟩ := run_guarded sound run
  obtain ⟨blob, between, sealing, written⟩ := Program.run_bind_eq_ok run
  obtain ⟨sound₂, same₂, nonce, wrapped⟩ := run_sealed_ok sound₁ sealing
  obtain ⟨sound₃, update⟩ := keeper.after_write sound₂ (Vault.run_about_eq_ok written)
  obtain ⟨sound', kept⟩ := rest sound₃
  refine ⟨sound', nonce, ?_⟩
  rw [kept, update, same₂, same₁, wrapped]
  rfl

/-- Recording a client id leaves the other slots alone. -/
theorem run_setConfiguredClientId_ok {clientId : String} (sound : keeper.IsSound state)
    (run : (vault.setConfiguredClientId clientId).run keeper.handle state = (.ok (), last)) :
    keeper.IsSound last ∧ vault.Marks key clientId (keeper.inSlot last .configuredClientId) ∧
      ∀ slot, slot ≠ .configuredClientId → keeper.inSlot last slot = keeper.inSlot state slot := by
  obtain ⟨sound', nonce, stored⟩ := run_store_ok sound run
  refine ⟨sound', ⟨nonce, ?_⟩, fun slot other => ?_⟩
  · rw [inSlot, stored]
    exact Function.update_self _ _ _
  · rw [inSlot, stored]
    exact Function.update_of_ne (Vault.keyFor_ne vault other) _ _

/-! ### Opening a session -/

variable {session : Session}

/-- Forgetting everything empties every slot. -/
theorem run_destroyAll_ok (same : session.vault = vault) (sound : keeper.IsSound state)
    (run : session.destroyAll.run keeper.handle state = (.ok (), last)) :
    keeper.IsSound last ∧ ∀ slot, keeper.inSlot last slot = none := by
  subst same
  exact run_clearAll_ok (keeper.isSound (.cacheUser none) sound) run

/-- The recorded client id: nothing if nothing is recorded. One that is recorded is read, or what is
recorded is held to be nobody's. -/
theorem run_recordedClientId_ok {recorded : Option String}
    (same : session.vault = vault) (sound : keeper.IsSound state)
    (run : session.recordedClientId.run keeper.handle state = (.ok recorded, last)) :
    keeper.IsSound last ∧ keeper.stored last = keeper.stored state ∧
      (keeper.inSlot state .configuredClientId = none → recorded = none) ∧
      ∀ clientId, vault.Marks key clientId (keeper.inSlot state .configuredClientId) →
        recorded = some clientId ∨ recorded = some "" := by
  subst same
  cases read : session.vault.configuredClientId.run keeper.handle state with
  | mk result between =>
  obtain ⟨sound', kept, empty, filled⟩ := run_read sound read
  rw [Session.recordedClientId, Program.run_attempt_bind read] at run
  split at run
  · next detail =>
    cases run
    refine ⟨sound', kept, fun none => ?_, fun _ _ => .inr rfl⟩
    obtain ok | ⟨_, _, error⟩ := empty none
    · cases ok
    · cases error
  · cases run
  · next recorded =>
    cases run
    refine ⟨sound', kept, fun none => ?_, fun clientId ⟨nonce, marked⟩ => .inl ?_⟩
    · obtain ok | ⟨_, _, error⟩ := empty none
      · exact Except.ok.inj ok
      · cases error
    · obtain ok | ⟨_, error⟩ := filled nonce clientId (Record.faithful_text clientId) marked
      · exact Except.ok.inj ok
      · cases error

/-- **Reconciling** records the client id. If none was recorded, everything else stays; if another
was recorded, everything else is gone. -/
theorem run_reconcile_ok {foreign : Bool} (same : session.vault = vault)
    (sound : keeper.IsSound state)
    (run : session.reconcile.run keeper.handle state = (.ok foreign, last)) :
    keeper.IsSound last ∧
      vault.Marks key session.settings.clientId (keeper.inSlot last .configuredClientId) ∧
      (keeper.inSlot state .configuredClientId = none → ∀ slot, slot ≠ .configuredClientId →
        keeper.inSlot last slot = keeper.inSlot state slot) ∧
      ∀ clientId, vault.Marks key clientId (keeper.inSlot state .configuredClientId) →
        clientId ≠ session.settings.clientId → session.settings.clientId ≠ "" →
        keeper.IsBare last := by
  rw [Session.reconcile] at run
  obtain ⟨recorded, between, read, rest⟩ := Program.run_bind_eq_ok run
  obtain ⟨sound₁, same₁, empty, filled⟩ := run_recordedClientId_ok same sound read
  subst same
  cases recorded with
  | none =>
    obtain ⟨_, final, recording, rest⟩ := Program.run_bind_eq_ok rest
    cases rest
    obtain ⟨sound₂, marked, kept⟩ := run_setConfiguredClientId_ok sound₁ recording
    refine ⟨sound₂, marked, fun _ slot other => ?_, fun clientId mark => ?_⟩
    · rw [kept slot other, inSlot, same₁, inSlot]
    · obtain read | read := filled clientId mark
      · cases read
      · cases read
  | some recorded =>
    simp only at rest
    split at rest
    · obtain ⟨_, cleared, destroyed, rest⟩ := Program.run_bind_eq_ok rest
      obtain ⟨_, final, recording, rest⟩ := Program.run_bind_eq_ok rest
      cases rest
      obtain ⟨sound₂, gone⟩ := run_destroyAll_ok rfl sound₁ destroyed
      obtain ⟨sound₃, marked, kept⟩ := run_setConfiguredClientId_ok sound₂ recording
      exact ⟨sound₃, marked, fun absent => absurd (empty absent) nofun,
        fun _ _ _ _ slot other => (kept slot other).trans (gone slot)⟩
    · next own =>
      obtain ⟨_, final, recording, rest⟩ := Program.run_bind_eq_ok rest
      cases rest
      obtain ⟨sound₂, marked, kept⟩ := run_setConfiguredClientId_ok sound₁ recording
      refine ⟨sound₂, marked, fun absent => absurd (empty absent) nofun,
        fun clientId mark differs present => ?_⟩
      refine absurd (bne_iff_ne.2 ?_) own
      obtain read | read := filled clientId mark
      · rw [Option.some.inj read]
        exact differs
      · rw [Option.some.inj read]
        exact present.symm

/-- **Opening a session** reconciles, with a client id. -/
theorem run_start_ok {settings : Settings} {device : Device}
    (run : (Engine.start settings device).run keeper.handle state = (.ok session, last)) :
    session = ⟨settings, device⟩ ∧ settings.clientId ≠ "" ∧
      ∃ foreign, session.reconcile.run keeper.handle state = (.ok foreign, last) := by
  rw [Engine.start] at run
  obtain ⟨made, opened, make, rest⟩ := Program.run_bind_eq_ok run
  obtain ⟨foreign, final, reconciled, rest⟩ := Program.run_bind_eq_ok rest
  cases rest
  rw [Program.run_ofExcept] at make
  obtain ⟨accepted, rfl⟩ := Prod.mk.inj make
  obtain ⟨rfl, present⟩ := Session.eq_of_make accepted
  exact ⟨rfl, present, foreign, reconciled⟩

end Keeper

end GatewaySession
