import GatewaySession.Proofs.Vault.Custody
import GatewaySession.Proofs.Vault.Tidying

/-!
# Surroundings that tell the truth about records

A key store that does not give a key out may say why, but not that a record is damaged, and the
clock tells times that can be written down. Where this is so, what is looked up in a slot is what
can be read there, even if everything may fail at any time. And a record that can be read is there
as long as nobody writes to its slot: looking it up does not remove it, and neither does looking
after other slots.

## Main definitions

* `Keeper.IsCandid` — the surroundings
* `Keeper.Spares`, `Keeper.Sparing` — a slot holds what it held, after a run and after every run of
  a program
* `Keeper.Retains`, `Keeper.Retaining` — a record that could be read in a slot can still be

## Main results

* `Keeper.spares_of_performs` — looking after other slots spares a slot
* `Keeper.content_of_readable` — what is looked up is what can be read
* `Keeper.retaining_readable` — looking up retains every record
* `Keeper.content_of_store` — what is stored can be read
-/

namespace GatewaySession

open Program (Closed Performs)

variable {σ α : Type}

/-- A program leads where each of the effects leads that it performs. -/
theorem Program.Performs.leads {handle : (effect : Effect) → σ → effect.Reply × σ}
    {relation : σ → List (Moment σ) → σ → Prop} (chains : Chains relation)
    {permits : Effect → Prop} (step : ∀ {effect : Effect}, permits effect →
      ∀ state, relation state [.of handle effect state] (handle effect state).2)
    {program : Program α} (h : program.Performs permits) : program.Leads handle relation := by
  induction program with
  | done result => exact chains.refl
  | perform effect next ih =>
    exact fun state => chains.trans (step h.1 state) (ih _ (h.2 _ trivial) _)

namespace Keeper

variable {vault : Vault} {key : Aes256.Key} (keeper : Keeper σ vault key)

/-! ### What the surroundings say -/

/-- Whether the key store says nothing of the records, and times can be written down. -/
structure IsCandid : Prop where
  /-- A key store that does not give the key out does not say that a record is damaged. -/
  silent {state : σ} {detail : String} : keeper.IsSound state →
    (keeper.handle (.sealingKey vault.name) state).1 ≠ .error (.integrity detail)
  /-- The times of the clock can be written down. -/
  plain {state : σ} : keeper.IsSound state → (keeper.handle .time state).1.IsPlain

/-- Whether a slot holds what it held. -/
def Spares (slot : Slot) (first : σ) (_ : List (Moment σ)) (last : σ) : Prop :=
  keeper.IsSound first →
    keeper.IsSound last ∧ keeper.inSlot last slot = keeper.inSlot first slot

/-- Whether a slot holds what it held after every run of a program. -/
abbrev Sparing (slot : Slot) (α : Type) (program : Program α) : Prop :=
  program.Leads keeper.handle (keeper.Spares slot)

/-- Whether a record that could be read in a slot still can. -/
def Retains (slot : Slot) (first : σ) (_ : List (Moment σ)) (last : σ) : Prop :=
  keeper.IsSound first →
    keeper.IsSound last ∧ ∀ record, keeper.content first slot = some record →
      keeper.content last slot = some record

/-- Whether a record that could be read in a slot still can after every run of a program. -/
abbrev Retaining (slot : Slot) (α : Type) (program : Program α) : Prop :=
  program.Leads keeper.handle (keeper.Retains slot)

variable {keeper} {slot : Slot} {first last state : σ} {moments : List (Moment σ)}

/-! ### Leaving a slot alone -/

/-- A slot that holds what it held has the same record. -/
theorem Spares.content_eq (h : keeper.Spares slot first moments last)
    (sound : keeper.IsSound first) : keeper.content last slot = keeper.content first slot := by
  rw [content, (h sound).2, content]

theorem Spares.retains (h : keeper.Spares slot first moments last) :
    keeper.Retains slot first moments last :=
  fun sound => ⟨(h sound).1, fun _ present => (h.content_eq sound).trans present⟩

variable (keeper slot) in
theorem chains_spares : Chains (keeper.Spares slot) where
  refl _ sound := ⟨sound, rfl⟩
  trans h h' sound := by
    obtain ⟨between, same⟩ := h sound
    obtain ⟨last, same'⟩ := h' between
    exact ⟨last, same'.trans same⟩

variable (keeper slot) in
theorem chains_retains : Chains (keeper.Retains slot) where
  refl _ sound := ⟨sound, fun _ present => present⟩
  trans h h' sound := by
    obtain ⟨between, kept⟩ := h sound
    obtain ⟨last, kept'⟩ := h' between
    exact ⟨last, fun record present => kept' record (kept record present)⟩

variable (keeper) in
/-- An effect that neither fills nor empties a slot spares it. -/
theorem spares_of (effect : Effect) (state : σ)
    (unwritten : ∀ value, effect ≠ .write (vault.keyFor slot) value)
    (unremoved : effect ≠ .remove (vault.keyFor slot)) :
    keeper.Spares slot state [.of keeper.handle effect state] (keeper.handle effect state).2 := by
  intro sound
  have leaves : (Moment.of keeper.handle effect state).Leaves keeper.stored :=
    keeper.leaves effect sound
  exact ⟨keeper.isSound effect sound, leaves.stored_eq unwritten unremoved⟩

variable (keeper) in
/-- **Looking after other slots** spares a slot. -/
theorem spares_of_performs {slots : Slot → Prop} {drops : Prop} (spared : ¬slots slot)
    {program : Program α} (tends : program.Performs (vault.Tends slots drops)) :
    keeper.Sparing slot _ program := by
  refine tends.leads (chains_spares keeper slot) fun {effect} tends state => ?_
  have other : ¬∃ slot', slots slot' ∧ vault.keyFor slot = vault.keyFor slot' := by
    rintro ⟨slot', tended, same⟩
    exact spared (vault.keyFor_injective same ▸ tended)
  apply keeper.spares_of effect state
  · rintro value rfl
    exact other tends
  · rintro rfl
    exact other tends

variable (keeper slot) in
theorem closed_retaining : Closed (keeper.Retaining slot) where
  toFormed := by
    refine Program.formed_leads (chains_retains keeper slot) fun {effect} neutral state =>
      (keeper.spares_of _ state ?_ ?_).retains
    · rintro value rfl
      exact neutral
    · rintro rfl
      exact neutral
  caches connection state :=
    (keeper.spares_of (.cacheConnection (some connection)) state nofun nofun).retains

/-- What a run retains. -/
theorem content_of_run {program : Program α} {result : Except Error α}
    (retaining : keeper.Retaining slot _ program) (sound : keeper.IsSound state)
    (run : program.run keeper.handle state = (result, last)) {record : slot.Content}
    (present : keeper.content state slot = some record) :
    keeper.content last slot = some record := by
  have kept := (retaining state sound).2 record present
  rwa [run] at kept

/-- What a run leaves alone that looks after other slots. -/
theorem content_eq_of_run {slots : Slot → Prop} {drops : Prop} {program : Program α}
    {result : Except Error α} (tends : program.Performs (vault.Tends slots drops))
    (spared : ¬slots slot) (sound : keeper.IsSound state)
    (run : program.run keeper.handle state = (result, last)) :
    keeper.content last slot = keeper.content state slot := by
  have spares := keeper.spares_of_performs spared tends state
  rw [run] at spares
  exact spares.content_eq sound

/-- The surroundings stay as they should be. -/
theorem isSound_run {program : Program α} {result : Except Error α} (sound : keeper.IsSound state)
    (run : program.run keeper.handle state = (result, last)) : keeper.IsSound last := by
  induction program generalizing state with
  | done result =>
    obtain ⟨-, rfl⟩ := Prod.mk.inj run
    exact sound
  | perform effect next ih => exact ih _ (keeper.isSound effect sound) run

/-! ### Looking a slot up -/

/-- What happens while a slot is read complies. -/
theorem IsCandid.comply_read (candid : keeper.IsCandid) [Record α]
    {result : Except Error (Option α)} (sound : keeper.IsSound state)
    (goes : (vault.read slot : Program (Option α)).Goes keeper.handle state moments result last) :
    Comply moments := by
  -- Reading asks for a value, and then at most for the key.
  have looks : (vault.read slot : Program (Option α)).Performs fun effect =>
      (∃ name, effect = .read name) ∨ effect = .sealingKey vault.name :=
    Vault.performs_read (.inr rfl) (.inl ⟨_, rfl⟩)
  intro moment mem
  have looked := goes.performs looks moment mem
  obtain ⟨sound', answered⟩ := keeper.answered_of_mem_trace sound (goes.2 ▸ mem)
  obtain ⟨⟨effect, reply⟩, before, after⟩ := moment
  obtain ⟨name, rfl⟩ | rfl := looked
  · rfl
  cases reply with
  | ok _ => rfl
  | error error =>
    cases error with
    | integrity detail => exact absurd (congrArg Prod.fst answered) (candid.silent sound')
    | _ => rfl

/-- **What is read** in a slot is its content, and it has none if it is unreadable. -/
theorem IsCandid.read_cases (candid : keeper.IsCandid)
    {result : Except Error (Option slot.Content)} (sound : keeper.IsSound state)
    (run : (vault.read slot : Program (Option slot.Content)).run keeper.handle state =
      (result, last)) :
    (∀ found, result = .ok found → found = keeper.content state slot) ∧
      ∀ detail, result = .error (.integrity detail) → keeper.content state slot = none :=
  goes_read sound ⟨run, rfl⟩ (candid.comply_read sound ⟨run, rfl⟩)

section

variable {session : Session} {keeper : Keeper σ session.vault key}

/-- **What is looked up** in a slot is what can be read there. -/
theorem content_of_readable (candid : keeper.IsCandid) (sound : keeper.IsSound state)
    {found : Option slot.Content}
    (run : (session.readable slot (session.vault.read slot : Program (Option slot.Content))).run
      keeper.handle state = (.ok found, last)) : found = keeper.content state slot := by
  cases read :
      (session.vault.read slot : Program (Option slot.Content)).run keeper.handle state with
  | mk result between =>
  obtain ⟨present, damaged⟩ := candid.read_cases sound read
  rw [Session.readable, Program.run_attempt_bind read] at run
  split at run
  next detail =>
    obtain ⟨_, _, -, run⟩ := Program.run_bind_eq_ok run
    obtain ⟨done, -⟩ := Prod.mk.inj run
    rw [damaged detail rfl]
    exact (Except.ok.inj done).symm
  next =>
    obtain ⟨rfl, -⟩ := Prod.mk.inj run
    exact present found rfl

variable (session) in
/-- **Looking a slot up** retains its record: only one that cannot be read is removed. -/
theorem retaining_readable (candid : keeper.IsCandid) (slot : Slot) :
    keeper.Retaining slot _
      (session.readable slot (session.vault.read slot : Program (Option slot.Content))) := by
  intro state sound
  have looks : (session.vault.read slot : Program (Option slot.Content)).Performs
      (session.vault.Tends (fun _ => False) False) := Vault.tends_read
  have looking := (keeper.spares_of_performs id looks : keeper.Sparing slot _ _) state
  refine ⟨isSound_run sound rfl, fun record present => ?_⟩
  cases read :
      (session.vault.read slot : Program (Option slot.Content)).run keeper.handle state with
  | mk result between =>
  rw [read] at looking
  rw [Session.readable, Program.run_attempt_bind read]
  split
  next detail =>
    -- What is removed could not be read.
    cases ((candid.read_cases sound read).2 detail rfl).symm.trans present
  next => exact (looking.content_eq sound).trans present

end

/-! ### Filling a slot -/

/-- **What is stored** in a slot can be read there, if it is faithful. -/
theorem content_of_store {value : slot.Content} (faithful : Record.Faithful value)
    (sound : keeper.IsSound state)
    (run : (vault.store slot value).run keeper.handle state = (.ok (), last)) :
    keeper.content last slot = some value := by
  obtain ⟨-, nonce, stored⟩ := run_store_ok sound run
  rw [content, inSlot, stored, Function.update_self, Option.bind_some]
  exact Vault.content?_blob faithful nonce

end Keeper

end GatewaySession
