import GatewaySession.Proofs.Program.Trace
import GatewaySession.Proofs.Vault.Keeping
import GatewaySession.Proofs.Vault.Watching

/-!
# What is stored, from moment to moment

A moment of surroundings that keep what is stored leaves what its effect may leave. So the answers
tell what is stored: what is read was stored, what is removed is gone, and what is stored later but
was not before was written at a moment in between.

## Main definitions

* `Moment.Leaves` — a moment leaves what its effect may leave
* `Moment.Stores` — a value is written at a moment, and lies there afterwards
* `Keeper.Answered`, `Keeper.Stores` — a moment is an answer of a keeper, and one at which a record
  is stored

## Main results

* `Moment.exists_stores` — what is stored at last but was not at first was written in between
-/

namespace GatewaySession

variable {σ : Type} {stored : σ → String → Option Bytes} {moment : Moment σ} {name : String}
  {value : Bytes}

namespace Moment

variable (stored) in
/-- Whether a moment leaves what its effect may leave of what is stored. -/
def Leaves (moment : Moment σ) : Prop :=
  moment.effect.Leaves moment.reply (stored moment.before) (stored moment.after)

variable (stored) in
/-- Whether a value is stored at a moment: it is written, and lies there afterwards. -/
def Stores (name : String) (value : Bytes) (moment : Moment σ) : Prop :=
  moment.effect = .write name value ∧ stored moment.after name = some value

/-- A removal that succeeds leaves nothing. -/
theorem Leaves.removed (h : moment.Leaves stored)
    (gone : moment.toEvent = ⟨.remove name, .ok ()⟩) : stored moment.after name = none := by
  obtain ⟨⟨effect, reply⟩, before, after⟩ := moment
  cases gone
  rw [show stored after = _ from h]
  exact Function.update_self _ _ _

/-- A removal that may have failed leaves what was there, or nothing. -/
theorem Leaves.eq_or_removed (h : moment.Leaves stored) (removes : moment.effect = .remove name) :
    stored moment.after name = stored moment.before name ∨ stored moment.after name = none := by
  obtain ⟨⟨effect, reply⟩, before, after⟩ := moment
  obtain rfl : effect = .remove name := removes
  have gone (same : stored after = Function.update (stored before) name none) :
      stored after name = none := by
    rw [same]
    exact Function.update_self _ _ _
  cases reply with
  | error error => exact h.imp (fun same => congrFun same name) gone
  | ok _ => exact .inr (gone h)

/-- A write that succeeds stores. -/
theorem Leaves.stores (h : moment.Leaves stored)
    (written : moment.toEvent = ⟨.write name value, .ok ()⟩) : moment.Stores stored name value := by
  obtain ⟨⟨effect, reply⟩, before, after⟩ := moment
  cases written
  refine ⟨rfl, ?_⟩
  rw [show stored after = _ from h]
  exact Function.update_self _ _ _

/-- What neither a write nor a removal is about stays. -/
theorem Leaves.stored_eq (h : moment.Leaves stored)
    (kept : ∀ value, moment.effect ≠ .write name value) (left : moment.effect ≠ .remove name) :
    stored moment.after name = stored moment.before name := by
  obtain ⟨⟨effect, reply⟩, before, after⟩ := moment
  have update {other : String} {value : Option Bytes} (differs : other ≠ name)
      (same : stored after = Function.update (stored before) other value) :
      stored after name = stored before name := by
    rw [same]
    exact Function.update_of_ne differs.symm _ _
  cases effect with
  | write other value =>
    have differs : other ≠ name := fun same => kept value (same ▸ rfl)
    cases reply with
    | error error => exact h.elim (fun same => congrFun same name) (update differs)
    | ok _ => exact update differs h
  | remove other =>
    have differs : other ≠ name := fun same => left (same ▸ rfl)
    cases reply with
    | error error => exact h.elim (fun same => congrFun same name) (update differs)
    | ok _ => exact update differs h
  | _ => exact congrFun h name

/-- **What is stored at last** but was not at first was written in between. -/
theorem exists_stores {moments : List (Moment σ)} {first last : String → Option Bytes}
    (leaves : ∀ moment ∈ moments, moment.Leaves stored) (linked : Linked stored first moments last)
    (absent : first name ≠ some value) (present : last name = some value) :
    ∃ early moment late, moments = early ++ moment :: late ∧ moment.Stores stored name value := by
  obtain ⟨early, moment, late, rfl, before, after⟩ :=
    linked.exists_turn (fun stored => stored name = some value) absent present
  have here := leaves moment (List.mem_append_right _ List.mem_cons_self)
  exact ⟨early, moment, late, rfl, here.eq_write before after, after⟩

end Moment

namespace Keeper

variable {vault : Vault} {key : Aes256.Key} {keeper : Keeper σ vault key}

variable (keeper) in
/-- A keeper has one key for the vault. -/
theorem keyed {state : σ} (effect : Effect) (sound : keeper.IsSound state) :
    vault.Keyed key effect (keeper.handle effect state).1 := by
  cases effect with
  | sealingKey name =>
    cases answered : (keeper.handle (.sealingKey name) state).1 with
    | error error => trivial
    | ok other =>
      rintro rfl
      exact keeper.sealingKey other sound answered
  | _ => trivial

variable (keeper) in
/-- Whether a moment is an answer of the keeper. -/
def Answered (moment : Moment σ) : Prop :=
  keeper.IsSound moment.before ∧
    keeper.handle moment.effect moment.before = (moment.reply, moment.after)

variable (keeper) in
/-- Whether a record is stored at a moment: its blob is written, and lies in the slot afterwards. -/
def Stores (slot : Slot) (blob : Bytes) (moment : Moment σ) : Prop :=
  moment.effect = .write (vault.keyFor slot) blob ∧ keeper.inSlot moment.after slot = some blob

theorem answered_of_mem_trace {α : Type} {program : Program α} {state : σ}
    (sound : keeper.IsSound state) (mem : moment ∈ program.trace keeper.handle state) :
    keeper.Answered moment :=
  ⟨Program.before_of_mem_trace (fun effect _ => keeper.isSound effect) sound mem,
    Program.answered_of_mem_trace mem⟩

namespace Answered

theorem leaves (h : keeper.Answered moment) : moment.Leaves keeper.stored := by
  have leaves := keeper.leaves moment.effect h.1
  rwa [h.2] at leaves

/-- What is read is stored. -/
theorem read (h : keeper.Answered moment) {value : Option Bytes}
    (found : moment.toEvent = ⟨.read name, .ok value⟩) :
    value = keeper.stored moment.before name := by
  obtain ⟨⟨effect, reply⟩, before, after⟩ := moment
  cases found
  exact keeper.read name value h.1 (congrArg Prod.fst h.2)

end Answered

end Keeper

end GatewaySession
