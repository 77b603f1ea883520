import GatewaySession.Proofs.Session.Course
import GatewaySession.Proofs.Vault.Moments
import GatewaySession.Proofs.Vault.Refinement

/-!
# What looking things up leaves behind

A record that cannot be read counts as absent, and whoever comes across it removes it. So even a
session that only looks may change what is stored, but in one way only: a record that could not be
read anyway is gone.

Reading, writing and asking for a key may fail here at any time. Storage removes and lists as it is
told, and a key store that does not give a key out does not say that a record is damaged.

## Main definitions

* `Event.complies` — an answer of a storage that removes and lists as it is told
* `Event.succeeds` — an answer of a storage that reads and writes, and of an unlocked key store
* `Keeper.content` — the record that can be read from a slot
* `Keeper.Tidied` — nothing has changed, but for unreadable records of some slots that are gone
* `Keeper.Tidying` — programs after which this is so

## Main results

* `Keeper.closed_tidying`, `Keeper.tidying_readable` — looking things up leaves nothing else behind
* `Keeper.goes_clear`, `Keeper.goes_clearAll` — emptying one slot, and all
* `Keeper.goes_store` — filling a slot, which may fail
-/

namespace GatewaySession

open Program (Closed Goes)

namespace Event

/-- Whether an answer is that of a storage that removes and lists as it is told, or of a key store
that says nothing of the records. Everything else may fail. -/
def complies : Event → Bool
  | ⟨.remove _, .error _⟩ => false
  | ⟨.list _, .error _⟩ => false
  | ⟨.list start, .ok names⟩ => names.all fun name => start.toList.isPrefixOf name.toList
  | ⟨.sealingKey _, .error (.integrity _)⟩ => false
  | _ => true

/-- Whether an answer is that of a storage that reads and writes, or of a key store that is
unlocked. -/
def succeeds : Event → Bool
  | ⟨.read _, .error _⟩ => false
  | ⟨.write _ _, .error _⟩ => false
  | ⟨.sealingKey _, .error _⟩ => false
  | _ => true

theorem complies_remove {name : String} {reply : Except Error Unit} :
    complies ⟨.remove name, reply⟩ = true ↔ reply = .ok () := by
  cases reply with
  | error error => simp [complies]
  | ok _ => simp [complies]

theorem complies_list {start : String} {reply : Except Error (List String)} :
    complies ⟨.list start, reply⟩ = true ↔
      ∃ names, reply = .ok names ∧ ∀ name ∈ names, start.toList.isPrefixOf name.toList = true := by
  cases reply with
  | error error => simp [complies]
  | ok names => simp [complies]

theorem not_complies_integrity (name detail : String) :
    complies ⟨.sealingKey name, .error (.integrity detail)⟩ = false := rfl

theorem succeeds_read {name : String} {reply : Except Error (Option Bytes)} :
    succeeds ⟨.read name, reply⟩ = true ↔ ∃ found, reply = .ok found := by
  cases reply with
  | error error => simp [succeeds]
  | ok found => simp [succeeds]

theorem succeeds_write {name : String} {value : Bytes} {reply : Except Error Unit} :
    succeeds ⟨.write name value, reply⟩ = true ↔ reply = .ok () := by
  cases reply with
  | error error => simp [succeeds]
  | ok _ => simp [succeeds]

theorem succeeds_sealingKey {name : String} {reply : Except Error Aes256.Key} :
    succeeds ⟨.sealingKey name, reply⟩ = true ↔ ∃ key, reply = .ok key := by
  cases reply with
  | error error => simp [succeeds]
  | ok key => simp [succeeds]

end Event

variable {σ α : Type}

/-- Whether all moments comply. -/
def Comply (moments : List (Moment σ)) : Prop := ∀ moment ∈ moments, moment.toEvent.complies = true

instance (moments : List (Moment σ)) : Decidable (Comply moments) :=
  inferInstanceAs (Decidable (∀ moment ∈ moments, moment.toEvent.complies = true))

theorem comply_append {early late : List (Moment σ)} :
    Comply (early ++ late) ↔ Comply early ∧ Comply late := List.forall_mem_append

theorem comply_cons {moment : Moment σ} {late : List (Moment σ)} :
    Comply (moment :: late) ↔ moment.toEvent.complies = true ∧ Comply late := List.forall_mem_cons

/-- Whether reading, writing and asking for keys succeeds at all moments. -/
def Succeed (moments : List (Moment σ)) : Prop := ∀ moment ∈ moments, moment.toEvent.succeeds = true

theorem succeed_append {early late : List (Moment σ)} :
    Succeed (early ++ late) ↔ Succeed early ∧ Succeed late := List.forall_mem_append

theorem succeed_cons {moment : Moment σ} {late : List (Moment σ)} :
    Succeed (moment :: late) ↔ moment.toEvent.succeeds = true ∧ Succeed late := List.forall_mem_cons

namespace Keeper

variable {vault : Vault} {key : Aes256.Key} (keeper : Keeper σ vault key)

/-- The record that can be read from a slot. -/
def content (state : σ) (slot : Slot) : Option slot.Content :=
  (keeper.inSlot state slot).bind (vault.content? key)

/-- Whether what is stored is what was stored, but for records of some slots that could not be read
and are gone. -/
structure Tidied (slots : Slot → Prop) (first last : σ) : Prop where
  /-- The surroundings still keep what is stored. -/
  sound : keeper.IsSound last
  /-- What is stored under a name. -/
  stored (name : String) : keeper.stored last name = keeper.stored first name ∨
    ∃ slot, slots slot ∧ name = vault.keyFor slot ∧ keeper.content first slot = none ∧
      keeper.stored last name = none

/-- Whether slots are tidied up if all moments comply. -/
def Tidies (slots : Slot → Prop) (first : σ) (moments : List (Moment σ)) (last : σ) : Prop :=
  keeper.IsSound first → Comply moments → keeper.Tidied slots first last

/-- Whether a program leaves what is stored as it was, but for unreadable records. -/
abbrev Tidying (slots : Slot → Prop) (α : Type) (program : Program α) : Prop :=
  program.Leads keeper.handle (keeper.Tidies slots)

variable {keeper} {slots : Slot → Prop} {slot : Slot} {first between state last : σ}
  {moments : List (Moment σ)}

namespace Tidied

theorem of_stored_eq (sound : keeper.IsSound last)
    (same : keeper.stored last = keeper.stored first) : keeper.Tidied slots first last :=
  ⟨sound, fun name => .inl (congrFun same name)⟩

theorem refl (sound : keeper.IsSound first) : keeper.Tidied slots first first :=
  .of_stored_eq sound rfl

/-- A slot is as it was, or its record could not be read and is gone. -/
theorem inSlot (h : keeper.Tidied slots first last) (slot : Slot) :
    keeper.inSlot last slot = keeper.inSlot first slot ∨
      slots slot ∧ keeper.content first slot = none ∧ keeper.inSlot last slot = none := by
  obtain same | ⟨other, tidied, own, absent, empty⟩ := h.stored (vault.keyFor slot)
  · exact .inl same
  · obtain rfl := vault.keyFor_injective own
    exact .inr ⟨tidied, absent, empty⟩

/-- The same records can be read. -/
theorem content_eq (h : keeper.Tidied slots first last) (slot : Slot) :
    keeper.content last slot = keeper.content first slot := by
  obtain same | ⟨-, absent, empty⟩ := h.inSlot slot
  · rw [content, same, content]
  · rw [absent, content, empty, Option.bind_none]

theorem trans (h : keeper.Tidied slots first between) (h' : keeper.Tidied slots between last) :
    keeper.Tidied slots first last := by
  refine ⟨h'.sound, fun name => ?_⟩
  obtain same' | ⟨slot, tidied, own, absent, empty⟩ := h'.stored name
  · rw [same']
    exact h.stored name
  · exact .inr ⟨slot, tidied, own, (h.content_eq slot).symm.trans absent, empty⟩

/-- What is stored under other names is what was stored there. -/
theorem stored_eq (h : keeper.Tidied slots first last) {name : String}
    (other : ∀ slot, slots slot → name ≠ vault.keyFor slot) :
    keeper.stored last name = keeper.stored first name := by
  obtain same | ⟨slot, tidied, own, -⟩ := h.stored name
  · exact same
  · exact absurd own (other slot tidied)

/-- Where no slot is tidied, nothing changes. -/
theorem unchanged (h : keeper.Tidied (fun _ => False) first last) :
    keeper.stored last = keeper.stored first :=
  funext fun _ => h.stored_eq fun _ none => none.elim

end Tidied

/-! ### Looking things up -/

variable (keeper slots) in
theorem chains_tidies : Chains (keeper.Tidies slots) where
  refl _ sound _ := .refl sound
  trans h h' sound comply := by
    obtain ⟨early, late⟩ := comply_append.1 comply
    have tidied := h sound early
    exact tidied.trans (h' tidied.sound late)

variable (keeper slots) in
/-- An effect that neither writes nor removes changes nothing. -/
theorem tidies_of {effect : Effect} (state : σ)
    (unwritten : ∀ name value, effect ≠ .write name value)
    (unremoved : ∀ name, effect ≠ .remove name) :
    keeper.Tidies slots state [.of keeper.handle effect state] (keeper.handle effect state).2 := by
  intro sound _
  refine .of_stored_eq (keeper.isSound effect sound) (funext fun name => ?_)
  have leaves : (Moment.of keeper.handle effect state).Leaves keeper.stored :=
    keeper.leaves effect sound
  exact leaves.stored_eq (unwritten name) (unremoved name)

variable (keeper slots) in
theorem closed_tidying : Closed (keeper.Tidying slots) where
  toFormed := by
    refine Program.formed_leads (chains_tidies keeper slots) fun {effect} neutral state => ?_
    apply keeper.tidies_of slots state
    · rintro name value rfl
      exact neutral
    · rintro name rfl
      exact neutral
  caches _ state := keeper.tidies_of slots state nofun nofun

variable (keeper slots) in
/-- Sending a request changes nothing. -/
theorem tidying_send (connection : Connection) (purpose : Purpose) (request : Request) :
    keeper.Tidying slots _ (Program.send connection purpose request) :=
  fun state => keeper.tidies_of slots state nofun nofun

/-- **What is read** from a slot is its content, and it has none if it is unreadable. -/
theorem goes_read {result : Except Error (Option slot.Content)} (sound : keeper.IsSound state)
    (goes : (vault.read slot : Program (Option slot.Content)).Goes keeper.handle state moments
      result last) (comply : Comply moments) :
    (∀ found, result = .ok found → found = keeper.content state slot) ∧
      ∀ detail, result = .error (.integrity detail) → keeper.content state slot = none := by
  obtain ⟨run, rfl⟩ := goes
  have ends := Program.ends_trace keeper.handle
    (vault.read slot : Program (Option slot.Content)) state
  rw [run] at ends
  have keyed : ∀ event ∈ ((vault.read slot : Program (Option slot.Content)).trace keeper.handle
      state).map (·.toEvent), vault.Keyed key event.effect event.reply := by
    intro event mem
    obtain ⟨moment, within, rfl⟩ := List.mem_map.1 mem
    obtain ⟨sound', answered⟩ := keeper.answered_of_mem_trace sound within
    have keyed := keeper.keyed moment.effect sound'
    rwa [answered] at keyed
  obtain ⟨reply, rest, same, found, unreadable⟩ := Vault.read_ends keyed (fun detail mem => by
    obtain ⟨moment, within, same⟩ := List.mem_map.1 mem
    have complies := comply moment within
    rw [same] at complies
    cases (Event.not_complies_integrity _ detail).symm.trans complies) ends
  -- The first moment reads the slot.
  obtain ⟨here, -⟩ := List.cons.inj same
  have stored {blob : Option Bytes} (answered : reply = .ok blob) :
      blob = keeper.inSlot state slot := by
    cases here
    exact keeper.read _ _ sound answered
  refine ⟨fun _ done => ?_, fun detail damaged => ?_⟩
  · obtain ⟨blob, answered, rfl⟩ := found _ done
    rw [stored answered]
    rfl
  · obtain ⟨blob, answered, absent⟩ := unreadable detail damaged
    rw [content, ← stored answered]
    exact absent

/-- An empty slot reads as nothing, unless storage fails. -/
theorem goes_read_empty [Record α] {result : Except Error (Option α)} (sound : keeper.IsSound state)
    (goes : (vault.read slot : Program (Option α)).Goes keeper.handle state moments result last)
    (empty : keeper.inSlot state slot = none) :
    result = .ok none ∨
      (∃ name source, result = .error (.storageOperation "get" name source)) ∧
        ¬Succeed moments := by
  unfold Vault.read at goes
  obtain ⟨error, failed, rfl⟩ | ⟨found, between, early, late, rfl, reading, rest⟩ := goes.of_bind
  · obtain ⟨rfl, -, ended⟩ := Vault.goes_of_about failed
    obtain ⟨source, refused, wrapped⟩ | ⟨_, -, absurd⟩ := ended
    · refine .inr ⟨⟨_, source, congrArg _ (Except.error.inj wrapped)⟩, fun succeed => ?_⟩
      obtain ⟨_, answered⟩ := Event.succeeds_read.1 (succeed_cons.1 succeed).1
      cases refused.symm.trans answered
    · cases absurd
  · obtain ⟨-, -, ⟨_, -, absurd⟩ | ⟨stored, answered, same⟩⟩ := Vault.goes_of_about reading
    · cases absurd
    · cases same
      rw [keeper.read _ _ sound answered, ← inSlot, empty] at rest
      exact .inl rest.of_done.2.1

/-! ### Removing -/

/-- A guarded program, without the guard. -/
theorem goes_guarded {program : Program α} {result : Except Error α} (sound : keeper.IsSound state)
    (goes : program.guarded.Goes keeper.handle state moments result last) :
    ∃ held within between, keeper.IsSound held ∧ keeper.stored held = keeper.stored state ∧
      program.Goes keeper.handle held within result between ∧ within ⊆ moments ∧
      (keeper.IsSound between →
        keeper.IsSound last ∧ keeper.stored last = keeper.stored between) := by
  obtain ⟨within, between, rfl, inside, rfl⟩ := goes.of_guarded
  refine ⟨_, within, between, keeper.isSound .hold sound, keeper.leaves .hold sound, inside, ?_,
    fun sound' => ⟨keeper.isSound .release sound', keeper.leaves .release sound'⟩⟩
  exact fun _ mem => List.mem_cons_of_mem _ (List.mem_append_left _ mem)

/-- A removal succeeds, and nothing is left under the name. -/
theorem goes_remove {name : String} {result : Except Error Unit} (sound : keeper.IsSound state)
    (goes : (Vault.about "delete" name (.remove name)).Goes keeper.handle state moments result last)
    (comply : Comply moments) :
    result = .ok () ∧ keeper.IsSound last ∧
      keeper.stored last = Function.update (keeper.stored state) name none := by
  obtain ⟨rfl, rfl, ended⟩ := Vault.goes_of_about goes
  have removed := Event.complies_remove.1 (comply_cons.1 comply).1
  refine ⟨?_, keeper.after_remove sound (Prod.ext removed rfl)⟩
  obtain ⟨source, failed, -⟩ | ⟨_, -, done⟩ := ended
  · cases removed.symm.trans failed
  · exact done

/-- **Emptying a slot** succeeds. -/
theorem goes_clear {result : Except Error Unit} (sound : keeper.IsSound state)
    (goes : (vault.clear slot).Goes keeper.handle state moments result last)
    (comply : Comply moments) :
    result = .ok () ∧ keeper.IsSound last ∧
      keeper.stored last = Function.update (keeper.stored state) (vault.keyFor slot) none := by
  obtain ⟨held, within, between, sound', same, inside, sub, rest⟩ := goes_guarded sound goes
  obtain ⟨done, removed, update⟩ := goes_remove sound' inside fun _ mem => comply _ (sub mem)
  obtain ⟨sound'', kept⟩ := rest removed
  exact ⟨done, sound'', by rw [kept, update, same]⟩

/-- What follows the emptying of a slot always comes to pass. -/
theorem goes_clear_bind {rest : Program α} {result : Except Error α} (sound : keeper.IsSound state)
    (goes : (vault.clear slot >>= fun _ => rest).Goes keeper.handle state moments result last)
    (comply : Comply moments) :
    ∃ between late, keeper.IsSound between ∧
      keeper.stored between = Function.update (keeper.stored state) (vault.keyFor slot) none ∧
      rest.Goes keeper.handle between late result last ∧ Comply late := by
  obtain ⟨_, failed, -⟩ | ⟨_, between, early, late, rfl, clearing, rest⟩ := goes.of_bind
  · cases (goes_clear sound failed comply).1
  · obtain ⟨first, later⟩ := comply_append.1 comply
    obtain ⟨-, sound', update⟩ := goes_clear sound clearing first
    exact ⟨between, late, sound', update, rest, later⟩

/-- Removing names one after the other succeeds, and what is stored under other names stays. -/
theorem goes_removeKeys {names : List String} {result : Except Error Unit}
    (sound : keeper.IsSound state)
    (goes : (Vault.removeKeys names).Goes keeper.handle state moments result last)
    (comply : Comply moments) :
    result = .ok () ∧ keeper.IsSound last ∧ ∀ name, keeper.stored last name =
      if name ∈ names then none else keeper.stored state name := by
  induction names generalizing state moments with
  | nil =>
    obtain ⟨-, rfl, rfl⟩ := goes.of_done
    exact ⟨rfl, sound, fun name => (if_neg List.not_mem_nil).symm⟩
  | cons other names ih =>
    obtain ⟨error, failed, -⟩ | ⟨_, between, early, late, rfl, removed, later⟩ := goes.of_bind
    · cases (goes_remove sound failed comply).1
    obtain ⟨first, rest⟩ := comply_append.1 comply
    obtain ⟨-, sound', update⟩ := goes_remove sound removed first
    obtain ⟨done, sound'', gone⟩ := ih sound' later rest
    refine ⟨done, sound'', fun name => ?_⟩
    rw [gone, update]
    by_cases same : name = other
    · rw [same, Function.update_self, if_pos List.mem_cons_self, ite_self]
    · rw [Function.update_of_ne same]
      simp only [List.mem_cons, same, false_or]

/-- A listing succeeds, and lists what is stored under names that begin alike, and no others. -/
theorem goes_list {start : String} {result : Except Error (List String)}
    (sound : keeper.IsSound state)
    (goes : (Vault.about "list" start (.list start)).Goes keeper.handle state moments result last)
    (comply : Comply moments) :
    keeper.IsSound last ∧ keeper.stored last = keeper.stored state ∧ ∃ names, result = .ok names ∧
      (∀ name ∈ names, start.toList.isPrefixOf name.toList = true) ∧
      ∀ name, start.toList.isPrefixOf name.toList = true → keeper.stored state name ≠ none →
        name ∈ names := by
  obtain ⟨rfl, rfl, ended⟩ := Vault.goes_of_about goes
  obtain ⟨names, listed, begin⟩ := Event.complies_list.1 (comply_cons.1 comply).1
  obtain ⟨sound', same, mem⟩ := keeper.after_list sound (Prod.ext listed rfl)
  refine ⟨sound', same, names, ?_, begin, mem⟩
  obtain ⟨source, failed, -⟩ | ⟨_, others, done⟩ := ended
  · cases listed.symm.trans failed
  · exact done.trans (others.symm.trans listed)

/-- **Emptying every slot** succeeds. Nothing is left under any name that begins as the vault's do,
and what is stored under other names stays. -/
theorem goes_clearAll {result : Except Error Unit} (sound : keeper.IsSound state)
    (goes : vault.clearAll.Goes keeper.handle state moments result last)
    (comply : Comply moments) :
    result = .ok () ∧ keeper.IsSound last ∧ ∀ name, keeper.stored last name =
      if vault.keyStart.toList.isPrefixOf name.toList then none else keeper.stored state name := by
  obtain ⟨held, within, between, sound', same, inside, sub, rest⟩ := goes_guarded sound goes
  have complies : Comply within := fun _ mem => comply _ (sub mem)
  obtain ⟨error, failed, -⟩ | ⟨names, after, early, late, rfl, listing, removing⟩ := inside.of_bind
  · obtain ⟨-, -, _, done, -⟩ := goes_list sound' failed complies
    cases done
  obtain ⟨first, later⟩ := comply_append.1 complies
  obtain ⟨sound₁, same₁, _, listed, begin, mem⟩ := goes_list sound' listing first
  cases listed
  obtain ⟨done, sound₂, gone⟩ := goes_removeKeys sound₁ removing later
  obtain ⟨sound'', kept⟩ := rest sound₂
  refine ⟨done, sound'', fun name => ?_⟩
  rw [kept, gone, same₁, same]
  by_cases begins : vault.keyStart.toList.isPrefixOf name.toList = true
  · rw [if_pos begins]
    by_cases empty : keeper.stored held name = none
    · rw [← same, empty, ite_self]
    · exact if_pos (mem name begins empty)
  · rw [if_neg begins, if_neg fun listed => begins (begin name listed)]

/-! ### Storing -/

/-- Sealing succeeds if the key store is unlocked. -/
theorem goes_sealed {plaintext : Bytes} {result : Except Error Bytes}
    (goes : (vault.sealed plaintext).Goes keeper.handle state moments result last)
    (succeed : Succeed moments) : ∃ blob, result = .ok blob := by
  unfold Vault.sealed at goes
  obtain ⟨error, failed, -⟩ | ⟨other, between, early, late, rfl, -, rest⟩ := goes.of_bind
  · obtain ⟨rest, rfl, ended⟩ := failed.of_perform
    obtain ⟨-, refused, -⟩ := ended.of_done
    obtain ⟨_, answered⟩ := Event.succeeds_sealingKey.1 (succeed_cons.1 succeed).1
    cases refused.trans answered
  · obtain ⟨_, -, ended⟩ := rest.of_perform
    exact ⟨_, ended.of_done.2.1⟩

/-- Filling a slot writes the sealed record or nothing, and nothing only if it fails. It may also
fail when the record has been written. -/
theorem goes_write [Record α] {value : α} {result : Except Error Unit}
    (sound : keeper.IsSound state)
    (goes : (vault.write slot value).Goes keeper.handle state moments result last)
    (comply : Comply moments) :
    keeper.IsSound last ∧
      (keeper.stored last = keeper.stored state ∧ result ≠ .ok () ∨
        ∃ nonce, keeper.stored last = Function.update (keeper.stored state) (vault.keyFor slot)
          (some (vault.blob key nonce value))) ∧
      (Succeed moments → result = .ok ()) := by
  have sealed' : keeper.Tidying (fun _ => False) _ (vault.sealed (Record.encode value)) :=
    (closed_tidying keeper _).sealed vault _
  unfold Vault.write at goes
  obtain ⟨error, failed, rfl⟩ | ⟨blob, between, early, late, rfl, sealing, rest⟩ := goes.of_bind
  · have tidied := failed.leads sealed' sound comply
    refine ⟨tidied.sound, .inl ⟨tidied.unchanged, nofun⟩, fun succeed => ?_⟩
    obtain ⟨_, done⟩ := goes_sealed failed succeed
    cases done
  obtain ⟨first, -⟩ := comply_append.1 comply
  obtain ⟨sound', -, nonce, wrapped⟩ := run_sealed_ok sound sealing.1
  obtain ⟨rfl, rfl, ended⟩ := Vault.goes_of_about rest
  have leaves := keeper.leaves (.write (vault.keyFor slot) blob) sound'
  have same := (sealing.leads sealed' sound first).unchanged
  have wrapped : blob = vault.blob key nonce value := wrapped
  refine ⟨keeper.isSound _ sound', ?_, fun succeed => ?_⟩
  · obtain ⟨source, refused, failed⟩ | ⟨_, written, -⟩ := ended
    · rw [refused] at leaves
      obtain kept | update := leaves
      · exact .inl ⟨kept.trans same, by rw [failed]; nofun⟩
      · exact .inr ⟨nonce, by rw [update, same, wrapped]⟩
    · rw [written] at leaves
      have update : keeper.stored _ = _ := leaves
      exact .inr ⟨nonce, by rw [update, same, wrapped]⟩
  · have written := Event.succeeds_write.1 (succeed_cons.1 (succeed_append.1 succeed).2).1
    obtain ⟨source, refused, -⟩ | ⟨_, -, done⟩ := ended
    · cases refused.symm.trans written
    · exact done

/-- **Storing a record** seals it into the slot or changes nothing, and this only if it fails. Where
reading, writing and the key store work, it succeeds. -/
theorem goes_store [Record α] {value : α} {result : Except Error Unit}
    (sound : keeper.IsSound state)
    (goes : (vault.store slot value).Goes keeper.handle state moments result last)
    (comply : Comply moments) :
    keeper.IsSound last ∧
      (keeper.stored last = keeper.stored state ∧ result ≠ .ok () ∨
        ∃ nonce, keeper.stored last = Function.update (keeper.stored state) (vault.keyFor slot)
          (some (vault.blob key nonce value))) ∧
      (Succeed moments → result = .ok ()) := by
  obtain ⟨held, within, between, sound', same, inside, sub, rest⟩ := goes_guarded sound goes
  obtain ⟨kept, written, done⟩ := goes_write sound' inside fun _ mem => comply _ (sub mem)
  obtain ⟨released, unchanged⟩ := rest kept
  rw [same] at written
  rw [unchanged]
  exact ⟨released, written, fun succeed => done fun _ mem => succeed _ (sub mem)⟩

/-! ### A session -/

section

variable {session : Session} {keeper : Keeper σ session.vault key}

/-- **Looking a slot up** finds its content, and leaves everything as it was but for a record in the
slot that cannot be read. -/
theorem goes_readable (tended : slots slot) {result : Except Error (Option slot.Content)}
    (sound : keeper.IsSound state)
    (goes : (session.readable slot (session.vault.read slot : Program (Option slot.Content))).Goes
      keeper.handle state moments result last) (comply : Comply moments) :
    keeper.Tidied slots state last ∧
      ∀ found, result = .ok found → found = keeper.content state slot := by
  obtain ⟨caught, between, early, late, rfl, reading, rest⟩ := goes.of_rescue
  obtain ⟨first, later⟩ := comply_append.1 comply
  have looked : keeper.Tidying slots _ (session.vault.read slot : Program (Option slot.Content)) :=
    (closed_tidying keeper slots).read _ _
  have tidied := reading.leads looked sound first
  obtain ⟨found, unreadable⟩ := goes_read sound reading first
  split at rest
  next detail =>
    -- What is removed has no content.
    obtain ⟨cleared, after, _, _, rfl, clearing, ended⟩ := rest.of_rescue
    obtain ⟨-, rfl, rfl⟩ := ended.of_done
    obtain ⟨-, sound', update⟩ := goes_clear tidied.sound clearing (comply_append.1 later).1
    have absent := unreadable detail rfl
    refine ⟨tidied.trans ⟨sound', fun name => ?_⟩, fun _ done => ?_⟩
    · rw [update]
      by_cases own : name = session.vault.keyFor slot
      · rw [own, Function.update_self]
        exact .inr ⟨slot, tended, rfl, (tidied.content_eq slot).trans absent, rfl⟩
      · exact .inl (Function.update_of_ne own _ _)
    · rw [absent, ← Except.ok.inj done]
  next =>
    obtain ⟨-, rfl, rfl⟩ := rest.of_done
    exact ⟨tidied, found⟩

variable (session keeper) in
theorem tidying_readable (tended : slots slot) :
    keeper.Tidying slots _
      (session.readable slot (session.vault.read slot : Program (Option slot.Content))) :=
  fun state sound comply =>
    (goes_readable tended sound (Program.goes_run keeper.handle _ state) comply).1

end

end Keeper

end GatewaySession
