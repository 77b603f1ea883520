import GatewaySession.Proofs.Session.Performing
import GatewaySession.Proofs.Vault.Moments
import GatewaySession.Proofs.Vault.Refinement

/-!
# Surroundings that fail nowhere but at the gateway

Storage works, the key store is unlocked, and what is cached for a session is there until something
else is cached. The gateway may answer anything or not at all; but only an answer of the gateway
refuses, and where there is none, the error says something else. So it can be said how every
operation of the vault ends, and what a session leaves alone that looks after other slots.

What was asked of the gateway is told from the moments of a run: the requests for a token, with
what they present and how they were answered.

## Main definitions

* `Custodian` — the surroundings
* `Custodian.content` — the record that can be read from a slot
* `Attempt`, `Program.attempts` — the requests for a token in a run
* `Program.Comes` — how a run ends, with the requests for a token in it
* `Vault.Tends` — the effects of looking after some slots
* `Custodian.Spares` — what looking after some slots leaves alone
* `Custodian.Tidied` — a slot is as it was, but for what could not be read

## Main results

* `Custodian.spares_of_performs` — the rest is left alone, and no token is asked for
* `Custodian.comes_readable`, `Custodian.comes_takeRefreshToken` — how reading ends
* `Custodian.comes_store`, `Custodian.comes_clear` — how filling and emptying end
-/

namespace GatewaySession

open Program (Performs)

/-! ### Requests for a token -/

/-- A request for a token: what it presents, and how it was answered. -/
structure Attempt where
  /-- What is presented. -/
  presented : Presented
  /-- The request. -/
  request : Request
  /-- The answer. -/
  reply : Except Error Response

/-- The request for a token that an event is, if it is one. -/
def Event.attempt? : Event → Option Attempt
  | ⟨.send _ (.grant presented) request, reply⟩ => some ⟨presented, request, reply⟩
  | _ => none

namespace Program

variable {σ α β : Type} {handle : (effect : Effect) → σ → effect.Reply × σ}

/-- The requests for a token in a run, in order. -/
def attempts (handle : (effect : Effect) → σ → effect.Reply × σ) (program : Program α)
    (state : σ) : List Attempt :=
  (program.trace handle state).filterMap (·.toEvent.attempt?)

/-- Whether a run ends in a result and a state, with certain requests for a token. -/
def Comes (handle : (effect : Effect) → σ → effect.Reply × σ) (program : Program α) (state : σ)
    (result : Except Error α) (last : σ) (attempts : List Attempt) : Prop :=
  program.run handle state = (result, last) ∧ program.attempts handle state = attempts

namespace Comes

variable {program : Program α} {state between last : σ} {early late : List Attempt}

theorem done (result : Except Error α) (state : σ) :
    (Program.done result).Comes handle state result state [] := ⟨rfl, rfl⟩

/-- An effect that is no request for a token. -/
theorem ask {effect : Effect} (state : σ)
    (plain : Event.attempt? ⟨effect, (handle effect state).1⟩ = none) :
    (Program.ask effect).Comes handle state (.ok (handle effect state).1) (handle effect state).2
      [] := by
  refine ⟨rfl, ?_⟩
  show [Moment.of handle effect state].filterMap (·.toEvent.attempt?) = []
  rw [List.filterMap_cons, List.filterMap_nil, Moment.of, plain]

/-- After a result, a program goes on. -/
theorem bind {f : α → Program β} {a : α} {result : Except Error β}
    (h : program.Comes handle state (.ok a) between early)
    (h' : (f a).Comes handle between result last late) :
    (program >>= f).Comes handle state result last (early ++ late) := by
  refine ⟨(run_bind_ok h.1).trans h'.1, ?_⟩
  rw [attempts, trace_bind_ok h.1, List.filterMap_append]
  exact congrArg₂ _ h.2 h'.2

/-- After an error, a program has ended. -/
theorem bind_error {f : α → Program β} {error : Error}
    (h : program.Comes handle state (.error error) last early) :
    (program >>= f).Comes handle state (.error error) last early := by
  refine ⟨run_bind_error h.1, ?_⟩
  rw [attempts, trace_bind_error h.1]
  exact h.2

/-- A program goes on after one whose errors are caught. -/
theorem rescue {f : Except Error α → Program β} {caught : Except Error α}
    {result : Except Error β} (h : program.Comes handle state caught between early)
    (h' : (f caught).Comes handle between result last late) :
    (program.attempt >>= f).Comes handle state result last (early ++ late) := by
  refine ⟨(run_attempt_bind h.1).trans h'.1, ?_⟩
  rw [attempts, trace_attempt_bind h.1, List.filterMap_append]
  exact congrArg₂ _ h.2 h'.2

end Comes

end Program

/-! ### The surroundings -/

/-- The credential of the user that is cached after an effect. -/
def Effect.cachedAfter (cached : Option UserCredential) : Effect → Option UserCredential
  | .cacheUser credential => credential
  | _ => cached

/-- Surroundings that keep what is stored and fail nowhere but at the gateway. -/
structure Custodian (σ : Type) (vault : Vault) (key : Aes256.Key) extends Keeper σ vault key where
  /-- A slot is read. -/
  reads {state : σ} (slot : Slot) : IsSound state →
    (handle (.read (vault.keyFor slot)) state).1 = .ok (stored state (vault.keyFor slot))
  /-- A slot is filled. -/
  writes {state : σ} (slot : Slot) (value : Bytes) : IsSound state →
    (handle (.write (vault.keyFor slot) value) state).1 = .ok ()
  /-- A slot is emptied. -/
  removes {state : σ} (slot : Slot) : IsSound state →
    (handle (.remove (vault.keyFor slot)) state).1 = .ok ()
  /-- The key store is unlocked. -/
  unlocked {state : σ} : IsSound state → (handle (.sealingKey vault.name) state).1 = .ok key
  /-- The credential of the user is there until another one is cached. -/
  user_after {state : σ} (effect : Effect) : IsSound state →
    (handle .user (handle effect state).2).1 = effect.cachedAfter (handle .user state).1
  /-- The connection that was cached is there. -/
  connection_after {state : σ} (connection : Option Connection) : IsSound state →
    (handle .connection (handle (.cacheConnection connection) state).2).1 = connection
  /-- Where no connection is made, nothing is refused. -/
  connects {state : σ} {registration : Option DeviceIdentity} {error : Error} : IsSound state →
    (handle (.connect registration) state).1 = .error error → error.refusal? = none
  /-- Where no answer is received, nothing is refused. -/
  answers {state : σ} {connection : Connection} {purpose : Purpose} {request : Request}
    {error : Error} : IsSound state →
    (handle (.send connection purpose request) state).1 = .error error → error.refusal? = none

namespace Custodian

variable {σ : Type} {vault : Vault} {key : Aes256.Key} (custodian : Custodian σ vault key)

/-- The cached credential of the user. -/
def user (state : σ) : Option UserCredential := (custodian.handle .user state).1

/-- The cached connection. -/
def connection (state : σ) : Option Connection := (custodian.handle .connection state).1

/-- What is stored in a slot. -/
abbrev inSlot (state : σ) (slot : Slot) : Option Bytes := custodian.toKeeper.inSlot state slot

/-- The record that can be read from a slot. -/
def content (state : σ) (slot : Slot) : Option slot.Content :=
  (custodian.inSlot state slot).bind (vault.content? key)

/-- What is left alone by one who looks after some slots, and may drop the user's credential. -/
structure Spares (slots : Slot → Prop) (drops : Prop) (first last : σ) : Prop where
  /-- The surroundings are as they should be. -/
  sound : custodian.IsSound last
  /-- Other slots hold what they held. -/
  slot (slot : Slot) : ¬slots slot → custodian.inSlot last slot = custodian.inSlot first slot
  /-- The credential of the user is there, unless it may be dropped. -/
  user : ¬drops → custodian.user last = custodian.user first

/-- Whether a slot holds what it held, but for what could not be read and was dropped. -/
def Tidied (first last : σ) (slot : Slot) : Prop :=
  custodian.inSlot last slot = custodian.inSlot first slot ∨
    custodian.content first slot = none ∧ custodian.inSlot last slot = none

variable {custodian} {slots slots' : Slot → Prop} {drops drops' : Prop} {first between last : σ}

namespace Spares

theorem refl (sound : custodian.IsSound first) : custodian.Spares slots drops first first :=
  ⟨sound, fun _ _ => rfl, fun _ => rfl⟩

theorem trans (h : custodian.Spares slots drops first between)
    (h' : custodian.Spares slots drops between last) : custodian.Spares slots drops first last :=
  ⟨h'.sound, fun slot spared => (h'.slot slot spared).trans (h.slot slot spared),
    fun kept => (h'.user kept).trans (h.user kept)⟩

theorem mono (h : custodian.Spares slots drops first last)
    (more : ∀ slot, slots slot → slots' slot) (may : drops → drops') :
    custodian.Spares slots' drops' first last :=
  ⟨h.sound, fun slot spared => h.slot slot fun tended => spared (more slot tended),
    fun kept => h.user fun dropped => kept (may dropped)⟩

/-- A slot that is left alone has the same record. -/
theorem content (h : custodian.Spares slots drops first last) {slot : Slot}
    (spared : ¬slots slot) : custodian.content last slot = custodian.content first slot := by
  rw [Custodian.content, Custodian.content, h.slot slot spared]

end Spares

namespace Tidied

variable {slot : Slot}

theorem trans (h : custodian.Tidied first between slot) (h' : custodian.Tidied between last slot) :
    custodian.Tidied first last slot := by
  obtain same | ⟨absent, empty⟩ := h
  · rw [Tidied, content, same, ← content] at h'
    exact h'
  · obtain same' | ⟨-, empty'⟩ := h'
    · exact .inr ⟨absent, same'.trans empty⟩
    · exact .inr ⟨absent, empty'⟩

/-- The same record can be read. -/
theorem content_eq (h : custodian.Tidied first last slot) :
    custodian.content last slot = custodian.content first slot := by
  obtain same | ⟨absent, empty⟩ := h
  · rw [content, same, content]
  · rw [absent, content, empty]
    rfl

end Tidied

end Custodian

/-! ### Looking after some slots -/

namespace Vault

/-- The effects of looking after some slots, and of dropping the user's credential if that may be.
No token is asked for. -/
def Tends (vault : Vault) (slots : Slot → Prop) (drops : Prop) : Effect → Prop
  | .write name _ | .remove name => ∃ slot, slots slot ∧ name = vault.keyFor slot
  | .send _ purpose _ => ∀ presented, purpose ≠ .grant presented
  | .cacheUser credential => drops ∧ credential = none
  | _ => True

variable {vault : Vault} {slots : Slot → Prop} {drops : Prop} {slot : Slot} {α : Type}

theorem Tends.attempt? {effect : Effect} (h : vault.Tends slots drops effect)
    (reply : effect.Reply) : Event.attempt? ⟨effect, reply⟩ = none := by
  cases effect with
  | send connection purpose request =>
    cases purpose with
    | grant presented => exact absurd rfl (h presented)
    | _ => rfl
  | _ => rfl

section

variable [Record α]

theorem tends_read : (vault.read slot : Program (Option α)).Performs (vault.Tends slots drops) :=
  performs_read trivial trivial

theorem tends_remove (tended : slots slot) :
    (vault.remove slot).Performs (vault.Tends slots drops) :=
  performs_remove ⟨slot, tended, rfl⟩

theorem tends_clear (tended : slots slot) :
    (vault.clear slot).Performs (vault.Tends slots drops) :=
  performs_clear trivial trivial ⟨slot, tended, rfl⟩

theorem tends_store (tended : slots slot) (value : α) :
    (vault.store slot value).Performs (vault.Tends slots drops) :=
  performs_store trivial trivial trivial trivial (fun _ => ⟨slot, tended, rfl⟩) value

end

theorem tends_takeRefreshToken (tended : slots .refreshToken) :
    vault.takeRefreshToken.Performs (vault.Tends slots drops) :=
  performs_takeRefreshToken trivial trivial trivial trivial ⟨.refreshToken, tended, rfl⟩

end Vault

namespace Session

variable {session : Session} {slots : Slot → Prop} {drops : Prop} {slot : Slot} {α : Type}

theorem tends_readable [Record α] (tended : slots slot) :
    (session.readable slot (session.vault.read slot : Program (Option α))).Performs
      (session.vault.Tends slots drops) :=
  performs_readable trivial trivial trivial trivial ⟨slot, tended, rfl⟩

theorem tends_takeRefreshToken (tended : slots .refreshToken) :
    session.takeRefreshToken.Performs (session.vault.Tends slots drops) := by
  refine .rescue (Vault.tends_takeRefreshToken tended) fun result => ?_
  split
  · trivial
  · trivial

theorem tends_connection (device : slots .deviceIdentity) :
    session.connection.Performs (session.vault.Tends slots drops) :=
  performs_connection (tends_readable device) trivial (fun _ => trivial) fun _ => trivial

section

variable (client : slots .clientCredential)

include client

theorem tends_storedClientCredential :
    session.storedClientCredential.Performs (session.vault.Tends slots drops) := by
  refine .bind (tends_readable client) fun credential => ?_
  cases credential with
  | none => trivial
  | some credential => exact .bind (.seconds trivial) fun _ => trivial

theorem tends_clientCredential :
    session.clientCredential.Performs (session.vault.Tends slots drops) :=
  .bind (tends_storedClientCredential client) fun _ => trivial

/-- Having a client credential provisioned looks after it and after the connection. -/
theorem tends_ensureClientCredential (device : slots .deviceIdentity) :
    session.ensureClientCredential.Performs (session.vault.Tends slots drops) := by
  have provisioned : session.provision.Performs (session.vault.Tends slots drops) :=
    .bind (.ask trivial) fun _ =>
      .bind (.bind (.bind (tends_connection device) fun _ =>
        ⟨fun _ => Purpose.noConfusion, fun _ _ => trivial⟩) fun _ => trivial) fun _ =>
      .bind trivial fun _ => .bind (Vault.tends_store client _) fun _ => trivial
  rw [ensureClientCredential]
  split
  · exact tends_clientCredential client
  · refine .bind (tends_storedClientCredential client) fun credential => ?_
    cases credential with
    | some credential => trivial
    | none => exact provisioned

end

end Session

/-! ### What is left alone -/

namespace Custodian

variable {σ : Type} {vault : Vault} {key : Aes256.Key} {custodian : Custodian σ vault key}
  {slots : Slot → Prop} {drops : Prop} {state last : σ} {slot : Slot} {α : Type}

/-- An effect that neither fills nor empties a slot leaves it alone. -/
theorem spares_untouched (sound : custodian.IsSound state) {effect : Effect}
    (untouched : ∀ slot, ¬slots slot → (∀ value, effect ≠ .write (vault.keyFor slot) value) ∧
      effect ≠ .remove (vault.keyFor slot))
    (cached : ¬drops → effect.cachedAfter (custodian.user state) = custodian.user state) :
    custodian.Spares slots drops state (custodian.handle effect state).2 := by
  have leaves : (Moment.of custodian.handle effect state).Leaves custodian.stored :=
    custodian.leaves effect sound
  refine ⟨custodian.isSound effect sound, fun slot spared => ?_, fun kept => ?_⟩
  · exact leaves.stored_eq (untouched slot spared).1 (untouched slot spared).2
  · exact (custodian.user_after effect sound).trans (cached kept)

/-- One effect of looking after some slots. -/
theorem spares_effect (sound : custodian.IsSound state) {effect : Effect}
    (tends : vault.Tends slots drops effect) :
    custodian.Spares slots drops state (custodian.handle effect state).2 := by
  refine spares_untouched sound (fun slot spared => ?_) fun kept => ?_
  · have other : ¬∃ slot', slots slot' ∧ vault.keyFor slot = vault.keyFor slot' := by
      rintro ⟨slot', tended, same⟩
      exact spared (vault.keyFor_injective same ▸ tended)
    constructor
    · rintro value rfl
      exact other tends
    · rintro rfl
      exact other tends
  · cases effect with
    | cacheUser credential => exact absurd tends.1 kept
    | _ => rfl

/-- **The rest is left alone** by one who looks after some slots, and no token is asked for. -/
theorem spares_of_performs {program : Program α}
    (tends : program.Performs (vault.Tends slots drops)) (sound : custodian.IsSound state) :
    custodian.Spares slots drops state (program.run custodian.handle state).2 ∧
      program.attempts custodian.handle state = [] := by
  induction program generalizing state with
  | done result => exact ⟨.refl sound, rfl⟩
  | perform effect next ih =>
    have first := spares_effect sound tends.1
    obtain ⟨rest, none_asked⟩ := ih _ (tends.2 _ trivial) first.sound
    refine ⟨first.trans rest, ?_⟩
    have plain : (Moment.of custodian.handle effect state).toEvent.attempt? = none :=
      tends.1.attempt? _
    show (Moment.of custodian.handle effect state :: _).filterMap (·.toEvent.attempt?) = []
    rw [List.filterMap_cons, plain]
    exact none_asked

/-- What looks after other slots leaves the rest alone, where it is known how it ends. -/
theorem comes_of_performs {program : Program α} {result : Except Error α}
    (tends : program.Performs (vault.Tends slots drops)) (sound : custodian.IsSound state)
    (run : program.run custodian.handle state = (result, last)) :
    program.Comes custodian.handle state result last [] ∧
      custodian.Spares slots drops state last := by
  obtain ⟨spares, none_asked⟩ := spares_of_performs tends sound
  rw [run] at spares
  exact ⟨⟨run, none_asked⟩, spares⟩

/-! ### How operations end -/

/-- **Reading a slot** ends with the record, or with an integrity error if what is there cannot be
read. -/
theorem run_read (sound : custodian.IsSound state) (slot : Slot) :
    ∃ result last, (vault.read slot : Program (Option slot.Content)).run custodian.handle state =
        (result, last) ∧
      (custodian.inSlot state slot = none ∧ result = .ok none ∨
        (∃ value, custodian.content state slot = some value ∧ result = .ok (some value)) ∨
        custodian.content state slot = none ∧ ∃ detail, result = .error (.integrity detail)) := by
  have fetched : (Vault.about "get" (vault.keyFor slot) (.read (vault.keyFor slot))).run
      custodian.handle state = (.ok (custodian.inSlot state slot), _) :=
    Vault.run_about_ok (Prod.ext (custodian.reads slot sound) rfl)
  have sound' := custodian.isSound (.read (vault.keyFor slot)) sound
  rw [content, Vault.read, Program.run_bind_ok fetched]
  cases custodian.inSlot state slot with
  | none => exact ⟨_, _, rfl, .inl ⟨rfl, rfl⟩⟩
  | some blob =>
  rw [Option.bind_some]
  have keyed : custodian.handle (.sealingKey vault.name) _ = (.ok key, _) :=
    Prod.ext (custodian.unlocked sound') rfl
  obtain ⟨result, last, -, run, made⟩ := Vault.run_opened (α := slot.Content) slot blob keyed
  refine ⟨some <$> result, last, ?_, ?_⟩
  · simp only
    rw [← bind_assoc]
    cases result with
    | error error => exact Program.run_bind_error run
    | ok value => exact (Program.run_bind_ok run).trans (Program.run_pure _ _ _)
  · cases content : (vault.content? key blob : Option slot.Content) with
    | none =>
      rw [content] at made
      obtain ⟨detail, rfl⟩ := made
      exact .inr (.inr ⟨rfl, detail, rfl⟩)
    | some value =>
      rw [content] at made
      rw [made]
      exact .inr (.inl ⟨value, rfl, rfl⟩)

/-- A guarded program, without the guard. -/
theorem run_guarded {program : Program α} {result : Except Error α}
    (run : program.run custodian.handle (custodian.handle .hold state).2 = (result, last)) :
    program.guarded.run custodian.handle state = (result, (custodian.handle .release last).2) := by
  rw [Program.run_guarded, run]

/-- A slot is emptied within a guard. -/
theorem run_remove (sound : custodian.IsSound state) (slot : Slot) :
    ∃ last, (vault.remove slot).run custodian.handle state = (.ok (), last) ∧
      custodian.inSlot last slot = none := by
  have answered : custodian.handle (.remove (vault.keyFor slot)) state = (.ok (), _) :=
    Prod.ext (custodian.removes slot sound) rfl
  obtain ⟨-, erased⟩ := Keeper.after_remove sound answered
  refine ⟨_, Vault.run_about_ok answered, ?_⟩
  rw [inSlot, Keeper.inSlot, erased, Function.update_self]

/-- Holding and releasing the store leaves what is stored alone. -/
theorem inSlot_hold (sound : custodian.IsSound state) (slot : Slot) :
    custodian.inSlot (custodian.handle .hold state).2 slot = custodian.inSlot state slot :=
  congrFun (custodian.leaves .hold sound) _

theorem inSlot_release (sound : custodian.IsSound state) (slot : Slot) :
    custodian.inSlot (custodian.handle .release state).2 slot = custodian.inSlot state slot :=
  congrFun (custodian.leaves .release sound) _

/-- **A slot is emptied.** -/
theorem comes_clear (sound : custodian.IsSound state) (slot : Slot) :
    ∃ last, (vault.clear slot).Comes custodian.handle state (.ok ()) last [] ∧
      custodian.Spares (· = slot) False state last ∧ custodian.inSlot last slot = none := by
  have held := custodian.isSound .hold sound
  obtain ⟨removed, run, empty⟩ := run_remove held slot
  have gone : (vault.remove slot).Performs (vault.Tends (· = slot) False) :=
    Vault.tends_remove rfl
  obtain ⟨-, within⟩ := comes_of_performs gone held run
  have whole : (vault.clear slot).Performs (vault.Tends (· = slot) False) := Vault.tends_clear rfl
  obtain ⟨comes, spares⟩ := comes_of_performs whole sound (run_guarded run)
  exact ⟨_, comes, spares, (inSlot_release within.sound slot).trans empty⟩

/-- **A slot is filled.** -/
theorem comes_store [Record α] (sound : custodian.IsSound state) (slot : Slot) (value : α) :
    ∃ nonce last, (vault.store slot value).Comes custodian.handle state (.ok ()) last [] ∧
      custodian.Spares (· = slot) False state last ∧
      custodian.inSlot last slot = some (vault.blob key nonce value) := by
  have held := custodian.isSound .hold sound
  have keyed : (Program.sealingKey vault.name).run custodian.handle _ = (.ok key, _) :=
    Prod.ext (custodian.unlocked held) rfl
  have sound₁ := custodian.isSound (.sealingKey vault.name) held
  have sound₂ := custodian.isSound .nonce sound₁
  have sealed' : (vault.sealed (Record.encode value)).run custodian.handle _ =
      (.ok (vault.blob key _ value), _) :=
    (Program.run_bind_ok keyed).trans ((Program.run_bind_ok (Program.run_ask _ _ _)).trans
      (Program.run_pure _ _ _))
  have written : (vault.write slot value).run custodian.handle _ = (.ok (), _) :=
    (Program.run_bind_ok sealed').trans
      (Vault.run_about_ok (Prod.ext (custodian.writes slot _ sound₂) rfl))
  have run := run_guarded written
  obtain ⟨-, nonce, stored⟩ := Keeper.run_store_ok sound run
  have whole : (vault.store slot value).Performs (vault.Tends (· = slot) False) := by
    refine Vault.tends_store ?_ value
    rfl
  obtain ⟨comes, spares⟩ := comes_of_performs whole sound run
  refine ⟨nonce, _, comes, spares, ?_⟩
  rw [inSlot, Keeper.inSlot, stored, Function.update_self]

/-- The record that is sealed in a slot can be read. -/
theorem content_of_blob {slot : Slot} {value : slot.Content} (faithful : Record.Faithful value)
    {nonce : Gcm.Nonce} (filled : custodian.inSlot state slot = some (vault.blob key nonce value)) :
    custodian.content state slot = some value := by
  rw [content, filled, Option.bind_some, Vault.content?_blob faithful]

end Custodian

/-! ### A session -/

namespace Custodian

variable {σ : Type} {session : Session} {key : Aes256.Key}
  {custodian : Custodian σ session.vault key} {state : σ}

/-- **Reading a slot of a session** ends with the record. What cannot be read is dropped. -/
theorem comes_readable (sound : custodian.IsSound state) (slot : Slot) :
    ∃ last, (session.readable slot
        (session.vault.read slot : Program (Option slot.Content))).Comes custodian.handle state
          (.ok (custodian.content state slot)) last [] ∧
      custodian.Spares (· = slot) False state last ∧ custodian.Tidied state last slot := by
  obtain ⟨result, between, read, ended⟩ := run_read sound slot
  have looked : (session.vault.read slot : Program (Option slot.Content)).Performs
      (session.vault.Tends (fun _ => False) False) := Vault.tends_read
  obtain ⟨-, spares⟩ := comes_of_performs looked sound read
  have whole : (session.readable slot
      (session.vault.read slot : Program (Option slot.Content))).Performs
        (session.vault.Tends (· = slot) False) := Session.tends_readable rfl
  have ends {answer : Except Error (Option slot.Content)} {last : σ}
      (run : (session.readable slot (session.vault.read slot : Program (Option slot.Content))).run
        custodian.handle state = (answer, last)) :=
    comes_of_performs whole sound run
  rw [Session.readable, Program.run_attempt_bind read] at ends
  obtain ⟨empty, rfl⟩ | ⟨value, present, rfl⟩ | ⟨absent, detail, rfl⟩ := ended
  · obtain ⟨comes, spares'⟩ := ends (Program.run_ofExcept _ _ _)
    have absent : custodian.content state slot = none := by rw [content, empty, Option.bind_none]
    rw [absent]
    exact ⟨between, comes, spares', .inl (spares.slot slot id)⟩
  · obtain ⟨comes, spares'⟩ := ends (Program.run_ofExcept _ _ _)
    rw [present]
    exact ⟨between, comes, spares', .inl (spares.slot slot id)⟩
  · obtain ⟨last, cleared, -, empty⟩ := comes_clear spares.sound slot
    obtain ⟨comes, spares'⟩ :=
      ends ((Program.run_attempt_bind cleared.1).trans (Program.run_pure _ _ _))
    rw [absent]
    exact ⟨last, comes, spares', .inr ⟨absent, empty⟩⟩

/-- Taking the refresh token out ends with the token, or with an integrity error if what is there
cannot be read. The slot is empty. -/
theorem run_take (sound : custodian.IsSound state) :
    ∃ result last, session.vault.takeRefreshToken.run custodian.handle state = (result, last) ∧
      custodian.inSlot last .refreshToken = none ∧
      (result = .ok (custodian.content state .refreshToken) ∨
        custodian.content state .refreshToken = none ∧
          ∃ detail, result = .error (.integrity detail)) := by
  have held := custodian.isSound .hold sound
  obtain ⟨result, between, read, ended⟩ := run_read held .refreshToken
  have looked : (session.vault.read .refreshToken : Program (Option String)).Performs
      (session.vault.Tends (fun _ => False) False) := Vault.tends_read
  obtain ⟨-, spares⟩ := comes_of_performs looked held read
  obtain ⟨last, removed, empty⟩ := run_remove spares.sound .refreshToken
  have gone : (session.vault.remove .refreshToken).Performs
      (session.vault.Tends (· = .refreshToken) False) := Vault.tends_remove rfl
  obtain ⟨-, spares'⟩ := comes_of_performs gone spares.sound removed
  -- What is read within the guard is what there was before it.
  rw [content, inSlot_hold sound, ← content] at ended
  rw [Vault.takeRefreshToken, Program.run_guarded, Program.run_attempt_bind read]
  obtain ⟨nothing, rfl⟩ | ⟨token, present, rfl⟩ | ⟨absent, detail, rfl⟩ := ended
  · refine ⟨_, _, rfl, ?_, .inl ?_⟩
    · rw [Program.run_pure, inSlot_release spares.sound, spares.slot _ id, inSlot_hold sound,
        nothing]
    · rw [content, nothing]
      rfl
  · simp only
    rw [Program.run_bind_ok removed, present]
    exact ⟨_, _, rfl, (inSlot_release spares'.sound _).trans empty, .inl rfl⟩
  · simp only
    rw [Program.run_bind_ok removed]
    exact ⟨_, _, rfl, (inSlot_release spares'.sound _).trans empty, .inr ⟨absent, detail, rfl⟩⟩

/-- **Taking the refresh token out** ends with the token, and the slot is empty. -/
theorem comes_takeRefreshToken (sound : custodian.IsSound state) :
    ∃ last, session.takeRefreshToken.Comes custodian.handle state
        (.ok (custodian.content state .refreshToken)) last [] ∧
      custodian.Spares (· = .refreshToken) False state last ∧
      custodian.inSlot last .refreshToken = none := by
  obtain ⟨result, last, taken, empty, ended⟩ := run_take sound
  have run : session.takeRefreshToken.run custodian.handle state =
      (.ok (custodian.content state .refreshToken), last) := by
    rw [Session.takeRefreshToken, Program.run_attempt_bind taken]
    obtain rfl | ⟨absent, detail, rfl⟩ := ended
    · exact Program.run_ofExcept _ _ _
    · rw [absent]
      exact Program.run_pure _ _ _
  have whole : session.takeRefreshToken.Performs
      (session.vault.Tends (· = .refreshToken) False) := Session.tends_takeRefreshToken rfl
  obtain ⟨comes, spares⟩ := comes_of_performs whole sound run
  exact ⟨last, comes, spares, empty⟩

end Custodian

end GatewaySession
