import GatewaySession.Proofs.Credential.Record
import GatewaySession.Proofs.Program.Run
import GatewaySession.Proofs.Program.Trace
import GatewaySession.Proofs.Session.Composition
import GatewaySession.Proofs.Vault.Watching

/-!
# What is registered

A connection is made for the registration that is stored, and cached. Here is what a program leaves
of the two. The surroundings may do what they want but for this: what lies in the slot of the
registration is what was written there last, or it has become unreadable or gone; and the cached
connection is the one that was cached last. So records may be damaged or lost at any moment, also
between two effects of one program, but none appears that nobody wrote. Calls of the storage are
atomic: one that fails has written nothing.

A registration that is looked up is the one that lies there, and none is found only if there is none
that can be read. It follows that nothing but registering anew and removing the registration changes
what is registered, as long as nothing is lost.

## Main definitions

* `Program.Leads` — every run of a program stands in a relation
* `Registry` — the surroundings
* `Registry.registered` — the registration that lies in its slot and can be read
* `Registry.Loses`, `Registry.Intact` — something is lost at a moment, or nothing at any
* `Registry.Fades`, `Registry.Spares` — a registration at most gets lost, or nothing happens to it
* `Registry.Fading`, `Registry.Sparing` — the same of programs
* `Registry.Secures` — afterwards there is a registration

## Main results

* `Program.formed_leads` — the ways of building programs keep a relation that can be chained
* `Registry.registered_of_deviceIdentity` — what is looked up is what is registered
* `Registry.granting_spares` — looking up, granting and provisioning change nothing of it
* `Registry.secures_prepare` — a request that is prepared was prepared with a registration
-/

namespace GatewaySession

open Program (Closed Formed)

variable {σ α β : Type}

/-! ### Relations of runs -/

/-- Whether a relation of two states, and of what is done between them, can be chained. -/
structure Chains (relation : σ → List (Moment σ) → σ → Prop) : Prop where
  /-- Nothing is done. -/
  refl (state : σ) : relation state [] state
  /-- One thing is done after the other. -/
  trans {first between last : σ} {early late : List (Moment σ)} :
    relation first early between → relation between late last → relation first (early ++ late) last

namespace Program

variable {handle : (effect : Effect) → σ → effect.Reply × σ}
  {relation : σ → List (Moment σ) → σ → Prop}

variable (handle relation) in
/-- Whether every run of a program stands in a relation. -/
def Leads (α : Type) (program : Program α) : Prop :=
  ∀ state, relation state (program.trace handle state) (program.run handle state).2

/-- **The ways of building programs** keep a relation that can be chained, if neutral effects do. -/
theorem formed_leads (chains : Chains relation)
    (neutral : ∀ {effect : Effect}, effect.IsNeutral →
      ∀ state, relation state [.of handle effect state] (handle effect state).2) :
    Formed (Leads handle relation) where
  done _ state := chains.refl state
  bind := by
    intro α β program f h hf state
    have first := h state
    cases run : program.run handle state with
    | mk result between =>
    rw [run] at first
    cases result with
    | error error =>
      rw [trace_bind_error run, run_bind_error run]
      exact first
    | ok a =>
      rw [trace_bind_ok run, run_bind_ok run]
      exact chains.trans first (hf a between)
  attempt := by
    intro α program h state
    rw [trace_attempt, run_attempt]
    exact h state
  perform := by
    intro α effect next isNeutral h state
    exact chains.trans (neutral isNeutral state) (h _ _)

end Program

/-! ### Effects and the registration -/

namespace Vault

variable (vault : Vault) (key : Aes256.Key)

/-- The registration in a blob, if there is a blob that holds one. -/
def registration? (blob : Option Bytes) : Option DeviceIdentity := blob.bind (vault.content? key)

/-- What is registered after an effect, if nothing gets lost. A write and a removal that fail change
nothing. -/
def registers : (effect : Effect) → effect.Reply → Option DeviceIdentity → Option DeviceIdentity
  | .write name value, .ok _, registered =>
    if name = vault.keyFor .deviceIdentity then vault.content? key value else registered
  | .remove name, .ok _, registered =>
    if name = vault.keyFor .deviceIdentity then none else registered
  | _, _, registered => registered

/-- Whether an effect has to do neither with the registration nor with the cached connection, unless
that is dropped, and is no request of a caller. -/
def IsAside : Effect → Prop
  | .write name _ | .remove name => name ≠ vault.keyFor .deviceIdentity
  | .cacheConnection connection => connection = none
  | .send _ purpose _ => ∀ id, purpose ≠ .caller id
  | _ => True

variable {vault key}

/-- Wrapping errors does nothing else. -/
theorem trace_about {handle : (effect : Effect) → σ → effect.Reply × σ} {operation name : String}
    (program : Program α) (state : σ) :
    (about operation name program).trace handle state = program.trace handle state := by
  cases run : program.run handle state with
  | mk result last =>
  rw [about, Program.trace_attempt_bind run]
  cases result with
  | ok a => exact List.append_nil _
  | error source => exact List.append_nil _

theorem isAside_of_isNeutral {effect : Effect} (neutral : effect.IsNeutral) :
    vault.IsAside effect := by
  cases effect with
  | write | remove | list | hold | release | send => exact neutral.elim
  | cacheConnection connection =>
    cases connection with
    | none => rfl
    | some connection => exact neutral.elim
  | _ => trivial

/-- What is aside leaves the registration alone. -/
theorem registers_aside {effect : Effect} (aside : vault.IsAside effect) (reply : effect.Reply)
    (registered : Option DeviceIdentity) :
    vault.registers key effect reply registered = registered := by
  cases effect with
  | write name value =>
    cases reply with
    | error error => rfl
    | ok _ => exact if_neg aside
  | remove name =>
    cases reply with
    | error error => rfl
    | ok _ => exact if_neg aside
  | _ => rfl

end Vault

/-! ### What is put together from effects that are aside -/

/-- A property that whatever is aside has. -/
structure Session.Asides (session : Session) (P : (α : Type) → Program α → Prop) : Prop
    extends Formed P where
  /-- An effect that is aside. -/
  aside {effect : Effect} : session.vault.IsAside effect → P _ (.ask effect)

namespace Session.Asides

variable {session : Session} {P : (α : Type) → Program α → Prop} (asides : session.Asides P)

include asides

theorem removed {name : String} (other : name ≠ session.vault.keyFor .deviceIdentity) :
    P _ (Program.remove name) := by
  have aside : session.vault.IsAside (.remove name) := other
  exact asides.bind (asides.aside aside) asides.ofExcept

theorem send {purpose : Purpose} (own : ∀ id, purpose ≠ .caller id) (connection : Connection)
    (request : Request) : P _ (Program.send connection purpose request) := by
  have aside : session.vault.IsAside (.send connection purpose request) := own
  exact asides.bind (asides.aside aside) asides.ofExcept

theorem clear {slot : Slot} (other : slot ≠ .deviceIdentity) : P _ (session.vault.clear slot) :=
  asides.toFormed.clear (asides.aside trivial) (asides.aside trivial)
    (asides.removed (Vault.keyFor_ne _ other))

theorem store [Record α] {slot : Slot} (other : slot ≠ .deviceIdentity) (value : α) :
    P _ (session.vault.store slot value) := by
  have written (blob : Bytes) : P _ (Program.write (session.vault.keyFor slot) blob) := by
    have aside : session.vault.IsAside (.write (session.vault.keyFor slot) blob) :=
      Vault.keyFor_ne _ other
    exact asides.bind (asides.aside aside) asides.ofExcept
  exact asides.toFormed.store (asides.aside trivial) (asides.aside trivial) written value

theorem takeRefreshToken : P _ session.takeRefreshToken :=
  asides.toFormed.takeRefreshToken (asides.aside trivial) (asides.aside trivial)
    (asides.removed (Vault.keyFor_ne _ (by decide)))

theorem setAccessToken (token : AccessToken) : P _ (session.setAccessToken token) :=
  asides.bind (asides.store (by decide) token) fun _ => asides.dropUser

/-- **The ways to a token** have the property, if looking up the registration and the connection
have it. -/
theorem granting (identity : P _ session.deviceIdentity) (connection : P _ session.connection) :
    session.Granting P := by
  have elements : session.Elements P := {
    toFormed := asides.toFormed
    clear := fun _ other => asides.clear other
    deviceIdentity := identity
    connection := connection
    setClientCredential := asides.store (by decide)
    setRefreshToken := asides.store (by decide)
    acceptIdToken := asides.acceptIdToken (asides.clear (by decide)) (asides.store (by decide))
    housekeeping := by
      intro purpose connection request housekeeping
      refine asides.send ?_ connection request
      rintro id rfl
      cases housekeeping }
  have sent {presented : Presented} (connection : Connection) (request : Request) :
      P _ (Program.send connection (.grant presented) request) :=
    asides.send (by rintro id ⟨⟩) connection request
  exact {
    toElements := elements
    grantByRefreshToken :=
      elements.grantByRefreshToken asides.setAccessToken asides.takeRefreshToken sent
    grantByIdToken := elements.grantByIdToken asides.setAccessToken sent
    grantByUser := elements.grantByUser asides.setAccessToken sent }

end Session.Asides

/-! ### The surroundings -/

/-- The connection that is cached after an effect. -/
def Effect.caches : Effect → Option Connection → Option Connection
  | .cacheConnection other, _ => other
  | _, cached => cached

/-- Surroundings in which a registration may get lost at any moment, but does not appear by itself,
and in which a connection stays cached. -/
structure Registry (σ : Type) (vault : Vault) (key : Aes256.Key) where
  /-- How effects are answered. -/
  handle : (effect : Effect) → σ → effect.Reply × σ
  /-- What lies in the slot of the registration. -/
  stored : σ → Option Bytes
  /-- The cached connection. -/
  cached : σ → Option Connection
  /-- The times of the clock can be written down. -/
  plain (state : σ) : (handle .time state).1.IsPlain
  /-- What is read from the slot lies there. -/
  read {state : σ} {found : Option Bytes} :
    (handle (.read (vault.keyFor .deviceIdentity)) state).1 = .ok found → found = stored state
  /-- The vault is sealed with one key. -/
  sealingKey {state : σ} {other : Aes256.Key} :
    (handle (.sealingKey vault.name) state).1 = .ok other → other = key
  /-- A key store that does not give the key out says nothing of the record. -/
  locked {state : σ} {error : Error} : (handle (.sealingKey vault.name) state).1 = .error error →
    ∀ detail, error ≠ .integrity detail
  /-- The cached connection is given out. -/
  connection (state : σ) : (handle .connection state).1 = cached state
  /-- It stays until another is cached, or it is dropped. -/
  caches (effect : Effect) (state : σ) :
    cached (handle effect state).2 = effect.caches (cached state)
  /-- After an effect a registration is lost, or what it should be. -/
  leaves (effect : Effect) (state : σ) :
    vault.registration? key (stored (handle effect state).2) = none ∨
      vault.registration? key (stored (handle effect state).2) =
        vault.registers key effect (handle effect state).1 (vault.registration? key (stored state))

namespace Registry

variable {vault : Vault} {key : Aes256.Key} (registry : Registry σ vault key)

/-- The registration that lies in its slot and can be read. -/
def registered (state : σ) : Option DeviceIdentity :=
  vault.registration? key (registry.stored state)

/-- Whether something is lost at a moment: what is registered is not what it should be. -/
def Loses (moment : Moment σ) : Prop :=
  registry.registered moment.after ≠
    vault.registers key moment.effect moment.reply (registry.registered moment.before)

/-- Whether nothing is lost at any moment. -/
def Intact (moments : List (Moment σ)) : Prop := ∀ moment ∈ moments, ¬registry.Loses moment

/-- Whether a registration at most gets lost. -/
def Fades (first last : σ) : Prop :=
  registry.registered last = none ∨ registry.registered last = registry.registered first

/-- Whether nothing happens to a registration unless it gets lost. -/
def Spares (first : σ) (moments : List (Moment σ)) (last : σ) : Prop :=
  registry.Intact moments → registry.registered last = registry.registered first

/-- Whether a registration at most gets lost while a program runs. -/
abbrev Fading (α : Type) (program : Program α) : Prop :=
  Program.Leads registry.handle (fun first _ => registry.Fades first) α program

/-- Whether nothing happens to a registration while a program runs, unless it gets lost. -/
abbrev Sparing (α : Type) (program : Program α) : Prop :=
  Program.Leads registry.handle registry.Spares α program

/-- Whether there is a registration afterwards, unless it gets lost. -/
def Secures (program : Program α) : Prop :=
  ∀ state a last, program.run registry.handle state = (.ok a, last) →
    registry.Intact (program.trace registry.handle state) → registry.registered last ≠ none

variable {registry}

section

variable {early late : List (Moment σ)}

/-- What is registered after a moment is what it should be. -/
theorem Intact.due {moments : List (Moment σ)} {moment : Moment σ} (h : registry.Intact moments)
    (mem : moment ∈ moments) : registry.registered moment.after =
      vault.registers key moment.effect moment.reply (registry.registered moment.before) :=
  Classical.not_not.1 (h moment mem)

theorem Intact.tail {moment : Moment σ} (h : registry.Intact (moment :: late)) :
    registry.Intact late :=
  fun moment mem => h moment (List.mem_cons_of_mem _ mem)

theorem Intact.left (h : registry.Intact (early ++ late)) : registry.Intact early :=
  fun moment mem => h moment (List.mem_append_left _ mem)

theorem Intact.right (h : registry.Intact (early ++ late)) : registry.Intact late :=
  fun moment mem => h moment (List.mem_append_right _ mem)

end

section

variable {first between last : σ}

/-- What is lost stays lost. -/
theorem Fades.eq_none (h : registry.Fades first last)
    (absent : registry.registered first = none) : registry.registered last = none :=
  h.elim id fun same => same.trans absent

/-- What is still registered was registered before. -/
theorem Fades.eq_some (h : registry.Fades first last) {identity : DeviceIdentity}
    (present : registry.registered last = some identity) :
    registry.registered first = some identity := by
  obtain lost | same := h
  · cases lost.symm.trans present
  · exact same.symm.trans present

theorem Fades.trans (h : registry.Fades first between) (h' : registry.Fades between last) :
    registry.Fades first last := by
  obtain lost | same := h'
  · exact .inl lost
  · exact h.imp same.trans same.trans

end

variable (registry) in
theorem chains_fades : Chains fun first _ => registry.Fades first where
  refl _ := .inr rfl
  trans h h' := h.trans h'

variable (registry) in
theorem chains_spares : Chains registry.Spares where
  refl _ _ := rfl
  trans h h' intact := (h' intact.right).trans (h intact.left)

/-! ### Single effects -/

variable (registry) in
/-- **A registration at most gets lost** by an effect that does not write it. -/
theorem fades_of {effect : Effect} (state : σ)
    (other : ∀ value, effect ≠ .write (vault.keyFor .deviceIdentity) value) :
    registry.Fades state (registry.handle effect state).2 := by
  obtain lost | due := registry.leaves effect state
  · exact .inl lost
  have same (aside : vault.IsAside effect) :
      registry.registered (registry.handle effect state).2 = registry.registered state :=
    due.trans (Vault.registers_aside aside _ _)
  cases effect with
  | write name value =>
    refine .inr (same fun own => ?_)
    exact other value (own ▸ rfl)
  | remove name =>
    cases answered : (registry.handle (.remove name) state).1 with
    | error error =>
      rw [answered] at due
      exact .inr due
    | ok _ =>
      by_cases own : name = vault.keyFor .deviceIdentity
      · rw [answered, Vault.registers, if_pos own] at due
        exact .inl due
      · exact .inr (same own)
  | cacheConnection | send => exact .inr due
  | _ => exact .inr (same trivial)

variable (registry) in
/-- Nothing happens to it by an effect that leaves it alone. -/
theorem spares_of {effect : Effect} (state : σ) (same : ∀ reply registered,
    vault.registers key effect reply registered = registered) :
    registry.Spares state [.of registry.handle effect state] (registry.handle effect state).2 := by
  intro intact
  exact (intact.due List.mem_cons_self).trans (same _ _)

variable (registry) in
theorem closed_fades : Closed registry.Fading where
  toFormed := by
    refine Program.formed_leads (chains_fades registry) fun {effect} neutral state => ?_
    refine registry.fades_of state ?_
    rintro value rfl
    exact neutral
  caches _ state := registry.fades_of state nofun

variable (registry) in
theorem closed_spares : Closed registry.Sparing where
  toFormed := Program.formed_leads (chains_spares registry) fun neutral state =>
    registry.spares_of state (Vault.registers_aside (Vault.isAside_of_isNeutral neutral))
  caches _ state := registry.spares_of state fun _ _ => rfl

/-- Emptying a slot writes nothing. -/
theorem fades_clear (slot : Slot) :
    registry.Fading _ (vault.clear slot) :=
  (closed_fades registry).toFormed.clear (fun state => registry.fades_of state nofun)
    (fun state => registry.fades_of state nofun) (fun state => registry.fades_of state nofun)

/-! ### Looking the registration up -/

variable (registry) in
/-- The vault is sealed with one key throughout a run. -/
theorem keyed_of_mem {program : Program α} {state : σ} :
    ∀ event ∈ (program.trace registry.handle state).map (·.toEvent),
      vault.Keyed key event.effect event.reply := by
  intro event mem
  obtain ⟨moment, within, rfl⟩ := List.mem_map.1 mem
  have answered := Program.answered_of_mem_trace within
  obtain ⟨⟨effect, reply⟩, before, after⟩ := moment
  cases effect with
  | sealingKey name =>
    cases reply with
    | error error => trivial
    | ok other =>
      rintro rfl
      exact registry.sealingKey (congrArg Prod.fst answered)
  | _ => trivial

variable (registry) in
/-- The key store says nothing of a record throughout a run. -/
theorem silent_of_mem {program : Program α} {state : σ} (detail : String) :
    ⟨.sealingKey vault.name, .error (.integrity detail)⟩ ∉
      (program.trace registry.handle state).map (·.toEvent) := by
  intro mem
  obtain ⟨moment, within, same⟩ := List.mem_map.1 mem
  have answered := Program.answered_of_mem_trace within
  obtain ⟨event, before, after⟩ := moment
  cases same
  exact registry.locked (congrArg Prod.fst answered) detail rfl

/-- **What is read** from the slot is what is registered, and nothing is if it is unreadable. -/
theorem read_cases {result : Except Error (Option DeviceIdentity)} {state last : σ}
    (run : vault.deviceIdentity.run registry.handle state = (result, last)) :
    (∀ found, result = .ok found → found = registry.registered state) ∧
      ∀ detail, result = .error (.integrity detail) → registry.registered state = none := by
  have ends := Program.ends_trace registry.handle vault.deviceIdentity state
  rw [run] at ends
  obtain ⟨reply, rest, same, found, unreadable⟩ := Vault.read_ends (registry.keyed_of_mem)
    (registry.silent_of_mem) ends
  -- The first moment reads the slot.
  obtain ⟨here, -⟩ := List.cons.inj same
  have stored {blob : Option Bytes} (answered : reply = .ok blob) :
      blob = registry.stored state := by
    cases here
    exact registry.read answered
  refine ⟨fun _ done => ?_, fun detail damaged => ?_⟩
  · obtain ⟨blob, answered, rfl⟩ := found _ done
    rw [stored answered]
    rfl
  · obtain ⟨blob, answered, absent⟩ := unreadable detail damaged
    rw [registered, ← stored answered]
    exact absent

section

variable {session : Session} {registry : Registry σ session.vault key}

/-- **What is looked up** is what is registered. -/
theorem registered_of_deviceIdentity {found : Option DeviceIdentity} {state last : σ}
    (run : session.deviceIdentity.run registry.handle state = (.ok found, last)) :
    found = registry.registered state := by
  cases read : session.vault.deviceIdentity.run registry.handle state with
  | mk result between =>
  rw [Session.deviceIdentity, Session.readable, Program.run_attempt_bind read] at run
  split at run
  next detail =>
    obtain ⟨_, _, -, run⟩ := Program.run_bind_eq_ok run
    cases run
    exact ((read_cases read).2 detail rfl).symm
  next =>
    obtain ⟨rfl, -⟩ := Prod.mk.inj run
    exact (read_cases read).1 found rfl

variable (session registry) in
/-- Looking the registration up removes only what was unreadable. -/
theorem spares_deviceIdentity :
    registry.Sparing _ session.deviceIdentity := by
  intro state intact
  have looked : registry.Sparing _ session.vault.deviceIdentity :=
    (closed_spares registry).read _ _
  have faded : registry.Fading _ session.vault.deviceIdentity :=
    (closed_fades registry).read _ _
  have kept := looked state
  have faded := faded state
  cases read : session.vault.deviceIdentity.run registry.handle state with
  | mk result between =>
  rw [read] at kept faded
  rw [Session.deviceIdentity, Session.readable, Program.trace_attempt_bind read] at intact
  rw [Session.deviceIdentity, Session.readable, Program.run_attempt_bind read]
  split
  next detail =>
    -- What is removed was unreadable, so that there was no registration.
    have absent := (read_cases read).2 detail rfl
    have cleared : registry.Fading _ (do
        let _ ← (session.vault.clear .deviceIdentity).attempt
        return (none : Option DeviceIdentity)) :=
      (closed_fades registry).rescue (fades_clear _) fun _ => (closed_fades registry).pure none
    rw [absent]
    exact (cleared between).eq_none (faded.eq_none absent)
  next => exact kept intact.left

/-! ### Storing a registration -/

/-- A registration that is not stored leaves what there was, unless that gets lost. -/
theorem fades_of_setDeviceIdentity {identity : DeviceIdentity} {error : Error} {state last : σ}
    (run : (session.setDeviceIdentity identity).run registry.handle state = (.error error, last)) :
    registry.Fades state last := by
  have held : registry.Fades state (registry.handle .hold state).2 :=
    registry.fades_of state nofun
  unfold Session.setDeviceIdentity Vault.setDeviceIdentity Vault.store at run
  rw [Program.run_guarded] at run
  cases inner : (session.vault.write .deviceIdentity identity).run registry.handle
      (registry.handle .hold state).2 with
  | mk result between =>
  rw [inner] at run
  obtain ⟨rfl, rfl⟩ := Prod.mk.inj run
  have released : registry.Fades between (registry.handle .release between).2 :=
    registry.fades_of between nofun
  have unwritten : registry.Fades (registry.handle .hold state).2 between := by
    obtain ⟨_, failed, -⟩ | ⟨blob, wrapped, sealing, putting⟩ := Program.run_bind_cases inner
    · have faded := (closed_fades registry).sealed session.vault (Record.encode identity)
        (registry.handle .hold state).2
      rw [failed] at faded
      exact faded
    · have faded := (closed_fades registry).sealed session.vault (Record.encode identity)
        (registry.handle .hold state).2
      rw [sealing] at faded
      obtain ⟨source, put, -⟩ | ⟨_, -, done⟩ := Vault.run_about_cases putting
      · have due := registry.leaves (.write (session.vault.keyFor .deviceIdentity) blob) wrapped
        rw [Program.run_write] at put
        rw [put] at due
        exact faded.trans due
      · cases done
  exact (held.trans unwritten).trans released

/-- What is sealed is sealed with the key. -/
theorem blob_of_sealed {identity : DeviceIdentity} {blob : Bytes} {state last : σ}
    (run : (session.vault.sealed (Record.encode identity)).run registry.handle state =
      (.ok blob, last)) : ∃ nonce, blob = session.vault.blob key nonce identity := by
  obtain ⟨other, between, given, run⟩ := Program.run_bind_eq_ok run
  obtain rfl := registry.sealingKey (congrArg Prod.fst given)
  obtain ⟨nonce, _, -, run⟩ := Program.run_bind_eq_ok run
  obtain ⟨wrapped, -⟩ := Prod.mk.inj run
  exact ⟨nonce, (Except.ok.inj wrapped).symm⟩

/-- **A registration that is stored** is what is registered, unless it gets lost. -/
theorem registered_of_setDeviceIdentity {identity : DeviceIdentity} {state last : σ}
    (run : (session.setDeviceIdentity identity).run registry.handle state = (.ok (), last))
    (intact : registry.Intact ((session.setDeviceIdentity identity).trace registry.handle state))
    (plain : identity.registeredAt.IsPlain) : registry.registered last = some identity := by
  rw [Session.setDeviceIdentity, Vault.setDeviceIdentity, Vault.store] at run intact
  rw [Program.run_guarded] at run
  rw [Program.trace_guarded] at intact
  cases inner : (session.vault.write .deviceIdentity identity).run registry.handle
      (registry.handle .hold state).2 with
  | mk result between =>
  rw [inner] at run intact
  obtain ⟨rfl, rfl⟩ := Prod.mk.inj run
  obtain ⟨blob, wrapped, sealing, putting⟩ := Program.run_bind_eq_ok inner
  obtain ⟨nonce, same⟩ := blob_of_sealed sealing
  have put := Vault.run_about_eq_ok putting
  rw [Program.run_write] at put
  rw [Vault.write, Program.trace_bind_ok sealing, Vault.trace_about, Program.trace_write] at intact
  have due := intact.tail.left.right.due List.mem_cons_self
  have kept : registry.registered _ = registry.registered between :=
    registry.spares_of between (fun _ _ => rfl) intact.tail.right
  have written : registry.registered between = session.vault.content? key blob := by
    rw [Moment.of, put, Vault.registers, if_pos rfl] at due
    exact due
  rw [kept, written, same]
  exact Vault.content?_blob (Record.faithful_deviceIdentity plain) nonce

/-! ### The connection -/

/-- The connection that a request goes over is cached. -/
theorem cached_of_connection {connection : Connection} {state last : σ}
    (run : session.connection.run registry.handle state = (.ok connection, last)) :
    registry.cached last = some connection := by
  obtain ⟨cached, asked, ask, run⟩ := Program.run_bind_eq_ok run
  rw [Program.run_ask] at ask
  obtain ⟨given, rfl⟩ := Prod.mk.inj ask
  split at run
  next offered =>
    obtain ⟨done, rfl⟩ := Prod.mk.inj run
    have kept : registry.cached _ = registry.cached state := registry.caches .connection state
    rw [kept, ← registry.connection, Except.ok.inj given, Except.ok.inj done]
  next =>
    obtain ⟨registration, found, -, run⟩ := Program.run_bind_eq_ok run
    obtain ⟨_, connected, -, run⟩ := Program.run_bind_eq_ok run
    obtain ⟨_, last', caching, run⟩ := Program.run_bind_eq_ok run
    obtain ⟨done, rfl⟩ := Prod.mk.inj run
    rw [Program.run_ask] at caching
    obtain ⟨-, rfl⟩ := Prod.mk.inj caching
    rw [← Except.ok.inj done]
    exact registry.caches (.cacheConnection (some ⟨registration⟩)) connected

variable (session registry)

theorem fades_connection :
    registry.Fading _ session.connection :=
  (closed_fades registry).connection ((closed_fades registry).deviceIdentity (fades_clear _))

theorem spares_connection :
    registry.Sparing _ session.connection :=
  (closed_spares registry).connection (spares_deviceIdentity session registry)

theorem asides_spares : session.Asides registry.Sparing where
  toFormed := (closed_spares registry).toFormed
  aside aside state := registry.spares_of state (Vault.registers_aside aside)

/-- **Looking up, provisioning and granting** change nothing of what is registered. -/
theorem granting_spares : session.Granting registry.Sparing :=
  (asides_spares session registry).granting (spares_deviceIdentity session registry)
    (spares_connection session registry)

/-! ### Preparing a request -/

variable {session registry}

/-- What secures a registration does so whatever spares it afterwards. -/
theorem Secures.before {program : Program α} {f : α → Program β} (h : registry.Secures program)
    (hf : ∀ a, registry.Sparing _ (f a)) :
    registry.Secures (program >>= f) := by
  intro state b last run intact
  obtain ⟨a, between, first, run⟩ := Program.run_bind_eq_ok run
  rw [Program.trace_bind_ok first] at intact
  have kept := hf a between intact.right
  rw [run] at kept
  rw [kept]
  exact h state a between first intact.left

/-- What secures a registration does so whatever is done before. -/
theorem Secures.after {program : Program α} {f : α → Program β}
    (hf : ∀ state a between, program.run registry.handle state = (.ok a, between) →
      registry.Secures (f a)) : registry.Secures (program >>= f) := by
  intro state b last run intact
  obtain ⟨a, between, first, run⟩ := Program.run_bind_eq_ok run
  rw [Program.trace_bind_ok first] at intact
  exact hf state a between first between b last run intact.right

/-- Registering secures a registration. -/
theorem secures_register (credential : Option UserCredential) :
    registry.Secures (session.register credential) := by
  have granting := granting_spares session registry
  refine .after fun _ _ _ _ => .after fun _ _ _ _ => .after fun _ _ _ _ =>
    .after fun state now _ clock => ?_
  have plain : now.IsPlain := by
    obtain ⟨given, -⟩ := Prod.mk.inj clock
    exact Except.ok.inj given ▸ registry.plain state
  refine .before (fun _ _ _ run intact => ?_) fun _ =>
    granting.bind granting.dropConnection fun _ => ?_
  · rw [registered_of_setDeviceIdentity run intact plain]
    exact Option.some_ne_none _
  · split
    · exact granting.acceptIssuedIdToken _ _
    · exact granting.pure ()

/-- **A device that is registered now** has a registration. -/
theorem secures_ensureRegistered : registry.Secures session.ensureRegistered := by
  intro state _ last run intact
  obtain ⟨isRegistered, between, looked, rest⟩ := Program.run_bind_eq_ok run
  rw [Session.ensureRegistered, Program.trace_bind_ok looked] at intact
  cases isRegistered with
  | true =>
    have granting := granting_spares session registry
    have kept := granting.isDeviceRegistered granting.deviceIdentity state intact.left
    rw [looked] at kept
    have kept : registry.registered between = registry.registered state := kept
    obtain ⟨found, _, looking, done⟩ := Program.run_bind_eq_ok looked
    obtain ⟨present, -⟩ := Prod.mk.inj done
    obtain ⟨-, rfl⟩ := Prod.mk.inj rest
    rw [kept, ← registered_of_deviceIdentity looking]
    exact Option.isSome_iff_ne_none.1 (Except.ok.inj present)
  | false =>
    have registers : registry.Secures (do
        let credential ← Program.user
        if credential.isNone && session.settings.registrationRequiresUser then
          .fail (.recoverable .credentialsRequired)
        else session.register credential) := by
      refine .after fun _ credential _ _ => ?_
      split
      · exact fun _ _ _ run => nomatch run
      · exact secures_register credential
    exact registers between () last rest intact.right

/-- **A request that is prepared** was prepared with a registration. -/
theorem secures_prepare (ctx : Context) : registry.Secures (session.prepare ctx) := by
  have granting := granting_spares session registry
  exact secures_ensureRegistered.before fun _ =>
    granting.bind granting.ensureClientCredential fun _ =>
      granting.bind (granting.ways.tokenFor _) fun _ =>
        granting.bind (granting.deviceHeaders _) fun _ => granting.pure _

end

end Registry

end GatewaySession
