import GatewaySession.Proofs.Engine.Timeline
import GatewaySession.Proofs.Exchange.Between
import GatewaySession.Proofs.Session.Registry

/-!
# Requests go over the connection of the present registration

A cached connection was made for some registration. It is dropped wherever another registration is
stored, but not wherever one is removed: an unreadable record is removed when it is looked up, and
forgetting everything may fail before the connection is dropped. So what holds at all times is less
than that the connection fits: if there is a cached connection and a registration, the one was made
for the other.

That is enough, because no request of a caller is sent before the device is registered. Whatever
happened to the record in the meantime, registering anew drops the connection; so where a request
goes out, the connection is the one of the registration that lies there, and the request names it.

Each session is asked for one errand after the other, and each is carried out to its end. Only
storing a registration by itself is left out, since it does not drop the connection. Between two
errands, and at any moment of one, records may get lost or damaged, and everything may fail.

## Main definitions

* `Registry.Bound` — connection and registration fit, where there are both
* `Registry.Fresh` — a request goes over the connection of what is registered, and names it
* `Registry.Binds`, `Registry.Binding` — a run, or every run of a program, keeps the two together,
  and its requests are fresh
* `Registry.Step`, `Registry.Run` — one errand after the other

## Main results

* `Registry.binds_round`, `Registry.workings_binds` — attempts, and everything an engine does
* `Registry.Bound.run` — what every run keeps
* `Registry.callerSend_fresh` — every request of a caller is fresh
-/

namespace GatewaySession

open Program (Closed Formed)

/-! ### Headers -/

namespace Request

/-- A header that was set is there. -/
theorem header?_setHeader (request : Request) (name value : String) :
    (request.setHeader name value).header? name = some value := by
  have none : (request.headers.filter fun header => !Header.same header.1 name).find?
      (fun header => Header.same header.1 name) = none := by
    simp [List.find?_eq_none]
  rw [header?, setHeader, List.find?_append, none]
  simp [Header.same]

/-- Setting another header leaves it alone. -/
theorem header?_setHeader_of_not_same (request : Request) {name other : String} (value : String)
    (differs : Header.same other name = false) :
    (request.setHeader other value).header? name = request.header? name := by
  have kept (header : String × String) :
      (!Header.same header.1 other && Header.same header.1 name) = Header.same header.1 name := by
    cases own : Header.same header.1 name with
    | false => exact Bool.and_false _
    | true =>
      rw [Header.same, beq_iff_eq] at own
      rw [Header.same, beq_eq_false_iff_ne] at differs
      simpa [Header.same, own] using differs.symm
  rw [header?, header?, setHeader]
  simp [List.find?_append, List.find?_filter, kept, differs]

end Request

namespace Session

/-- A header that is set if it has a value leaves the others alone. -/
theorem header?_setHeaderIfSome_of_not_same (request : Request) {name other : String}
    (value : Option String) (differs : Header.same other name = false) :
    (setHeaderIfSome request other value).header? name = request.header? name := by
  cases value with
  | none => rfl
  | some value => exact request.header?_setHeader_of_not_same value differs

/-- Decorating a request leaves the identifier of the device alone. -/
theorem header?_decorate (ctx : Context) (token : Option AccessToken) (request : Request) :
    (decorate ctx token request).header? "mag-identifier" = request.header? "mag-identifier" := by
  rw [decorate, header?_setHeaderIfSome_of_not_same _ _ (by decide),
    header?_setHeaderIfSome_of_not_same _ _ (by decide),
    header?_setHeaderIfSome_of_not_same _ _ (by decide)]

end Session

variable {σ α β : Type} {key : Aes256.Key} {session : Session}

namespace Registry

section

variable (registry : Registry σ session.vault key)

/-- Whether the cached connection was made for what is registered, if there are both. -/
def Bound (state : σ) : Prop :=
  ∀ connection identity, registry.cached state = some connection →
    registry.registered state = some identity → connection.registration = some identity

/-- A request that is sent at a moment, after others. -/
structure Fresh (past : List (Moment σ)) (sent : Moment σ) (connection : Connection)
    (request : Request) : Prop where
  /-- The connection was made for what is registered at that moment. -/
  bound (identity : DeviceIdentity) : registry.registered sent.before = some identity →
    connection.registration = some identity
  /-- The request names it. -/
  named (identity : DeviceIdentity) : registry.registered sent.before = some identity →
    request.header? "mag-identifier" = some identity.magIdentifier
  /-- There is one, unless it has got lost since. -/
  present : registry.Intact past → registry.registered sent.before ≠ none

/-- Whether the requests of callers at some moments, after others, are fresh. -/
def SendsFresh (past moments : List (Moment σ)) : Prop :=
  ∀ early sent late connection id request, moments = early ++ sent :: late →
    sent.effect = .send connection (.caller id) request →
      registry.Fresh (past ++ early) sent connection request

/-- Whether a connection and a registration are kept together, and the requests of callers are
fresh. -/
def Binds (first : σ) (moments : List (Moment σ)) (last : σ) : Prop :=
  registry.Bound first → registry.Bound last ∧ registry.SendsFresh [] moments

/-- Whether they are so while a program runs. -/
abbrev Binding (α : Type) (program : Program α) : Prop :=
  Program.Leads registry.handle registry.Binds α program

/-- Whether at most the connection is dropped, and no request of a caller sent. -/
def Quiet (first : σ) (moments : List (Moment σ)) (last : σ) : Prop :=
  (registry.cached last = none ∨ registry.cached last = registry.cached first) ∧
    ∀ moment ∈ moments, moment.effect.isCallerSend = false

end

variable {registry : Registry σ session.vault key}

section

variable {first between last : σ} {past early late moments : List (Moment σ)}

theorem SendsFresh.append (h : registry.SendsFresh past early)
    (h' : registry.SendsFresh (past ++ early) late) : registry.SendsFresh past (early ++ late) := by
  intro before sent after connection id request split effect
  obtain ⟨within, rfl, rest⟩ | ⟨within, same, rest⟩ := List.append_eq_append_iff.1 split
  · rw [← List.append_assoc]
    exact h' within sent after connection id request rest effect
  · cases within with
    | nil =>
      rw [List.append_nil] at same
      rw [List.nil_append] at rest
      have fresh := h' [] sent after connection id request rest.symm effect
      rwa [List.append_nil, same] at fresh
    | cons moment within =>
      obtain ⟨rfl, rfl⟩ := List.cons.inj rest
      exact h before sent within connection id request same effect

/-- What was done before takes nothing away. -/
theorem SendsFresh.weaken (h : registry.SendsFresh [] moments) :
    registry.SendsFresh past moments := by
  intro before sent after connection id request split effect
  have fresh := h before sent after connection id request split effect
  exact ⟨fresh.bound, fresh.named, fun intact => fresh.present intact.right⟩

theorem sendsFresh_of_quiet (quiet : ∀ moment ∈ moments, moment.effect.isCallerSend = false) :
    registry.SendsFresh past moments := by
  rintro before sent after connection id request rfl effect
  have own := quiet sent (List.mem_append_right _ List.mem_cons_self)
  rw [effect] at own
  cases own

theorem Bound.after (h : registry.Bound first) (faded : registry.Fades first last)
    (kept : registry.cached last = none ∨ registry.cached last = registry.cached first) :
    registry.Bound last := by
  intro connection identity cached registered
  obtain dropped | same := kept
  · cases dropped.symm.trans cached
  · exact h connection identity (same.symm.trans cached) (faded.eq_some registered)

theorem Quiet.binds (h : registry.Quiet first moments last) (faded : registry.Fades first last) :
    registry.Binds first moments last :=
  fun bound => ⟨bound.after faded h.1, sendsFresh_of_quiet h.2⟩

end

variable (registry) in
theorem chains_binds : Chains registry.Binds where
  refl _ bound := ⟨bound, sendsFresh_of_quiet (by simp)⟩
  trans := by
    intro first between last early late h h' bound
    obtain ⟨bound, fresh⟩ := h bound
    obtain ⟨bound, fresh'⟩ := h' bound
    exact ⟨bound, fresh.append fresh'.weaken⟩

variable (registry) in
theorem chains_quiet : Chains registry.Quiet where
  refl _ := ⟨.inr rfl, by simp⟩
  trans := by
    intro first between last early late ⟨kept, quiet⟩ ⟨kept', quiet'⟩
    refine ⟨kept'.elim .inl fun same => kept.imp same.trans same.trans, ?_⟩
    intro moment mem
    exact (List.mem_append.1 mem).elim (quiet moment) (quiet' moment)

/-! ### Single effects -/

variable (registry) in
/-- An effect that caches no connection and is no request of a caller. -/
theorem quiet_of (effect : Effect) (state : σ) (own : effect.isCallerSend = false)
    (caches : ∀ connection, effect ≠ .cacheConnection (some connection)) :
    registry.Quiet state [.of registry.handle effect state] (registry.handle effect state).2 := by
  refine ⟨?_, by simpa [Moment.of] using own⟩
  rw [registry.caches]
  cases effect with
  | cacheConnection connection =>
    cases connection with
    | none => exact .inl rfl
    | some connection => exact absurd rfl (caches connection)
  | _ => exact .inr rfl

variable (registry) in
theorem quiet_of_aside {effect : Effect} (state : σ) (aside : session.vault.IsAside effect) :
    registry.Quiet state [.of registry.handle effect state] (registry.handle effect state).2 := by
  refine registry.quiet_of effect state ?own ?caches
  case own =>
    cases effect with
    | send connection purpose request =>
      cases purpose with
      | caller id => exact absurd rfl (aside id)
      | _ => rfl
    | _ => rfl
  case caches =>
    rintro connection rfl
    cases aside

variable (session registry)

theorem formed_quiet : Formed (Program.Leads registry.handle registry.Quiet) :=
  Program.formed_leads (chains_quiet registry) fun neutral state =>
    registry.quiet_of_aside state (Vault.isAside_of_isNeutral neutral)

theorem asides_binds : session.Asides registry.Binding := by
  have aside {effect : Effect} (aside : session.vault.IsAside effect) (state : σ) :
      registry.Binds state [.of registry.handle effect state] (registry.handle effect state).2 := by
    refine (registry.quiet_of_aside state aside).binds (registry.fades_of state ?_)
    rintro value rfl
    exact aside rfl
  exact {
    toFormed := Program.formed_leads (chains_binds registry) fun neutral =>
      aside (Vault.isAside_of_isNeutral neutral)
    aside := aside }

/-- A removal at most loses a registration. -/
theorem binds_remove (name : String) :
    registry.Binding _ (Program.remove name) := by
  intro state
  have quiet : registry.Quiet state [.of registry.handle (.remove name) state]
      (registry.handle (.remove name) state).2 := registry.quiet_of _ state rfl nofun
  exact quiet.binds (registry.fades_of state nofun)

theorem binds_clear (slot : Slot) :
    registry.Binding _ (session.vault.clear slot) := by
  have asides := asides_binds session registry
  exact asides.toFormed.clear (asides.aside trivial) (asides.aside trivial)
    (binds_remove session registry _)

theorem binds_clearAll : registry.Binding _ session.vault.clearAll := by
  have asides := asides_binds session registry
  have list : session.vault.IsAside (.list session.vault.keyStart) := trivial
  exact asides.toFormed.clearAll (asides.aside trivial) (asides.aside trivial)
    (asides.bind (asides.aside list) asides.ofExcept) (binds_remove session registry)

theorem binds_deviceIdentity :
    registry.Binding _ session.deviceIdentity :=
  (asides_binds session registry).deviceIdentity (binds_clear session registry _)

variable {session registry}

/-! ### The connection -/

/-- A connection that was made for what is registered may be cached. -/
theorem binds_caching {found : Option DeviceIdentity} {state : σ}
    (made : ∀ identity, registry.registered state = some identity → found = some identity) :
    registry.Binds state [.of registry.handle (.cacheConnection (some ⟨found⟩)) state]
      (registry.handle (.cacheConnection (some ⟨found⟩)) state).2 := by
  intro _
  have faded : registry.Fades state
      (registry.handle (.cacheConnection (some ⟨found⟩)) state).2 := registry.fades_of state nofun
  refine ⟨?_, sendsFresh_of_quiet (by simp [Moment.of, Effect.isCallerSend])⟩
  intro connection identity cached registered
  have caches := registry.caches (.cacheConnection (some ⟨found⟩)) state
  obtain rfl := Option.some.inj (caches.symm.trans cached)
  exact made identity (faded.eq_some registered)

/-- A connection is made for what is registered, and cached. -/
theorem binds_connect {found : Option DeviceIdentity} {state : σ}
    (made : ∀ identity, registry.registered state = some identity → found = some identity) :
    let program : Program Connection := do
      Program.perform (.connect found) .done
      let _ ← Program.ask (.cacheConnection (some ⟨found⟩))
      return ⟨found⟩
    registry.Binds state (program.trace registry.handle state)
      (program.run registry.handle state).2 := by
  intro program
  have aside : session.vault.IsAside (.connect found) := trivial
  have connecting := (asides_binds session registry).aside aside state
  cases connected : registry.handle (.connect found) state with
  | mk reply next =>
  have run : (Program.perform (.connect found) .done).run registry.handle state = (reply, next) :=
    connected
  have faded : registry.Fades state (registry.handle (.connect found) state).2 :=
    registry.fades_of state nofun
  rw [connected] at faded
  rw [Program.run_ask, connected] at connecting
  cases reply with
  | error error =>
    rw [Program.trace_bind_error run, Program.run_bind_error run]
    exact connecting
  | ok _ =>
    rw [Program.trace_bind_ok run, Program.run_bind_ok run]
    exact (chains_binds registry).trans connecting
      (binds_caching fun identity present => made identity (faded.eq_some present))

variable (session registry)

/-- **The connection that a request goes over** is made for what is registered, or was. -/
theorem binds_connection : registry.Binding _ session.connection := by
  have asides := asides_binds session registry
  refine asides.bind (asides.aside trivial) fun cached => ?_
  split
  · exact asides.pure _
  intro state
  have looking := binds_deviceIdentity session registry state
  cases look : session.deviceIdentity.run registry.handle state with
  | mk result between =>
  rw [look] at looking
  cases result with
  | error error =>
    rw [Program.trace_bind_error look, Program.run_bind_error look]
    exact looking
  | ok found =>
  rw [Program.trace_bind_ok look, Program.run_bind_ok look]
  have faded := (closed_fades registry).deviceIdentity (fades_clear _) state
  rw [look] at faded
  have made (identity : DeviceIdentity) (present : registry.registered between = some identity) :
      found = some identity :=
    (registered_of_deviceIdentity look).trans (faded.eq_some present)
  exact (chains_binds registry).trans looking (binds_connect made)

/-! ### Registering -/

/-- Storing a registration drops no connection, and sends nothing. -/
theorem quiet_setDeviceIdentity (identity : DeviceIdentity) :
    Program.Leads registry.handle registry.Quiet _ (session.setDeviceIdentity identity) :=
  (formed_quiet session registry).store (fun state => registry.quiet_of .hold state rfl nofun)
    (fun state => registry.quiet_of .release state rfl nofun)
    (fun blob state => registry.quiet_of (.write _ blob) state rfl nofun) identity

/-- **Storing a registration and dropping the connection** keeps the two together. -/
theorem binds_registered (identity : DeviceIdentity) {rest : Program Unit}
    (h : registry.Binding _ rest) :
    registry.Binding _ (do
      session.setDeviceIdentity identity
      Program.dropConnection
      rest) := by
  intro state
  have quiet := quiet_setDeviceIdentity session registry identity state
  cases stored : (session.setDeviceIdentity identity).run registry.handle state with
  | mk result between =>
  rw [stored] at quiet
  cases result with
  | error error =>
    rw [Program.trace_bind_error stored, Program.run_bind_error stored]
    exact quiet.binds (fades_of_setDeviceIdentity stored)
  | ok _ =>
    rw [Program.trace_bind_ok stored, Program.run_bind_ok stored]
    -- Whatever the connection was made for, it is gone.
    have dropped : registry.cached (registry.handle (.cacheConnection none) between).2 = none :=
      registry.caches (.cacheConnection none) between
    have dropping : registry.Quiet between [.of registry.handle (.cacheConnection none) between]
        (registry.handle (.cacheConnection none) between).2 :=
      registry.quiet_of _ between rfl nofun
    have apart : registry.Binds state ((session.setDeviceIdentity identity).trace registry.handle
          state ++ [.of registry.handle (.cacheConnection none) between])
        (registry.handle (.cacheConnection none) between).2 := by
      intro _
      refine ⟨?_, sendsFresh_of_quiet ((chains_quiet registry).trans quiet dropping).2⟩
      intro connection identity cached
      cases dropped.symm.trans cached
    have all := (chains_binds registry).trans apart (h _)
    rw [List.append_assoc] at all
    exact all

/-- **The parts of an attempt** keep connection and registration together. -/
theorem parts_binds : session.Parts registry.Binding := by
  have granting := (asides_binds session registry).granting (binds_deviceIdentity session registry)
    (binds_connection session registry)
  exact {
    toGranting := granting
    clearDeviceIdentity := binds_clear session registry _
    register := granting.registerAnew fun identity _ => binds_registered session registry identity }

/-! ### Attempts -/

variable {session registry}

/-- A request that was prepared names what is registered. -/
theorem named_of_prepare {ctx : Context} {request : Request} {state last : σ}
    (run : (session.prepare ctx).run registry.handle state = (.ok request, last))
    {identity : DeviceIdentity} (present : registry.registered last = some identity) :
    request.header? "mag-identifier" = some identity.magIdentifier := by
  obtain ⟨_, registered, -, run⟩ := Program.run_bind_eq_ok run
  obtain ⟨_, named, -, run⟩ := Program.run_bind_eq_ok run
  obtain ⟨token, granted, -, run⟩ := Program.run_bind_eq_ok run
  obtain ⟨decorated, final, headed, run⟩ := Program.run_bind_eq_ok run
  obtain ⟨done, rfl⟩ := Prod.mk.inj run
  obtain ⟨found, looked, look, headed⟩ := Program.run_bind_eq_ok headed
  have faded := (closed_fades registry).deviceIdentity (fades_clear .deviceIdentity) granted
  rw [look] at faded
  have before := registered_of_deviceIdentity look
  rw [← Except.ok.inj done, Session.header?_decorate]
  cases found with
  | none =>
    obtain ⟨-, rfl⟩ := Prod.mk.inj headed
    cases before.trans (faded.eq_some present)
  | some other =>
    obtain ⟨same, rfl⟩ := Prod.mk.inj headed
    rw [← Except.ok.inj same, Option.some.inj (before.trans (faded.eq_some present))]
    exact Request.header?_setHeader _ _ _

section

variable {past : List (Moment σ)} {request : Request} {state : σ}
  (bound : registry.Bound state)
  (named : ∀ identity, registry.registered state = some identity →
    request.header? "mag-identifier" = some identity.magIdentifier)
  (present : registry.Intact past → registry.registered state ≠ none)

include bound named present

/-- **The request of a caller** is fresh, if it names what is registered. -/
theorem fresh_send (id : Nat) :
    let program := session.send (.caller id) request
    registry.Bound (program.run registry.handle state).2 ∧
      registry.SendsFresh past (program.trace registry.handle state) := by
  simp only
  have connecting := binds_connection session registry state bound
  have faded := fades_connection session registry state
  have spared := spares_connection session registry state
  cases connected : session.connection.run registry.handle state with
  | mk result between =>
  rw [connected] at connecting faded spared
  obtain ⟨fits, fresh⟩ := connecting
  cases result with
  | error error =>
    unfold Session.send
    rw [Program.trace_bind_error connected, Program.run_bind_error connected]
    exact ⟨fits, fresh.weaken⟩
  | ok connection =>
  unfold Session.send
  rw [Program.trace_bind_ok connected, Program.run_bind_ok connected]
  have cached := cached_of_connection connected
  refine ⟨fits.after (registry.fades_of between nofun) (.inr ?_), fresh.weaken.append ?_⟩
  · exact registry.caches (.send connection (.caller id) request) between
  intro early sent late other number same split effect
  cases early with
  | cons first early => cases early <;> cases (List.cons.inj split).2
  | nil =>
    obtain ⟨rfl, -⟩ := List.cons.inj split
    obtain ⟨rfl, -, rfl⟩ := Effect.send.inj effect
    rw [List.append_nil]
    exact {
      bound := fun identity registered => fits connection identity cached registered
      named := fun identity registered => named identity (faded.eq_some registered)
      present := fun intact lost => present intact.left ((spared intact.right).symm.trans lost) }

end

variable (session registry)

/-- Whatever the answer, no other request of the caller follows in an attempt. -/
theorem binds_answered (ctx : Context) (answer : Except Error Response) :
    registry.Binding (Round ctx) (match answer with
      | .error error => return .finished (.error error) ctx.countAttempt
      | .ok response =>
        if response.isSuccess then return .finished (.ok response) ctx.countAttempt.withoutOtp
        else session.afterRefusal ctx response) := by
  have parts := parts_binds session registry
  split
  · exact parts.pure _
  · split
    · exact parts.pure _
    · exact parts.afterRefusal _ _

/-- **An attempt** keeps connection and registration together, and its request is fresh. -/
theorem binds_round (ctx : Context) :
    registry.Binding _ (session.round ctx) := by
  have parts := parts_binds session registry
  intro state bound
  have preparing := parts.stages.prepare ctx state bound
  cases prepared : (session.prepare ctx).run registry.handle state with
  | mk result between =>
  rw [prepared] at preparing
  obtain ⟨bound, fresh⟩ := preparing
  rw [Session.round, Program.trace_attempt_bind prepared, Program.run_attempt_bind prepared]
  cases result with
  | error error =>
    obtain ⟨bound, fresh'⟩ := parts.afterUnsent ctx error between bound
    exact ⟨bound, fresh.append fresh'.weaken⟩
  | ok request =>
    simp only
    obtain ⟨bound, fresh'⟩ := fresh_send bound (fun _ => named_of_prepare prepared)
      (secures_prepare ctx state request between prepared) ctx.id
    cases sent : (session.send (.caller ctx.id) request).run registry.handle between with
    | mk answer after =>
    rw [sent] at bound
    rw [Program.trace_attempt_bind sent, Program.run_attempt_bind sent]
    obtain ⟨bound, rest⟩ := binds_answered session registry ctx answer after bound
    exact ⟨bound, fresh.append (fresh'.append rest.weaken)⟩

/-! ### Everything an engine does -/

/-- **Everything an engine does**, but for storing a registration by itself, keeps connection and
registration together. -/
theorem workings_binds : session.Workings registry.Binding := by
  have asides := asides_binds session registry
  have parts := parts_binds session registry
  exact {
    toParts := parts
    setAccessToken := asides.setAccessToken
    setConfiguredClientId := asides.store (by decide)
    round := binds_round session registry
    clearAll := binds_clearAll session registry
    takeRefreshToken := asides.takeRefreshToken
    revokeIdToken := parts.revokeIdToken (asides.send nofun) }

variable {session}

/-- One thing after the other: an errand is carried out, or the surroundings change, and at most
lose the registration. -/
inductive Step : σ → σ → Prop where
  /-- An errand is carried out. -/
  | errand {program : Program Unit} (state : σ) (errand : session.Errand program)
    (spares : ∀ identity, program ≠ session.setDeviceIdentity identity) :
    Step state (program.run registry.handle state).2
  /-- Something happens elsewhere. -/
  | elsewhere {state state' : σ} (same : registry.cached state' = registry.cached state)
    (faded : registry.Fades state state') : Step state state'

/-- The states that one errand after the other leads to. -/
abbrev Run : σ → σ → Prop := Relation.ReflTransGen registry.Step

variable {registry} {first last : σ}

/-- **A step** keeps connection and registration together. -/
theorem Bound.step (h : registry.Bound first) (step : registry.Step first last) :
    registry.Bound last := by
  cases step with
  | errand _ errand spares =>
    exact ((workings_binds session registry).affairs.errand
      (fun identity same => absurd same (spares identity)) errand first h).1
  | elsewhere same faded => exact h.after faded (.inr same)

/-- **A run** keeps connection and registration together. -/
theorem Bound.run (h : registry.Bound first) (run : registry.Run first last) :
    registry.Bound last := by
  induction run with
  | refl => exact h
  | tail _ step ih => exact ih.step step

end Registry

/-! ### A request over a connection that is made for it -/

namespace Surroundings

/-- What is registered. -/
def assigned : DeviceIdentity := ⟨"pem", "assigned", ⟨0, 0⟩⟩

/-- The device is registered, and the state is the cached connection. The gateway is content with
every request. -/
def connecting : (effect : Effect) → Option Connection → effect.Reply × Option Connection
  | .connection, cached => (cached, cached)
  | .cacheConnection connection, _ => ((), connection)
  | .send _ _ _, cached => (.ok { status := 200 }, cached)
  | effect, cached => ((demanding effect ()).1, cached)

/-- They lose nothing. -/
def connectingRegistry :
    Registry (Option Connection) Session.confidential.vault (Vector.replicate 32 0) where
  handle := connecting
  stored _ := some registration
  cached state := state
  plain _ := (by decide : (⟨0, 0⟩ : Timestamp).IsPlain)
  read found := (Except.ok.inj found).symm
  sealingKey given := (Except.ok.inj given).symm
  locked := nofun
  connection _ := rfl
  caches effect _ := by cases effect <;> rfl
  leaves effect _ := by cases effect <;> exact .inr rfl

theorem registered_connecting (state : Option Connection) :
    connectingRegistry.registered state = some assigned := by
  have plain : assigned.registeredAt.IsPlain := by decide
  have content : Session.confidential.vault.content? (Vector.replicate 32 0) registration =
      some assigned := by
    rw [registration]
    exact Vault.content?_blob (Record.faithful_deviceIdentity plain) _
  have held : connectingRegistry.stored state = some registration := rfl
  rw [Registry.registered, held, Vault.registration?, Option.bind_some, content]

end Surroundings

namespace Registry

open Session (confidential publicContext demandedRequest)
open Surroundings (assigned connecting connectingRegistry registered_connecting)

/-- A connection is made for the registration, and cached. -/
theorem run_connection_connecting : confidential.connection.run connecting none =
    (.ok ⟨some assigned⟩, some ⟨some assigned⟩) := by
  have none : (Program.ask .connection).run connecting none = (.ok none, none) := rfl
  rw [Session.connection, Program.run_bind_ok none]
  simp only
  rw [Program.run_bind_ok (Session.run_deviceIdentity_registration rfl rfl)]
  rfl

/-- The request is sent. -/
def sentConnecting : Moment (Option Connection) :=
  .of connecting (.send ⟨some assigned⟩ (.caller publicContext.id) (demandedRequest publicContext))
    (some ⟨some assigned⟩)

end Registry

end GatewaySession
