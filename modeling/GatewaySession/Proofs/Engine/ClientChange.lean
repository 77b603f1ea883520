import GatewaySession.Proofs.Engine.Recording
import GatewaySession.Proofs.Rehearsal.Keeping
import Mathlib.Logic.Relation

/-!
# What another client finds

An engine runs operations for one client, any number at a time: each takes its effects one by one,
and they mix in any order. Some fail, and some are under way when the run ends. Then an engine is
started for another client over the same storage.

What the run keeps is that the record of the client id, if there is one, is its own, and that it is
absent only if an operation that forgets everything has failed or has not ended. So the other engine
removes everything if the record is there, and removes nothing if it is not. In the latter case it
finds whatever was stored since, by operations that did not fail.

## Main definitions

* `Engine.Operation`, `Engine.Task` — what an engine is asked to do, and what remains of it
* `Engine.Site`, `Engine.Step` — tasks over surroundings, one effect at a time
* `Engine.Orderly` — the invariant

## Main results

* `Engine.Orderly.step`, `Engine.Orderly.run` — what a step and a run keep
* `Engine.Step.reaches_unrecorded` — a run that leaves a token without the record
* `Engine.start_after_run` — what an engine of another client finds and leaves
-/

namespace GatewaySession

open Program (Meets Spares Records)
open Rehearsal

/-! ### The record under single effects -/

namespace Keeper

variable {σ : Type} {vault : Vault} {key : Aes256.Key} {clientId : String}
  {keeper : Keeper σ vault key} {state : σ} {owes : Bool} {effect : Effect}

/-- The answers of a keeper are what the watch takes for granted. -/
theorem recording_grants (sound : keeper.IsSound state) {reply : effect.Reply} {next : σ}
    (answered : keeper.handle effect state = (reply, next)) :
    (vault.recording key clientId).grants effect reply := by
  cases effect with
  | sealingKey name =>
    cases reply with
    | error error => trivial
    | ok other =>
      rintro rfl
      exact keeper.sealingKey other sound (congrArg Prod.fst answered)
  | _ => trivial

/-- Another slot is updated. -/
theorem inSlot_eq_of_update {next : σ} {name : String} {value : Option Bytes}
    (other : name ≠ vault.keyFor .configuredClientId)
    (update : keeper.stored next = Function.update (keeper.stored state) name value) :
    keeper.inSlot next .configuredClientId = keeper.inSlot state .configuredClientId := by
  rw [inSlot, update]
  exact Function.update_of_ne other.symm _ _

/-- A write leaves the record alone, or it stores the client id. -/
theorem recording_write {name : String} {value : Bytes} {reply : Except Error Unit} {next : σ}
    (permitted : name = vault.keyFor .configuredClientId → vault.Marks key clientId (some value))
    (leaves : (Effect.write name value).Leaves reply (keeper.stored state) (keeper.stored next)) :
    (keeper.inSlot next .configuredClientId = keeper.inSlot state .configuredClientId ∧
        (vault.recording key clientId).next owes (.write name value) reply = owes) ∨
      vault.Marks key clientId (keeper.inSlot next .configuredClientId) := by
  by_cases same : name = vault.keyFor .configuredClientId
  · have here (update : keeper.stored next =
        Function.update (keeper.stored state) name (some value)) :
        vault.Marks key clientId (keeper.inSlot next .configuredClientId) := by
      rw [inSlot, update, same, Function.update_self]
      exact permitted same
    cases reply with
    | error error =>
      obtain unchanged | update := leaves
      · exact .inl ⟨congrFun unchanged _, rfl⟩
      · exact .inr (here update)
    | ok _ => exact .inr (here leaves)
  · refine .inl ?_
    cases reply with
    | error error =>
      obtain unchanged | update := leaves
      · exact ⟨congrFun unchanged _, rfl⟩
      · exact ⟨inSlot_eq_of_update same update, rfl⟩
    | ok _ =>
      refine ⟨inSlot_eq_of_update same leaves, ?_⟩
      show (owes && name != vault.keyFor .configuredClientId) = owes
      rw [bne_iff_ne.2 same, Bool.and_true]

/-- A removal leaves the record alone, or it removes it, which only a program does that owes it. -/
theorem recording_remove {name : String} {reply : Except Error Unit} {next : σ}
    (permitted : name = vault.keyFor .configuredClientId → owes = true)
    (leaves : (Effect.remove name).Leaves reply (keeper.stored state) (keeper.stored next)) :
    keeper.inSlot next .configuredClientId = keeper.inSlot state .configuredClientId ∨
      keeper.inSlot next .configuredClientId = none ∧ owes = true := by
  have removed (update : keeper.stored next = Function.update (keeper.stored state) name none) :
      keeper.inSlot next .configuredClientId = keeper.inSlot state .configuredClientId ∨
        keeper.inSlot next .configuredClientId = none ∧ owes = true := by
    by_cases same : name = vault.keyFor .configuredClientId
    · rw [inSlot, update, same, Function.update_self]
      exact .inr ⟨rfl, permitted same⟩
    · exact .inl (inSlot_eq_of_update same update)
  cases reply with
  | error error => exact leaves.elim (fun unchanged => .inl (congrFun unchanged _)) removed
  | ok _ => exact removed leaves

/-- What a permitted effect does to the record of the client id: it leaves it alone, or it stores
the client id, or it removes the record, which only a program does that owes it. -/
theorem recording_cases (sound : keeper.IsSound state)
    (permitted : (vault.recording key clientId).permits owes effect) {reply : effect.Reply}
    {next : σ}
    (answered : keeper.handle effect state = (reply, next)) :
    (keeper.inSlot next .configuredClientId = keeper.inSlot state .configuredClientId ∧
        (vault.recording key clientId).next owes effect reply = owes) ∨
      vault.Marks key clientId (keeper.inSlot next .configuredClientId) ∨
      (keeper.inSlot next .configuredClientId = none ∧ owes = true ∧
        (vault.recording key clientId).next owes effect reply = owes) := by
  have leaves := keeper.leaves effect sound
  rw [answered] at leaves
  cases effect with
  | write name value => exact (recording_write permitted leaves).imp_right .inl
  | remove name =>
    obtain unchanged | ⟨absent, owed⟩ := recording_remove permitted leaves
    · exact .inl ⟨unchanged, rfl⟩
    · exact .inr (.inr ⟨absent, owed, rfl⟩)
  | _ => exact .inl ⟨congrFun leaves _, rfl⟩

end Keeper

namespace Engine

/-! ### Operations -/

/-- What an engine is asked to do. A request that is submitted is executed by a worker, so that its
operation is the same as if it is executed at once. Emptying the vault and leaving it without the
record, as a session can by itself, is not among them. -/
inductive Operation where
  /-- Execute a request, or resume one that was parked. -/
  | execute (ctx : Context)
  /-- Have a one-time passcode sent. -/
  | requestOtp (channel : String)
  /-- End the user's session. -/
  | logout (contactServer : Bool)
  /-- Remove the device. -/
  | deregister
  /-- Forget everything. -/
  | destroyAll
  /-- Start the engine again, for the same client. -/
  | restart (device : Device)
  /-- Reconcile the stored records with the client. -/
  | reconcile
  /-- Look whether the user is logged in. -/
  | isLoggedIn
  /-- Look whether the device is registered. -/
  | isDeviceRegistered
  /-- Read the access token, and drop it if it is unreadable. -/
  | accessToken
  /-- Read the access token unless it has expired. -/
  | validAccessToken
  /-- Look whether there is no valid access token. -/
  | isAccessTokenExpired
  /-- Accept an access token. -/
  | setAccessToken (token : AccessToken)
  /-- Remove the access token. -/
  | clearAccessToken
  /-- Look whether there is a refresh token. -/
  | hasRefreshToken
  /-- Take out the refresh token. -/
  | takeRefreshToken
  /-- Keep a refresh token. -/
  | setRefreshToken (token : String)
  /-- Read the identity token, and drop it if it is unreadable. -/
  | idToken
  /-- Accept an identity token that validates. -/
  | acceptIdToken (value : String) (type : Option String)
  /-- Remove the identity token. -/
  | clearIdToken
  /-- Read the provisioned client credential, and drop it if it is unreadable. -/
  | storedClientCredential
  /-- Read the client credential in effect. -/
  | clientCredential
  /-- Keep a client credential. -/
  | setClientCredential (credential : ClientCredential)
  /-- Remove the client credential. -/
  | clearClientCredential
  /-- Read the registration, and drop it if it is unreadable. -/
  | deviceIdentity
  /-- Keep a registration. -/
  | setDeviceIdentity (identity : DeviceIdentity)
  /-- Remove the registration. -/
  | clearDeviceIdentity
  /-- Cache a credential of the user. -/
  | cacheUser (credential : UserCredential)
  /-- Drop the cached credential of the user. -/
  | dropUser
  /-- Remove what belongs to the user. -/
  | clearUserTokens

namespace Operation

/-- What an operation does. -/
def program (session : Session) : Operation → Program Unit
  | execute ctx => do let _ ← session.execute ctx
  | requestOtp channel => session.deliverOtp channel
  | logout contactServer => Engine.logout session contactServer
  | deregister => Engine.deregister session
  | destroyAll => Engine.destroyAll session
  | restart device => do let _ ← start session.settings device
  | reconcile => do let _ ← session.reconcile
  | isLoggedIn => do let _ ← session.isLoggedIn
  | isDeviceRegistered => do let _ ← session.isDeviceRegistered
  | accessToken => do let _ ← session.accessToken
  | validAccessToken => do let _ ← session.validAccessToken
  | isAccessTokenExpired => do let _ ← session.isAccessTokenExpired
  | setAccessToken token => session.setAccessToken token
  | clearAccessToken => session.clearAccessToken
  | hasRefreshToken => do let _ ← session.hasRefreshToken
  | takeRefreshToken => do let _ ← session.takeRefreshToken
  | setRefreshToken token => session.setRefreshToken token
  | idToken => do let _ ← session.idToken
  | acceptIdToken value type => session.acceptIdToken value type
  | clearIdToken => session.clearIdToken
  | storedClientCredential => do let _ ← session.storedClientCredential
  | clientCredential => do let _ ← session.clientCredential
  | setClientCredential credential => session.setClientCredential credential
  | clearClientCredential => session.clearClientCredential
  | deviceIdentity => do let _ ← session.deviceIdentity
  | setDeviceIdentity identity => session.setDeviceIdentity identity
  | clearDeviceIdentity => session.clearDeviceIdentity
  | cacheUser credential => Program.cacheUser credential
  | dropUser => Program.dropUser
  | clearUserTokens => session.clearUserTokens

/-- Whether an operation may remove the record of the client id. -/
def wipes : Operation → Bool
  | deregister | destroyAll | restart _ | reconcile => true
  | _ => false

variable {session : Session} {key : Aes256.Key} {clientId : String}

/-- **An operation owes the record** if it may remove it, and else leaves it alone. -/
theorem records_or_spares (operation : Operation) :
    operation.wipes = true ∧
        (operation.program session).Records session.vault key session.settings.clientId ∨
      (operation.program session).Spares session.vault key session.settings.clientId := by
  cases operation with
  | execute ctx => exact .inr (.bind (Session.spares_execute ctx) fun _ => .pure ())
  | requestOtp channel =>
    exact .inr (.of_ordinary (Session.ordinary_deliverOtp Session.admitted channel))
  | logout contactServer => exact .inr (spares_logout contactServer)
  | deregister => exact .inl ⟨rfl, records_deregister⟩
  | destroyAll => exact .inl ⟨rfl, records_destroyAll⟩
  | restart device =>
    refine .inl ⟨rfl, ?_⟩
    rw [program]
    have started : (start session.settings device).Records session.vault key
        session.settings.clientId := records_start session.settings device
    exact started.then_pure
  | reconcile =>
    have reconciled : session.reconcile.Records session.vault key session.settings.clientId :=
      Session.records_reconcile
    exact .inl ⟨rfl, reconciled.then_pure⟩
  | isLoggedIn =>
    exact .inr (.of_ordinary_discarded (Session.ordinary_isLoggedIn Session.admitted))
  | isDeviceRegistered =>
    exact .inr (.of_ordinary_discarded (Session.ordinary_isDeviceRegistered Session.admitted))
  | accessToken =>
    exact .inr (.of_ordinary_discarded (Session.ordinary_accessToken Session.admitted))
  | validAccessToken =>
    exact .inr (.of_ordinary_discarded (Session.ordinary_validAccessToken Session.admitted))
  | isAccessTokenExpired =>
    exact .inr (.of_ordinary_discarded (Session.ordinary_isAccessTokenExpired Session.admitted))
  | setAccessToken token =>
    exact .inr (.of_ordinary (Session.ordinary_setAccessToken Session.admitted token))
  | clearAccessToken =>
    exact .inr (.of_ordinary (Session.ordinary_clearAccessToken Session.admitted))
  | hasRefreshToken =>
    exact .inr (.of_ordinary_discarded (Session.ordinary_hasRefreshToken Session.admitted))
  | takeRefreshToken =>
    exact .inr (.of_ordinary_discarded (Session.ordinary_takeRefreshToken Session.admitted))
  | setRefreshToken token =>
    exact .inr (.of_ordinary (Session.ordinary_setRefreshToken Session.admitted token))
  | idToken =>
    exact .inr (.of_ordinary_discarded (Session.ordinary_idToken Session.admitted))
  | acceptIdToken value type =>
    exact .inr (.of_ordinary (Session.ordinary_acceptIdToken Session.admitted value type))
  | clearIdToken => exact .inr (.of_ordinary (Session.ordinary_clearIdToken Session.admitted))
  | storedClientCredential =>
    exact .inr (.of_ordinary_discarded (Session.ordinary_storedClientCredential Session.admitted))
  | clientCredential =>
    exact .inr (.of_ordinary_discarded (Session.ordinary_clientCredential Session.admitted))
  | setClientCredential credential =>
    exact .inr (.of_ordinary (Session.ordinary_setClientCredential Session.admitted credential))
  | clearClientCredential =>
    exact .inr (.of_ordinary (Session.ordinary_clearClientCredential Session.admitted))
  | deviceIdentity =>
    exact .inr (.of_ordinary_discarded (Session.ordinary_deviceIdentity Session.admitted))
  | setDeviceIdentity identity =>
    exact .inr (.of_ordinary (Session.ordinary_setDeviceIdentity Session.admitted identity))
  | clearDeviceIdentity =>
    exact .inr (.of_ordinary (Session.ordinary_clearDeviceIdentity Session.admitted))
  | cacheUser credential =>
    exact .inr (.of_ordinary (.ask (.cacheUser (some credential)) trivial))
  | dropUser => exact .inr (.of_ordinary .dropUser)
  | clearUserTokens =>
    exact .inr (.of_ordinary (Session.ordinary_clearUserTokens Session.admitted))

end Operation

/-! ### Steps -/

/-- An operation, and what remains of it. -/
structure Task where
  /-- What was asked for. -/
  operation : Operation
  /-- What remains. -/
  rest : Program Unit

/-- The surroundings, and all tasks that ever began. -/
structure Site (σ : Type) where
  /-- The state of the surroundings. -/
  state : σ
  /-- The tasks, ended or not. -/
  tasks : List Task

section

variable {σ : Type} {vault : Vault} {key : Aes256.Key}

/-- A step of an engine with a session. -/
inductive Step (keeper : Keeper σ vault key) (session : Session) : Site σ → Site σ → Prop where
  /-- An operation begins. -/
  | start (state : σ) (tasks : List Task) (operation : Operation) :
    Step keeper session ⟨state, tasks⟩ ⟨state, ⟨operation, operation.program session⟩ :: tasks⟩
  /-- A task performs its next effect. -/
  | perform (state : σ) (before after : List Task) (operation : Operation) (effect : Effect)
    (next : effect.Reply → Program Unit) :
    Step keeper session ⟨state, before ++ ⟨operation, .perform effect next⟩ :: after⟩
      ⟨(keeper.handle effect state).2,
        before ++ ⟨operation, next (keeper.handle effect state).1⟩ :: after⟩
  /-- The surroundings change, but not what is stored. -/
  | elsewhere (state state' : σ) (tasks : List Task) (sound : keeper.IsSound state')
    (same : keeper.stored state' = keeper.stored state) :
    Step keeper session ⟨state, tasks⟩ ⟨state', tasks⟩

/-- Whether a task owes the record of the client id. -/
def Task.Owes (vault : Vault) (key : Aes256.Key) (clientId : String) (task : Task) : Prop :=
  task.operation.wipes = true ∧ task.rest.Records vault key clientId

/-- What a run keeps: the record is of the engine's own client, and if it is absent then a task owes
it. -/
structure Orderly (keeper : Keeper σ vault key) (clientId : String) (site : Site σ) : Prop where
  /-- The surroundings keep what is stored. -/
  sound : keeper.IsSound site.state
  /-- The record is of this client. -/
  recorded : keeper.inSlot site.state .configuredClientId = none ∨
    vault.Marks key clientId (keeper.inSlot site.state .configuredClientId)
  /-- Every task owes the record or leaves it there. -/
  tasks : ∀ task ∈ site.tasks,
    task.Owes vault key clientId ∨ task.rest.Behaves vault key clientId
  /-- Somebody owes the record if it is absent. -/
  owed : keeper.inSlot site.state .configuredClientId = none →
    ∃ task ∈ site.tasks, task.Owes vault key clientId

namespace Orderly

variable {keeper : Keeper σ vault key} {session : Session} {site site' : Site σ} {clientId : String}
  {state : σ} {before after : List Task} {operation : Operation} {effect : Effect}
  {next : effect.Reply → Program Unit}

/-- The others stay as they are while a task performs an effect. -/
theorem performed
    (h : Orderly keeper clientId ⟨state, before ++ ⟨operation, .perform effect next⟩ :: after⟩)
    {owes : Bool} (permitted : (vault.recording key clientId).permits owes effect)
    {reply : effect.Reply} {state' : σ} (answered : keeper.handle effect state = (reply, state'))
    (task : (⟨operation, next reply⟩ : Task).Owes vault key clientId ∨
      (next reply).Behaves vault key clientId)
    (owed : keeper.inSlot state' .configuredClientId = none →
      ∃ task ∈ before ++ ⟨operation, next reply⟩ :: after, task.Owes vault key clientId) :
    Orderly keeper clientId ⟨state', before ++ ⟨operation, next reply⟩ :: after⟩ := by
  have sound := keeper.isSound effect h.sound
  rw [answered] at sound
  refine ⟨sound, ?_, fun other mem => ?_, owed⟩
  · obtain ⟨unchanged, -⟩ | marks | ⟨absent, -⟩ :=
      keeper.recording_cases h.sound permitted answered
    · rw [unchanged]
      exact h.recorded
    · exact .inr marks
    · exact .inl absent
  · obtain mem | mem := List.mem_append.1 mem
    · exact h.tasks other (List.mem_append_left _ mem)
    · obtain rfl | mem := List.mem_cons.1 mem
      · exact task
      · exact h.tasks other (List.mem_append_right _ (List.mem_cons_of_mem _ mem))

/-- A task that owes the record performs an effect. -/
theorem perform_of_owes
    (h : Orderly keeper clientId ⟨state, before ++ ⟨operation, .perform effect next⟩ :: after⟩)
    (owes : (⟨operation, .perform effect next⟩ : Task).Owes vault key clientId)
    {reply : effect.Reply} {state' : σ} (answered : keeper.handle effect state = (reply, state')) :
    Orderly keeper clientId ⟨state', before ++ ⟨operation, next reply⟩ :: after⟩ := by
  obtain ⟨wipes, records⟩ := owes
  obtain ⟨permitted, steps⟩ := records.perform
  have granted : (vault.recording key clientId).grants effect reply :=
    keeper.recording_grants h.sound answered
  obtain ⟨-, records⟩ | ⟨paid, behaves⟩ := steps reply granted
  · exact h.performed permitted answered (.inl ⟨wipes, records⟩) fun _ =>
      ⟨_, List.mem_append_right _ List.mem_cons_self, wipes, records⟩
  · refine h.performed permitted answered (.inr behaves) fun absent => ?_
    -- The record has just been stored, so it is there.
    obtain ⟨-, still⟩ | marks | ⟨-, -, still⟩ :=
      keeper.recording_cases h.sound permitted answered
    · exact absurd (still.symm.trans paid) (by decide)
    · exact absurd absent marks.ne_none
    · exact absurd (still.symm.trans paid) (by decide)

/-- A task that does not owe the record performs an effect. -/
theorem perform_of_not_owes
    (h : Orderly keeper clientId ⟨state, before ++ ⟨operation, .perform effect next⟩ :: after⟩)
    (owes : ¬(⟨operation, .perform effect next⟩ : Task).Owes vault key clientId)
    {reply : effect.Reply} {state' : σ} (answered : keeper.handle effect state = (reply, state')) :
    Orderly keeper clientId ⟨state', before ++ ⟨operation, next reply⟩ :: after⟩ := by
  obtain ⟨permitted, steps⟩ :=
    ((h.tasks _ (List.mem_append_right _ List.mem_cons_self)).resolve_left owes).perform
  have granted : (vault.recording key clientId).grants effect reply :=
    keeper.recording_grants h.sound answered
  refine h.performed permitted answered (.inr (steps reply granted)) fun absent => ?_
  obtain ⟨unchanged, -⟩ | marks | ⟨-, owed, -⟩ :=
    keeper.recording_cases h.sound permitted answered
  · -- Whoever owes it still does.
    obtain ⟨other, mem, otherOwes⟩ := h.owed (unchanged.symm.trans absent)
    refine ⟨other, ?_, otherOwes⟩
    obtain mem | mem := List.mem_append.1 mem
    · exact List.mem_append_left _ mem
    · obtain rfl | mem := List.mem_cons.1 mem
      · exact absurd otherOwes owes
      · exact List.mem_append_right _ (List.mem_cons_of_mem _ mem)
  · exact absurd absent marks.ne_none
  · exact absurd owed (by decide)

/-- **A step** keeps the invariant. -/
theorem step (same : session.vault = vault) (h : Orderly keeper session.settings.clientId site)
    (step : Step keeper session site site') :
    Orderly keeper session.settings.clientId site' := by
  subst same
  cases step with
  | start state tasks operation =>
    refine ⟨h.sound, h.recorded, List.forall_mem_cons.2 ⟨?_, h.tasks⟩, fun absent => ?_⟩
    · exact operation.records_or_spares.imp_right Spares.behaves
    · obtain ⟨task, mem, owes⟩ := h.owed absent
      exact ⟨task, List.mem_cons_of_mem _ mem, owes⟩
  | perform state before after operation effect next =>
    by_cases owes : (⟨operation, .perform effect next⟩ : Task).Owes session.vault key
      session.settings.clientId
    · exact h.perform_of_owes owes rfl
    · exact h.perform_of_not_owes owes rfl
  | elsewhere state state' tasks sound same =>
    have slot : keeper.inSlot state' .configuredClientId =
        keeper.inSlot state .configuredClientId := congrFun same _
    exact ⟨sound, slot ▸ h.recorded, h.tasks, fun absent => h.owed (slot ▸ absent)⟩

/-- **A run** keeps the invariant. -/
theorem run (same : session.vault = vault) (h : Orderly keeper session.settings.clientId site)
    (run : Relation.ReflTransGen (Step keeper session) site site') :
    Orderly keeper session.settings.clientId site' := by
  induction run with
  | refl => exact h
  | tail _ step ih => exact ih.step same step

end Orderly

/-! ### Tasks that run alone -/

namespace Step

variable {keeper : Keeper σ vault key} {session : Session}

/-- A task may run to its end without the others. -/
theorem alone (before after : List Task) (operation : Operation) (rest : Program Unit) (state : σ) :
    Relation.ReflTransGen (Step keeper session) ⟨state, before ++ ⟨operation, rest⟩ :: after⟩
      ⟨(rest.run keeper.handle state).2,
        before ++ ⟨operation, .done (rest.run keeper.handle state).1⟩ :: after⟩ := by
  induction rest generalizing state with
  | done result => exact .refl
  | perform effect next ih =>
    exact .head (.perform state before after operation effect next) (ih _ _)

/-- An operation may begin and run to its end. -/
theorem complete (operation : Operation) {result : Except Error Unit} {state last : σ}
    (tasks : List Task)
    (run : (operation.program session).run keeper.handle state = (result, last)) :
    Relation.ReflTransGen (Step keeper session) ⟨state, tasks⟩
      ⟨last, ⟨operation, .done result⟩ :: tasks⟩ := by
  have steps : Relation.ReflTransGen (Step keeper session) _ _ :=
    alone [] tasks operation (operation.program session) state
  rw [run] at steps
  exact .head (.start state tasks operation) steps

end Step

end

/-! ### A world that works but for its ring -/

section

variable {session : Session} {key : Aes256.Key} {place : Place} {world : World} {locked : Bool}
  {values : Table Bytes}

/-- **Reconciling where no client id is recorded** records one, unless the ring is locked. -/
theorem run_reconcile_unrecorded (serves : world.Serves place session.vault key locked values)
    (admitted : ∀ slot, StorageKey.check (session.vault.keyFor slot) = .ok ())
    (empty : values.get? (session.vault.keyFor .configuredClientId) = none) :
    ∃ nonce world', session.reconcile.run (World.answer place) world =
        (if locked then .error .storeLocked else .ok false, world') ∧
      world'.Serves place session.vault key locked
        (if locked then values else
          values.insert (session.vault.keyFor .configuredClientId)
            (session.vault.blob key nonce session.settings.clientId)) := by
  obtain ⟨nonce, world', stored, serves'⟩ :=
    Vault.run_store serves (admitted .configuredClientId) session.settings.clientId
  refine ⟨nonce, world', ?_, serves'⟩
  have read : session.recordedClientId.run (World.answer place) world = (.ok none, world) := by
    rw [Session.recordedClientId, Vault.configuredClientId,
      Program.run_attempt_bind (Vault.run_read_none serves empty)]
    exact Program.run_pure _ _ _
  rw [Session.reconcile, Program.run_bind_ok read]
  cases locked with
  | true => exact Program.run_bind_error stored
  | false => exact (Program.run_bind_ok stored).trans (Program.run_pure _ _ _)

/-- **Starting where no client id is recorded** records one and leaves everything else. -/
theorem run_start_unrecorded {settings : Settings} {device : Device}
    (made : Session.make settings device = .ok session)
    (serves : world.Serves place session.vault key false values)
    (admitted : ∀ slot, StorageKey.check (session.vault.keyFor slot) = .ok ())
    (empty : values.get? (session.vault.keyFor .configuredClientId) = none) :
    ∃ nonce world', (start settings device).run (World.answer place) world =
        (.ok session, world') ∧
      world'.Serves place session.vault key false
        (values.insert (session.vault.keyFor .configuredClientId)
          (session.vault.blob key nonce session.settings.clientId)) := by
  obtain ⟨nonce, world', run, serves'⟩ := run_reconcile_unrecorded serves admitted empty
  refine ⟨nonce, world', ?_, serves'⟩
  have opened : (Program.ofExcept (Session.make settings device)).run (World.answer place) world =
      (.ok session, world) := by
    rw [made, Program.run_ofExcept]
  rw [start, Program.run_bind_ok opened]
  exact (Program.run_bind_ok run).trans (Program.run_pure _ _ _)

/-- **Forgetting everything while the ring is locked** empties every slot and fails to record the
client id. -/
theorem run_destroyAll_locked (serves : world.Serves place session.vault key true values)
    (admitted : ∀ slot, StorageKey.check (session.vault.keyFor slot) = .ok ()) :
    ∃ world' values', (destroyAll session).run (World.answer place) world =
        (.error .storeLocked, world') ∧
      world'.Serves place session.vault key true values' ∧
      ∀ slot, values'.get? (session.vault.keyFor slot) = none := by
  obtain ⟨emptied, values', cleared, serves₁, gone⟩ := Vault.run_clearAll (serves.cacheUser none)
  obtain ⟨_, world', run, serves'⟩ := run_reconcile_unrecorded (serves₁.cacheConnection none)
    admitted (gone .configuredClientId)
  refine ⟨world', values', ?_, serves', gone⟩
  have forgotten : session.destroyAll.run (World.answer place) world = (.ok (), emptied) := by
    rw [Session.destroyAll, Program.dropUser]
    exact (Program.run_bind_ok (Program.run_ask _ _ _)).trans cleared
  rw [destroyAll, Program.run_bind_ok forgotten, Program.dropConnection]
  exact (Program.run_bind_ok (Program.run_ask _ _ _)).trans (Program.run_bind_error run)

/-- **Accepting an access token** stores it. -/
theorem run_setAccessToken (serves : world.Serves place session.vault key false values)
    (admitted : ∀ slot, StorageKey.check (session.vault.keyFor slot) = .ok ())
    (token : AccessToken) :
    ∃ nonce world', (session.setAccessToken token).run (World.answer place) world =
        (.ok (), world') ∧
      world'.Serves place session.vault key false
        (values.insert (session.vault.keyFor .accessToken)
          (session.vault.blob key nonce token)) := by
  obtain ⟨nonce, stored, run, serves'⟩ := Vault.run_store serves (admitted .accessToken) token
  refine ⟨nonce, _, ?_, serves'.cacheUser none⟩
  rw [Session.setAccessToken, Vault.setAccessToken, Program.run_bind_ok run, Program.dropUser]
  exact Program.run_ask _ _ _

/-- **A run that leaves a token without the record.** Everything is forgotten while the ring is
locked, and an access token is accepted when it is unlocked. -/
theorem Step.reaches_unrecorded (serves : world.Serves place session.vault key false values)
    (admitted : ∀ slot, StorageKey.check (session.vault.keyFor slot) = .ok ())
    (token : AccessToken) :
    ∃ site values', Relation.ReflTransGen (Step (World.keeper place session.vault key) session)
        ⟨world, []⟩ site ∧
      site.state.Serves place session.vault key false values' ∧
      values'.get? (session.vault.keyFor .configuredClientId) = none ∧
      values'.get? (session.vault.keyFor .accessToken) ≠ none := by
  have locked := serves.setLocked true
  obtain ⟨emptied, values₁, destroyed, serves₁, gone⟩ := run_destroyAll_locked locked admitted
  have unlocked := serves₁.setLocked false
  obtain ⟨nonce, granted, accepted, serves₂⟩ := run_setAccessToken unlocked admitted token
  refine ⟨⟨granted, [⟨.setAccessToken token, .done (.ok ())⟩,
    ⟨.destroyAll, .done (.error .storeLocked)⟩]⟩, _, ?_, serves₂, ?_, ?_⟩
  · have locks : Step (World.keeper place session.vault key) session ⟨world, []⟩ ⟨_, []⟩ :=
      .elsewhere _ _ _ locked.keeps rfl
    have unlocks : Step (World.keeper place session.vault key) session ⟨emptied, _⟩ ⟨_, _⟩ :=
      .elsewhere _ _ [⟨.destroyAll, .done (.error .storeLocked)⟩] unlocked.keeps rfl
    exact .trans (.head locks (complete .destroyAll _ destroyed))
      (.head unlocks (complete (.setAccessToken token) _ accepted))
  · exact (Table.get?_insert_of_ne _ (Vault.keyFor_ne _ (by decide)) _).trans (gone _)
  · rw [Table.get?_insert_self]
    exact Option.some_ne_none _

end

/-! ### Another client -/

/-- **An engine that is started for another client** records its client id. It removes what was
stored for the earlier client exactly if the record of the client id was still there; else it leaves
everything. The record was there if every operation that forgets everything had ended without an
error. -/
theorem start_after_run {σ : Type} {key : Aes256.Key} (first second : Settings)
    {device device' : Device} (keeper : Keeper σ ⟨first.storagePrefix⟩ key)
    {initial opened last : σ}
    {session other : Session} {site : Site σ} (sound : keeper.IsSound initial)
    (started : (start first device).run keeper.handle initial = (.ok session, opened))
    (run : Relation.ReflTransGen (Step keeper session) ⟨opened, []⟩ site)
    (same : second.storagePrefix = first.storagePrefix) (differs : second.clientId ≠ first.clientId)
    (restarted : (start second device').run keeper.handle site.state = (.ok other, last)) :
    Vault.Marks ⟨first.storagePrefix⟩ key second.clientId
        (keeper.inSlot last .configuredClientId) ∧
      (keeper.IsBare last ↔
        keeper.inSlot site.state .configuredClientId ≠ none ∨ keeper.IsBare site.state) ∧
      (keeper.inSlot site.state .configuredClientId = none → ∀ slot, slot ≠ .configuredClientId →
        keeper.inSlot last slot = keeper.inSlot site.state slot) ∧
      ((∀ task ∈ site.tasks, task.operation.wipes = true → task.rest = .done (.ok ())) →
        keeper.inSlot site.state .configuredClientId ≠ none) := by
  obtain ⟨rfl, -, _, reconciled⟩ := Keeper.run_start_ok started
  have own : (⟨first, device⟩ : Session).vault = ⟨first.storagePrefix⟩ := rfl
  obtain ⟨sound₁, marked, -⟩ := Keeper.run_reconcile_ok own sound reconciled
  -- At the beginning the record is there and nobody owes it.
  have orderly : Orderly keeper first.clientId site :=
    Orderly.run own ⟨sound₁, .inr marked, fun _ mem => absurd mem List.not_mem_nil,
      fun absent => absurd absent marked.ne_none⟩ run
  obtain ⟨rfl, present, _, reconciled⟩ := Keeper.run_start_ok restarted
  obtain ⟨-, recorded, kept, wiped⟩ :=
    Keeper.run_reconcile_ok (congrArg Vault.mk same) orderly.sound reconciled
  refine ⟨recorded, ⟨fun bare => ?_, ?_⟩, kept, fun ended absent => ?_⟩
  · by_cases absent : keeper.inSlot site.state .configuredClientId = none
    · exact .inr fun slot other => (kept absent slot other).symm.trans (bare slot other)
    · exact .inl absent
  · rintro (there | bare)
    · exact wiped _ (orderly.recorded.resolve_left there) differs.symm present
    · by_cases absent : keeper.inSlot site.state .configuredClientId = none
      · exact fun slot other => (kept absent slot other).trans (bare slot other)
      · exact wiped _ (orderly.recorded.resolve_left absent) differs.symm present
  · obtain ⟨task, mem, wipes, owes⟩ := orderly.owed absent
    rw [ended task mem wipes] at owes
    exact Program.Records.not_done_ok owes

/-- The ring is locked while everything is forgotten, and an access token is accepted afterwards:
the other client finds it. -/
theorem start_after_run_locked :
    ∃ (session other : Session) (opened last : World) (site : Site World),
      (start (.make "gw.test" "a") ⟨"device-1", "Pixel"⟩).run (World.answer { seat := 0 })
          { now := 0, ring := KeyRing.withKey {} "gatewarden" (Vector.replicate 32 0) } =
        (.ok session, opened) ∧
      Relation.ReflTransGen
          (Step (World.keeper { seat := 0 } ⟨"gatewarden"⟩ (Vector.replicate 32 0)) session)
          ⟨opened, []⟩ site ∧
      (start (.make "gw.test" "b") ⟨"device-1", "Pixel"⟩).run (World.answer { seat := 0 })
          site.state = (.ok other, last) ∧
      ¬(World.keeper { seat := 0 } ⟨"gatewarden"⟩ (Vector.replicate 32 0)).IsBare last := by
  have admitted : ∀ slot, StorageKey.check ((⟨"gatewarden"⟩ : Vault).keyFor slot) = .ok () :=
    fun slot => by cases slot <;> rfl
  have serves : World.Serves
      { now := 0, ring := KeyRing.withKey {} "gatewarden" (Vector.replicate 32 0) } { seat := 0 }
      ⟨"gatewarden"⟩ (Vector.replicate 32 0) false .empty := ⟨.memory .empty, rfl, rfl, rfl, rfl⟩
  obtain ⟨_, opened, started, serves₁⟩ := run_start_unrecorded
    (show Session.make (.make "gw.test" "a") ⟨"device-1", "Pixel"⟩ = .ok ⟨_, _⟩ from rfl)
    serves admitted rfl
  obtain ⟨site, values, run, serves₂, absent, stale⟩ :=
    Step.reaches_unrecorded serves₁ admitted ⟨"issued-to-a", 4000000000, none⟩
  obtain ⟨_, last, restarted, -⟩ := run_start_unrecorded
    (show Session.make (.make "gw.test" "b") ⟨"device-1", "Pixel"⟩ = .ok ⟨_, _⟩ from rfl)
    serves₂ admitted absent
  obtain ⟨-, bare, -⟩ := start_after_run (.make "gw.test" "a") (.make "gw.test" "b")
    (World.keeper { seat := 0 } ⟨"gatewarden"⟩ (Vector.replicate 32 0)) serves.keeps started run rfl
    (by decide) restarted
  refine ⟨_, _, opened, last, site, started, run, restarted, ?_⟩
  intro wiped
  obtain there | left := bare.1 wiped
  · exact there ((serves₂.inSlot .configuredClientId).trans absent)
  · exact stale ((serves₂.inSlot .accessToken).symm.trans (left .accessToken (by decide)))

end Engine

end GatewaySession
