import GatewaySession.Engine
import GatewaySession.Proofs.Session.Performing
import GatewaySession.Proofs.Session.Unkeyed

/-!
# What is cached for a session

The credential of the user and the connection are cached, not stored. Nothing that is done to what
is stored touches them, whether it succeeds or fails, so they are there until they are dropped. What
happens while a request is under way, or while the user is asked, is another matter: then something
may be cached from outside.

## Main definitions

* `cachedUser`, `cachedConnection` — what is cached
* `Effect.IsStorage`, `Effect.IsForgetful` — effects that touch neither, and that at most drop one
* `Remembers` — surroundings that cache

## Main results

* `Remembers.user_of_performs`, `Remembers.user_of_forgets` — what a program leaves cached
* `Remembers.user_destroyAll`, `Remembers.clearUserTokens_cases` — what becomes of the credential
  when everything is forgotten, and when the user's tokens are removed
* `Rehearsal.World.remembers` — a rehearsed world caches
-/

namespace GatewaySession

open Program (Performs)

variable {σ α : Type}

/-- The credential of the user that is cached. -/
def cachedUser (handle : (effect : Effect) → σ → effect.Reply × σ) (state : σ) :
    Option UserCredential := (handle .user state).1

/-- The connection that is cached. -/
def cachedConnection (handle : (effect : Effect) → σ → effect.Reply × σ) (state : σ) :
    Option Connection := (handle .connection state).1

namespace Effect

/-- Whether an effect is about what is stored, or about its sealing. -/
def IsStorage : Effect → Prop
  | .read _ | .write _ _ | .remove _ | .list _ | .sealingKey _ | .nonce | .hold | .release => True
  | _ => False

/-- Whether an effect is about what is stored, or drops what is cached. -/
def IsForgetful (effect : Effect) : Prop :=
  effect.IsStorage ∨ effect = .cacheUser none ∨ effect = .cacheConnection none

end Effect

/-- Surroundings in which what is cached stays cached until it is dropped, as far as storage is
concerned. -/
structure Remembers (handle : (effect : Effect) → σ → effect.Reply × σ) : Prop where
  /-- What is done to what is stored leaves the user's credential alone. -/
  user {effect : Effect} (state : σ) : effect.IsStorage →
    cachedUser handle (handle effect state).2 = cachedUser handle state
  /-- What is done to what is stored leaves the connection alone. -/
  connection {effect : Effect} (state : σ) : effect.IsStorage →
    cachedConnection handle (handle effect state).2 = cachedConnection handle state
  /-- A credential that is dropped is not cached. -/
  user_dropUser (state : σ) : cachedUser handle (handle (.cacheUser none) state).2 = none
  /-- The connection stays when the credential is dropped. -/
  connection_dropUser (state : σ) :
    cachedConnection handle (handle (.cacheUser none) state).2 = cachedConnection handle state
  /-- A connection that is dropped is not cached. -/
  connection_dropConnection (state : σ) :
    cachedConnection handle (handle (.cacheConnection none) state).2 = none
  /-- The credential stays when the connection is dropped. -/
  user_dropConnection (state : σ) :
    cachedUser handle (handle (.cacheConnection none) state).2 = cachedUser handle state

/-! ### What a program leaves cached -/

namespace Remembers

variable {handle : (effect : Effect) → σ → effect.Reply × σ} (remembers : Remembers handle)
  {program : Program α} {state last : σ} {result : Except Error α}

include remembers

/-- **What is done to what is stored** leaves the user's credential alone. -/
theorem user_of_performs (storage : program.Performs Effect.IsStorage)
    (run : program.run handle state = (result, last)) :
    cachedUser handle last = cachedUser handle state :=
  storage.keeps (cachedUser handle · = cachedUser handle state)
    (fun permitted same => (remembers.user _ permitted).trans same) run rfl

/-- Where no credential is cached, none is afterwards. -/
theorem user_of_forgets (forgets : program.Performs Effect.IsForgetful)
    (run : program.run handle state = (result, last)) (gone : cachedUser handle state = none) :
    cachedUser handle last = none := by
  refine forgets.keeps (cachedUser handle · = none) (fun {effect state} permitted gone => ?_) run
    gone
  obtain storage | rfl | rfl := permitted
  · exact (remembers.user state storage).trans gone
  · exact remembers.user_dropUser state
  · exact (remembers.user_dropConnection state).trans gone

/-- Where no connection is cached, none is afterwards. -/
theorem connection_of_forgets (forgets : program.Performs Effect.IsForgetful)
    (run : program.run handle state = (result, last))
    (gone : cachedConnection handle state = none) : cachedConnection handle last = none := by
  refine forgets.keeps (cachedConnection handle · = none)
    (fun {effect state} permitted gone => ?_) run gone
  obtain storage | rfl | rfl := permitted
  · exact (remembers.connection state storage).trans gone
  · exact (remembers.connection_dropUser state).trans gone
  · exact remembers.connection_dropConnection state

end Remembers

/-! ### Operations on what is stored -/

namespace Vault

variable {vault : Vault} {slot : Slot}

theorem storage_read [Record α] :
    (vault.read slot : Program (Option α)).Performs Effect.IsStorage :=
  performs_read trivial trivial

theorem storage_store [Record α] (value : α) :
    (vault.store slot value).Performs Effect.IsStorage :=
  performs_store trivial trivial trivial trivial (fun _ => trivial) value

theorem storage_clear : (vault.clear slot).Performs Effect.IsStorage :=
  performs_clear trivial trivial trivial

theorem storage_clearAll : vault.clearAll.Performs Effect.IsStorage := by
  have all (names : List String) : (removeKeys names).Performs Effect.IsStorage := by
    induction names with
    | nil => trivial
    | cons name names ih => exact .bind (.about ⟨trivial, fun _ _ => trivial⟩) fun _ => ih
  exact .guarded trivial trivial (.bind (.about ⟨trivial, fun _ _ => trivial⟩) fun _ => all _)

end Vault

namespace Session

variable {session : Session}

theorem forgets_destroyAll : session.destroyAll.Performs Effect.IsForgetful := by
  have dropped : Program.dropUser.Performs Effect.IsForgetful :=
    ⟨.inr (.inl rfl), fun _ _ => trivial⟩
  exact dropped.bind fun _ => Vault.storage_clearAll.mono fun _ => Or.inl

theorem forgets_reconcile : session.reconcile.Performs Effect.IsForgetful := by
  have recorded : session.recordedClientId.Performs Effect.IsForgetful := by
    refine .rescue (Vault.storage_read.mono fun _ => Or.inl) fun result => ?_
    split
    · trivial
    · trivial
    · trivial
  have stored : (session.vault.setConfiguredClientId session.settings.clientId).Performs
      Effect.IsForgetful :=
    (Vault.storage_store _).mono fun _ => Or.inl
  have kept (foreign : Bool) : (session.vault.setConfiguredClientId session.settings.clientId >>=
      fun _ => (pure foreign : Program Bool)).Performs Effect.IsForgetful :=
    stored.bind fun _ => trivial
  refine recorded.bind fun recorded => ?_
  cases recorded with
  | none => exact kept false
  | some clientId =>
    dsimp only
    split
    · exact forgets_destroyAll.bind fun _ => kept _
    · exact kept _

end Session

namespace Engine

variable {session : Session}

theorem forgets_remarking : (do
    Program.dropConnection
    let _ ← session.reconcile : Program Unit).Performs Effect.IsForgetful := by
  have dropped : Program.dropConnection.Performs Effect.IsForgetful :=
    ⟨.inr (.inr rfl), fun _ _ => trivial⟩
  exact dropped.bind fun _ => Session.forgets_reconcile.bind fun _ => trivial

theorem forgets_destroyAll : (destroyAll session).Performs Effect.IsForgetful :=
  Session.forgets_destroyAll.bind fun _ => forgets_remarking

end Engine

/-- Forgetting everything drops the credential of the user first, so it is gone whatever follows. -/
theorem Remembers.user_destroyAll {handle : (effect : Effect) → σ → effect.Reply × σ}
    (remembers : Remembers handle) {session : Session} {state last : σ} {result : Except Error Unit}
    (run : (Engine.destroyAll session).run handle state = (result, last)) :
    cachedUser handle last = none := by
  have rest : (do
      session.vault.clearAll
      Program.dropConnection
      let _ ← session.reconcile : Program Unit).Performs Effect.IsForgetful :=
    (Vault.storage_clearAll.mono fun _ => Or.inl).bind fun _ => Engine.forgets_remarking
  exact remembers.user_of_forgets rest run (remembers.user_dropUser state)

/-! ### The tokens of the user -/

/-- Whether a slot is one of the user's session. -/
def Slot.IsOfUser : Slot → Prop
  | .accessToken | .refreshToken | .idToken => True
  | _ => False

namespace Remembers

variable {handle : (effect : Effect) → σ → effect.Reply × σ} (remembers : Remembers handle)
  {state last : σ} {result : Except Error Unit}

include remembers

/-- Emptying a slot leaves the user's credential alone, and fails only if the removal does. -/
theorem clear_cases {vault : Vault} {slot : Slot}
    (run : (vault.clear slot).run handle state = (result, last)) :
    cachedUser handle last = cachedUser handle state ∧
      (result = .ok () ∨
        ∃ source, result = .error (.storageOperation "delete" (vault.keyFor slot) source)) := by
  refine ⟨remembers.user_of_performs Vault.storage_clear run, ?_⟩
  rw [Vault.clear, Program.run_guarded] at run
  obtain ⟨rfl, -⟩ := Prod.mk.inj run
  obtain ⟨source, -, failed⟩ | ⟨_, -, done⟩ := Vault.run_about_cases (Prod.mk.eta.symm)
  · exact .inr ⟨source, failed⟩
  · exact .inl done

/-- **Removing the user's tokens** drops his credential last. If one of the removals fails it stays.
-/
theorem clearUserTokens_cases {session : Session}
    (run : session.clearUserTokens.run handle state = (result, last)) :
    result = .ok () ∧ cachedUser handle last = none ∨
      (∃ slot source, slot.IsOfUser ∧
        result = .error (.storageOperation "delete" (session.vault.keyFor slot) source)) ∧
        cachedUser handle last = cachedUser handle state := by
  -- One removal: it fails and leaves the credential, or what follows goes on with it.
  have step (slot : Slot) (own : slot.IsOfUser) {rest : Program Unit} {before : σ}
      (same : cachedUser handle before = cachedUser handle state)
      (run : (session.vault.clear slot >>= fun _ => rest).run handle before = (result, last)) :
      ((∃ slot source, slot.IsOfUser ∧
          result = .error (.storageOperation "delete" (session.vault.keyFor slot) source)) ∧
        cachedUser handle last = cachedUser handle state) ∨
      ∃ after, cachedUser handle after = cachedUser handle state ∧
        rest.run handle after = (result, last) := by
    obtain ⟨error, failed, rfl⟩ | ⟨_, after, done, run⟩ := Program.run_bind_cases run
    · obtain ⟨kept, absurd | ⟨source, wrapped⟩⟩ := remembers.clear_cases failed
      · cases absurd
      · exact .inl ⟨⟨slot, source, own, wrapped⟩, kept.trans same⟩
    · exact .inr ⟨after, (remembers.clear_cases done).1.trans same, run⟩
  obtain failed | ⟨first, same, run⟩ := step .accessToken trivial rfl run
  · exact .inr failed
  obtain failed | ⟨second, same, run⟩ := step .refreshToken trivial same run
  · exact .inr failed
  obtain failed | ⟨third, same, run⟩ := step .idToken trivial same run
  · exact .inr failed
  obtain ⟨rfl, rfl⟩ := Prod.mk.inj run
  exact .inl ⟨rfl, remembers.user_dropUser third⟩

end Remembers

/-! ### Rehearsals -/

namespace Rehearsal.World

variable {place : Place} {world : World}

/-- What is done to what is stored changes neither seats nor desks. -/
theorem seats_of_isStorage {effect : Effect} (storage : effect.IsStorage) :
    (answer place effect world).2.seats = world.seats ∧
      (answer place effect world).2.desks = world.desks := by
  have written {n : Nat} {operation : Operation} {name : String}
      {write : Storage → Except Error Storage} :
      (world.writing n operation name write).2.seats = world.seats ∧
        (world.writing n operation name write).2.desks = world.desks := by
    rw [writing]
    split
    · exact ⟨rfl, rfl⟩
    · exact ⟨rfl, rfl⟩
  cases effect with
  | write name value => exact written
  | remove name => exact written
  | sealingKey name =>
    show (world.sealingKey name).2.seats = _ ∧ (world.sealingKey name).2.desks = _
    rw [sealingKey]
    split
    · exact ⟨rfl, rfl⟩
    · exact ⟨rfl, rfl⟩
  | nonce =>
    show world.nonce.2.seats = _ ∧ world.nonce.2.desks = _
    rw [nonce]
    split
    · exact ⟨rfl, rfl⟩
    · exact ⟨rfl, rfl⟩
  | read | list | hold | release => exact ⟨rfl, rfl⟩
  | _ => exact storage.elim

/-- **A rehearsed world** caches. -/
theorem remembers (place : Place) : Remembers (answer place) where
  user state storage := by
    show ((World.seat _ _).user) = (World.seat _ _).user
    rw [seat, seat, (seats_of_isStorage storage).1]
  connection state storage := by
    show (deskAt? _ _).bind _ = (deskAt? _ _).bind _
    rw [deskAt?, deskAt?, (seats_of_isStorage storage).2]
  user_dropUser state := (Session.user_cacheUser state place.seat none).elim id id
  connection_dropUser state := rfl
  connection_dropConnection state := by
    obtain ⟨seat, _ | k⟩ := place
    · rfl
    · show ((state.cacheConnection (some k) none).desks[k]?).bind (·.connection) = none
      rw [cacheConnection, List.getElem?_modify_eq]
      cases state.desks[k]? with
      | none => rfl
      | some desk => rfl
  user_dropConnection state := by
    obtain ⟨seat, _ | k⟩ := place
    · rfl
    · rfl

end Rehearsal.World

end GatewaySession
