import GatewaySession.Proofs.Engine.Ending

/-!
# Forgetting the device

Forgetting the device removes everything under the names of the vault, whatever it is, and then
records the client id anew. Recording may fail like any other write, and reading what is recorded
may fail before it; then nothing is recorded, and the failure is reported. Nothing else can be left
under the names of the vault.

The credential of the user is dropped before anything is removed. So it is gone whatever fails. At
the end of the user's session it is dropped after his tokens, and so only if they can be removed.

## Main definitions

* `Keeper.IsMarked` — the present client id is recorded
* `Keeper.Forgotten` — what is left of a device
* `Keeper.RemovesOnly` — the request that has the device removed, and no other

## Main results

* `Keeper.goes_destroyAll` — everything is forgotten
* `Engine.deregister_forgets_device` — the end of a registration
* `Engine.ending_drops_user` — the credential of the user, at each end
-/

namespace GatewaySession

open Program (Goes)

variable {σ : Type} {session : Session} {key : Aes256.Key} {state last : σ}
  {moments : List (Moment σ)}

namespace Keeper

variable {keeper : Keeper σ session.vault key}

/-! ### Recording the client id anew -/

/-- Where no client id is recorded, none is found unless storage fails. -/
theorem goes_recordedClientId {result : Except Error (Option String)} (sound : keeper.IsSound state)
    (goes : session.recordedClientId.Goes keeper.handle state moments result last)
    (comply : Comply moments) (empty : keeper.inSlot state .configuredClientId = none) :
    keeper.IsSound last ∧ keeper.stored last = keeper.stored state ∧
      (result = .ok none ∨ (∃ error, result = .error error) ∧ ¬Succeed moments) := by
  obtain ⟨caught, between, early, late, rfl, reading, rest⟩ := goes.of_rescue
  have looked : keeper.Tidying (fun _ => False) _ session.vault.configuredClientId :=
    (closed_tidying keeper _).read _ _
  have tidied := reading.leads looked sound (comply_append.1 comply).1
  obtain rfl | ⟨⟨name, source, rfl⟩, failed⟩ := goes_read_empty sound reading empty
  · obtain ⟨-, rfl, rfl⟩ := rest.of_done
    exact ⟨tidied.sound, tidied.unchanged, .inl rfl⟩
  · obtain ⟨-, rfl, rfl⟩ := rest.of_done
    exact ⟨tidied.sound, tidied.unchanged,
      .inr ⟨⟨_, rfl⟩, fun succeed => failed (succeed_append.1 succeed).1⟩⟩

/-- Whether the present client id is recorded. -/
def IsMarked (keeper : Keeper σ session.vault key) (state : σ) : Prop :=
  session.vault.Marks key session.settings.clientId (keeper.inSlot state .configuredClientId)

/-- What recording the present client id leaves, with a result. -/
structure Marking (keeper : Keeper σ session.vault key) (first last : σ) (done : Prop) : Prop where
  /-- The surroundings still keep what is stored. -/
  sound : keeper.IsSound last
  /-- The client id is recorded, or the slot is as it was. -/
  marker : keeper.IsMarked last ∨
    keeper.inSlot last .configuredClientId = keeper.inSlot first .configuredClientId ∧ ¬done
  /-- Everything else is as it was. -/
  others (name : String) : name ≠ session.vault.keyFor .configuredClientId →
    keeper.stored last name = keeper.stored first name

/-- Recording the client id changes no other slot. If it fails the client id may have been recorded
all the same. -/
theorem goes_setConfiguredClientId {result : Except Error Unit} (sound : keeper.IsSound state)
    (goes : (session.vault.setConfiguredClientId session.settings.clientId).Goes keeper.handle state
      moments result last) (comply : Comply moments) :
    keeper.Marking state last (result = .ok ()) ∧ (Succeed moments → result = .ok ()) := by
  obtain ⟨sound', stored, lucky⟩ := goes_store sound goes comply
  refine ⟨⟨sound', ?_, fun name other => ?_⟩, lucky⟩
  · obtain ⟨same, failed⟩ | ⟨nonce, update⟩ := stored
    · exact .inr ⟨congrFun same _, failed⟩
    · refine .inl ⟨nonce, ?_⟩
      rw [inSlot, update, Function.update_self]
  · obtain ⟨same, -⟩ | ⟨nonce, update⟩ := stored
    · exact congrFun same name
    · rw [update, Function.update_of_ne other]

/-- **Reconciling** where no client id is recorded records the present one, and removes nothing. -/
theorem goes_reconcile {result : Except Error Bool} (sound : keeper.IsSound state)
    (goes : session.reconcile.Goes keeper.handle state moments result last)
    (comply : Comply moments) (empty : keeper.inSlot state .configuredClientId = none) :
    keeper.Marking state last (∃ foreign, result = .ok foreign) ∧
      (Succeed moments → ∃ foreign, result = .ok foreign) := by
  unfold Session.reconcile at goes
  obtain ⟨error, failed, rfl⟩ | ⟨recorded, between, early, late, rfl, looked, rest⟩ := goes.of_bind
  · obtain ⟨sound', same, absurd | ⟨-, unlucky⟩⟩ := goes_recordedClientId sound failed comply empty
    · cases absurd
    · refine ⟨⟨sound', .inr ⟨congrFun same _, ?_⟩, fun name _ => congrFun same name⟩, ?_⟩
      · rintro ⟨_, absurd⟩
        cases absurd
      · exact fun succeed => absurd succeed unlucky
  obtain ⟨first, later⟩ := comply_append.1 comply
  obtain ⟨sound', same, found | ⟨⟨_, absurd⟩, -⟩⟩ := goes_recordedClientId sound looked first empty
  swap
  · cases absurd
  cases found
  obtain ⟨error, failed, rfl⟩ | ⟨_, _, early, late, rfl, storing, ended⟩ := rest.of_bind
  · obtain ⟨marking, lucky⟩ := goes_setConfiguredClientId sound' failed later
    refine ⟨⟨marking.sound, marking.marker.imp_right fun kept => ?_, fun name other => ?_⟩, ?_⟩
    · refine ⟨kept.1.trans (congrFun same _), ?_⟩
      rintro ⟨_, absurd⟩
      cases absurd
    · exact (marking.others name other).trans (congrFun same name)
    · intro succeed
      cases lucky (succeed_append.1 succeed).2
  · obtain ⟨marking, -⟩ := goes_setConfiguredClientId sound' storing (comply_append.1 later).1
    obtain ⟨-, rfl, rfl⟩ := ended.of_done
    refine ⟨⟨marking.sound, .inl ?_, fun name other => ?_⟩, fun _ => ⟨false, rfl⟩⟩
    · exact marking.marker.resolve_right fun kept => kept.2 rfl
    · exact (marking.others name other).trans (congrFun same name)

/-! ### Everything goes -/

/-- What is left when a device is forgotten. -/
structure Forgotten (keeper : Keeper σ session.vault key) (first last : σ) : Prop where
  /-- Under the names of the vault there is nothing, but for the client id. -/
  empty (name : String) : session.vault.keyStart.toList.isPrefixOf name.toList = true →
    name ≠ session.vault.keyFor .configuredClientId → keeper.stored last name = none
  /-- If a client id is recorded it is the present one. -/
  marker : keeper.inSlot last .configuredClientId = none ∨ keeper.IsMarked last
  /-- What is stored elsewhere is what it was. -/
  others (name : String) : session.vault.keyStart.toList.isPrefixOf name.toList = false →
    keeper.stored last name = keeper.stored first name
  /-- No credential of the user is cached. -/
  user : cachedUser keeper.handle last = none
  /-- No connection is cached. -/
  connection : cachedConnection keeper.handle last = none

/-- Forgetting everything empties every slot. -/
theorem goes_forget {result : Except Error Unit} (sound : keeper.IsSound state)
    (goes : session.destroyAll.Goes keeper.handle state moments result last)
    (comply : Comply moments) :
    result = .ok () ∧ keeper.IsSound last ∧ ∀ name, keeper.stored last name =
      if session.vault.keyStart.toList.isPrefixOf name.toList then none
      else keeper.stored state name := by
  obtain ⟨late, rfl, rest⟩ := goes.of_perform
  have clearing : session.vault.clearAll.Goes keeper.handle
      (keeper.handle (.cacheUser none) state).2
      late result last := rest
  have kept : keeper.stored (keeper.handle (.cacheUser none) state).2 = keeper.stored state :=
    keeper.leaves (.cacheUser none) sound
  obtain ⟨done, sound', cleared⟩ :=
    goes_clearAll (keeper.isSound (.cacheUser none) sound) clearing (comply_cons.1 comply).2
  rw [kept] at cleared
  exact ⟨done, sound', cleared⟩

/-- **Everything is forgotten**, and the client id is recorded unless reading, writing or the key
store fails. -/
theorem goes_destroyAll (remembers : Remembers keeper.handle) {result : Except Error Unit}
    (sound : keeper.IsSound state)
    (goes : (Engine.destroyAll session).Goes keeper.handle state moments result last)
    (comply : Comply moments) :
    keeper.Forgotten state last ∧ (result = .ok () → keeper.IsMarked last) ∧
      (Succeed moments → result = .ok ()) := by
  obtain ⟨_, failed, -⟩ | ⟨_, wiped, early, late, rfl, wiping, rest⟩ := goes.of_bind
  · cases (goes_forget sound failed comply).1
  obtain ⟨first, later⟩ := comply_append.1 comply
  obtain ⟨-, sound₁, cleared⟩ := goes_forget sound wiping first
  obtain ⟨late, rfl, following⟩ := rest.of_perform
  have sound₂ := keeper.isSound (.cacheConnection none) sound₁
  have kept : keeper.stored (keeper.handle (.cacheConnection none) wiped).2 =
      keeper.stored wiped := keeper.leaves (.cacheConnection none) sound₁
  have following : (session.reconcile >>= fun _ => pure ()).Goes keeper.handle
      (keeper.handle (.cacheConnection none) wiped).2 late result last := following
  rw [← kept] at cleared
  have connection := remembers.connection_dropConnection wiped
  generalize (keeper.handle (.cacheConnection none) wiped).2 = dropped at *
  have empty : keeper.inSlot dropped .configuredClientId = none := by
    rw [inSlot, cleared, if_pos (session.vault.isPrefixOf_keyFor _)]
  obtain ⟨reply, reconciling, ended⟩ := following.of_discard
  obtain ⟨marking, lucky⟩ := goes_reconcile sound₂ reconciling (comply_cons.1 later).2 empty
  refine ⟨⟨fun name begins other => ?_, ?_, fun name apart => ?_, ?_, ?_⟩, fun done => ?_, ?_⟩
  · rw [marking.others name other, cleared, if_pos begins]
  · exact (marking.marker.imp_right fun kept => kept.1.trans empty).symm
  · have other : name ≠ session.vault.keyFor .configuredClientId := by
      rintro rfl
      cases apart.symm.trans (session.vault.isPrefixOf_keyFor .configuredClientId)
    rw [marking.others name other, cleared, if_neg (by rw [apart]; exact Bool.false_ne_true)]
  · exact remembers.user_destroyAll goes.1
  · exact remembers.connection_of_forgets Session.forgets_reconcile reconciling.1 connection
  · refine marking.marker.resolve_right fun kept => kept.2 ?_
    cases reply with
    | error error => cases ended.symm.trans done
    | ok foreign => exact ⟨foreign, rfl⟩
  · intro succeed
    obtain ⟨foreign, rfl⟩ := lucky (succeed_cons.1 (succeed_append.1 succeed).2).2
    exact ended

/-! ### The gateway is told -/

/-- Whether requests are none at all, or the one that has the device removed, where it is
registered. -/
def RemovesOnly (keeper : Keeper σ session.vault key) (state : σ) (requests : List Request) :
    Prop :=
  requests = [] ∨ ∃ identity request, requests = [request] ∧
    keeper.content state .deviceIdentity = some identity ∧ request.method = .delete ∧
    request.url = session.settings.urlFor .deregister

/-- **Having the device removed** sends one request at most, if there is a registration that can be
read, and leaves everything as it was but for one that cannot. -/
theorem goes_removeDevice {slots : Slot → Prop} (device : slots .deviceIdentity)
    {result : Except Error Unit} (sound : keeper.IsSound state)
    (goes : (Engine.removeDevice session).Goes keeper.handle state moments result last)
    (comply : Comply moments) :
    keeper.Tidied slots state last ∧ keeper.RemovesOnly state (requestsAt moments) := by
  unfold Engine.removeDevice Session.isDeviceRegistered at goes
  rw [bind_assoc] at goes
  obtain ⟨_, failed, -⟩ | ⟨found, between, early, late, rfl, looked, rest⟩ := goes.of_bind
  · exact ⟨failed.leads (tidying_deviceIdentity device) sound comply,
      .inl (failed.requestsAt_eq_nil Session.writes_deviceIdentity)⟩
  obtain ⟨first, later⟩ := comply_append.1 comply
  obtain ⟨tidied, readable⟩ := goes_readable device sound looked first
  rw [requestsAt_append, looked.requestsAt_eq_nil Session.writes_deviceIdentity, List.nil_append]
  rw [pure_bind] at rest
  cases found with
  | none =>
    obtain ⟨rfl, -, rfl⟩ := rest.of_done
    exact ⟨tidied, .inl rfl⟩
  | some identity =>
    have sent : (Engine.sendOwn session .removal (session.publicRequest .delete .deregister)).Goes
        keeper.handle between late result last := rest
    refine ⟨tidied.trans (sent.leads (tidying_sendOwn device _ _) tidied.sound later), ?_⟩
    refine (Engine.requests_sendOwn sent).imp_right ?_
    rintro ⟨registration, sent⟩
    refine ⟨identity, _, sent, (readable _ rfl).symm, ?_, ?_⟩
    · cases registration <;> rfl
    · cases registration <;> rfl

end Keeper

/-- Dropping what is cached, and what is done to what is stored, sends nothing. -/
theorem Effect.IsForgetful.sends {effect : Effect} {kind : Purpose → Request → Prop}
    (forgets : effect.IsForgetful) : effect.Sends kind := by
  obtain storage | rfl | rfl := forgets
  · cases effect with
    | send => exact storage.elim
    | _ => trivial
  · trivial
  · trivial

namespace Engine

/-- **Deregistering** forgets the device whatever fails, and sends one request at most. What became
of telling the gateway is reported if nothing fails afterwards, so success means that the client id
is recorded. It is recorded if reading, writing and the key store work. -/
theorem deregister_forgets_device {keeper : Keeper σ session.vault key}
    (remembers : Remembers keeper.handle) (sound : keeper.IsSound state)
    (comply : Comply ((deregister session).trace keeper.handle state)) :
    keeper.Forgotten state ((deregister session).run keeper.handle state).2 ∧
      keeper.RemovesOnly state ((deregister session).requests keeper.handle state) ∧
      (((deregister session).run keeper.handle state).1 = .ok () →
        ((removeDevice session).run keeper.handle state).1 = .ok () ∧
        keeper.IsMarked ((deregister session).run keeper.handle state).2) ∧
      (Succeed ((destroyAll session).trace keeper.handle
          ((removeDevice session).run keeper.handle state).2) →
        ((deregister session).run keeper.handle state).1 =
          ((removeDevice session).run keeper.handle state).1 ∧
        keeper.IsMarked ((deregister session).run keeper.handle state).2) := by
  obtain ⟨told, between, early, late, wiped, split, telling, wiping, reported⟩ :=
    goes_thenAlways (Program.goes_run keeper.handle (deregister session) state)
  rw [split] at comply
  obtain ⟨first, later⟩ := comply_append.1 comply
  obtain ⟨tidied, sent⟩ : keeper.Tidied (· = .deviceIdentity) state between ∧ _ :=
    Keeper.goes_removeDevice rfl sound telling first
  obtain ⟨forgotten, marked, lucky⟩ := Keeper.goes_destroyAll remembers tidied.sound wiping later
  have unsent : (destroyAll session).Performs (Effect.Sends fun _ _ => False) :=
    forgets_destroyAll.mono fun _ => Effect.IsForgetful.sends
  have requests : (deregister session).requests keeper.handle state = requestsAt early := by
    rw [Program.requests, split, requestsAt_append, wiping.requestsAt_eq_nil unsent,
      List.append_nil]
  rw [requests, reported, telling.1, wiping.2]
  refine ⟨{ forgotten with others := fun name apart => ?_ }, sent, fun done => ?_,
    fun succeed => ?_⟩
  · refine (forgotten.others name apart).trans (tidied.stored_eq fun slot _ => ?_)
    rintro rfl
    cases apart.symm.trans (session.vault.isPrefixOf_keyFor slot)
  · cases wiped with
    | error error => cases done
    | ok _ => exact ⟨done, marked rfl⟩
  · have succeeded := lucky succeed
    refine ⟨?_, marked succeeded⟩
    rw [succeeded]
    rfl

open Rehearsal in
/-- With a locked key store there is no telling whether the device is registered, and no recording
of the client id. The device is forgotten all the same. -/
theorem deregister_forgets_device_locked :
    let keeper := World.keeper { seat := 0 } Session.secretless.vault (Vector.replicate 32 0)
    keeper.IsSound lockedWorld ∧
      Comply ((deregister Session.secretless).trace keeper.handle lockedWorld) ∧
      ((deregister Session.secretless).run keeper.handle lockedWorld).1 = .error .storeLocked ∧
      keeper.Forgotten lockedWorld
        ((deregister Session.secretless).run keeper.handle lockedWorld).2 := by
  intro keeper
  have sound : keeper.IsSound lockedWorld := ⟨⟨_, .memory _⟩, rfl⟩
  have comply : Comply ((deregister Session.secretless).trace keeper.handle lockedWorld) := by
    decide
  have forgotten := deregister_forgets_device (World.remembers { seat := 0 }) sound comply
  exact ⟨sound, comply, rfl, forgotten.1⟩

/-! ### The credential of the user -/

section

variable {handle : (effect : Effect) → σ → effect.Reply × σ} (remembers : Remembers handle)

include remembers

/-- **The credential of the user** is dropped when everything is forgotten and when the device is
deregistered, whatever fails. When the user logs out it is dropped if his tokens could be removed;
if not, the failed removal is reported, and the credential is what it was once the gateway had been
told. -/
theorem ending_drops_user (session : Session) (contactServer : Bool) (state : σ) :
    cachedUser handle ((destroyAll session).run handle state).2 = none ∧
      cachedUser handle ((deregister session).run handle state).2 = none ∧
      (cachedUser handle ((logout session contactServer).run handle state).2 = none ∨
        (∃ slot source, slot.IsOfUser ∧ ((logout session contactServer).run handle state).1 =
          .error (.storageOperation "delete" (session.vault.keyFor slot) source)) ∧
        cachedUser handle ((logout session contactServer).run handle state).2 =
          cachedUser handle ((if contactServer then revokeIdToken session else pure ()).run handle
            state).2) := by
  refine ⟨remembers.user_destroyAll rfl, ?_, ?_⟩
  · obtain ⟨_, _, _, _, _, -, -, wiping, -⟩ :=
      goes_thenAlways (Program.goes_run handle (deregister session) state)
    exact remembers.user_destroyAll wiping.1
  · obtain ⟨told, between, early, late, cleared, -, telling, clearing, reported⟩ :=
      goes_thenAlways (Program.goes_run handle (logout session contactServer) state)
    rw [reported, telling.1]
    obtain ⟨error, failed, rfl⟩ | ⟨_, after, cleaned, dropped⟩ := Program.run_bind_cases clearing.1
    · obtain ⟨absurd, -⟩ | ⟨⟨slot, source, own, wrapped⟩, same⟩ :=
        remembers.clearUserTokens_cases failed
      · cases absurd
      · exact .inr ⟨⟨slot, source, own, wrapped⟩, same⟩
    · refine .inl ?_
      obtain ⟨-, gone⟩ | ⟨⟨_, _, -, absurd⟩, -⟩ := remembers.clearUserTokens_cases cleaned
      · rw [← (Prod.mk.inj dropped).2]
        exact (remembers.user_dropConnection after).trans gone
      · cases absurd

end

open Rehearsal in
/-- Where the access token cannot be removed, the user logs out with an error and his credential
stays cached. Deregistering and forgetting everything drop it. -/
theorem ending_drops_user_refused :
    let handle := World.answer { seat := 0 }
    let world : World :=
      { lockedWorld with faults := [⟨.delete, "access_token", .other "refused"⟩] }
    ((logout Session.secretless false).run handle world).1 = .error (.storageOperation "delete"
        "gatewarden.access_token" (.other "refused")) ∧
      cachedUser handle ((logout Session.secretless false).run handle world).2 =
        some (.password "alice" "secret") ∧
      cachedUser handle ((deregister Session.secretless).run handle world).2 = none ∧
      cachedUser handle ((destroyAll Session.secretless).run handle world).2 = none := by
  intro handle world
  obtain ⟨destroyed, deregistered, -⟩ :=
    ending_drops_user (World.remembers { seat := 0 }) Session.secretless false world
  exact ⟨rfl, rfl, deregistered, destroyed⟩

end Engine

end GatewaySession
