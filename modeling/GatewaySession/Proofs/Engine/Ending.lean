import GatewaySession.Proofs.Gateway.Form
import GatewaySession.Proofs.Session.Caching
import GatewaySession.Proofs.Vault.Tidying

/-!
# The end of the user's session

Logging out begins at the gateway and is completed here. Whatever the gateway says, and whatever
fails on the way to it, the tokens of the user go, his credential, and the connection; the failure
is reported afterwards. Everything else stays, but for records that nobody could read and that were
come across on the way.

This takes it for granted that storage removes what it is told to remove.

## Main definitions

* `Session.Revokes`, `Keeper.RevokesOnly` — the request that has an identity token revoked, and no
  other
* `Keeper.LoggedOut` — what the end of a session leaves

## Main results

* `Engine.goes_thenAlways` — what clears runs whatever became of what tells
* `Keeper.goes_revokeIdToken` — the gateway is told at most once
* `Engine.logout_ends_session` — the end of a session
-/

namespace GatewaySession

open Program (Goes)

variable {σ : Type} {session : Session} {key : Aes256.Key}
  {handle : (effect : Effect) → σ → effect.Reply × σ} {state last : σ} {moments : List (Moment σ)}

/-! ### Requests of the engine -/

/-- Sending over the session's connection sends the request or, if there is no connection,
nothing. -/
theorem Session.requests_send {purpose : Purpose} {request : Request}
    {result : Except Error Response}
    (goes : (session.send purpose request).Goes handle state moments result last) :
    requestsAt moments = [] ∨ requestsAt moments = [request] := by
  obtain ⟨_, failed, -⟩ | ⟨connection, _, early, late, rfl, connected, sent⟩ := goes.of_bind
  · exact .inl (failed.requestsAt_eq_nil writes_connection)
  · obtain ⟨rest, rfl, ended⟩ := sent.of_perform
    obtain ⟨rfl, -, -⟩ := ended.of_done
    rw [requestsAt_append, connected.requestsAt_eq_nil writes_connection]
    exact .inr rfl

theorem Session.requests_sendChecked {purpose : Purpose} {request : Request}
    {result : Except Error Response}
    (goes : (session.sendChecked purpose request).Goes handle state moments result last) :
    requestsAt moments = [] ∨ requestsAt moments = [request] := by
  obtain ⟨_, failed, -⟩ | ⟨response, _, early, late, rfl, sent, ended⟩ := goes.of_bind
  · exact requests_send failed
  · obtain ⟨rfl, -, -⟩ := ended.of_done
    rw [List.append_nil]
    exact requests_send sent

namespace Engine

/-- A request of the engine's own is sent with the device headers, or nothing is sent. -/
theorem requests_sendOwn {purpose : Purpose} {request : Request} {result : Except Error Unit}
    (goes : (sendOwn session purpose request).Goes handle state moments result last) :
    requestsAt moments = [] ∨
      ∃ registration, requestsAt moments = [session.headed request registration] := by
  unfold sendOwn at goes
  rw [Session.withDeviceHeaders_eq, bind_assoc] at goes
  obtain ⟨_, failed, -⟩ | ⟨registration, _, early, late, rfl, looked, rest⟩ := goes.of_bind
  · exact .inl (failed.requestsAt_eq_nil Session.writes_deviceIdentity)
  rw [requestsAt_append, looked.requestsAt_eq_nil Session.writes_deviceIdentity, List.nil_append]
  rw [pure_bind] at rest
  obtain ⟨_, sent, -⟩ := rest.of_discard
  exact (Session.requests_sendChecked sent).imp_right fun sent => ⟨registration, sent⟩

/-- What clears runs after what tells, whatever became of that. -/
theorem goes_thenAlways {tell clear : Program Unit} {result : Except Error Unit}
    (goes : (thenAlways tell clear).Goes handle state moments result last) :
    ∃ told between early late cleared, moments = early ++ late ∧
      tell.Goes handle state early told between ∧ clear.Goes handle between late cleared last ∧
      result = (do cleared; told) := by
  obtain ⟨told, between, early, late, rfl, first, rest⟩ := goes.of_rescue
  obtain ⟨error, failed, rfl⟩ | ⟨_, _, late, ended, rfl, done, rest⟩ := rest.of_bind
  · exact ⟨told, between, early, late, .error error, rfl, first, failed, rfl⟩
  · obtain ⟨rfl, rfl, rfl⟩ := rest.of_done
    exact ⟨_, between, early, _, .ok (), rfl, first, by rwa [List.append_nil], rfl⟩

end Engine

/-! ### The gateway is told -/

/-- Whether a slot is consulted when an identity token is revoked. -/
def Slot.IsConsulted (slot : Slot) : Prop :=
  slot = .idToken ∨ slot = .clientCredential ∨ slot = .deviceIdentity

/-- Whether a request has an identity token revoked: its form tells the token and its type. -/
structure Session.Revokes (session : Session) (token : IdToken) (request : Request) : Prop where
  method : request.method = .post
  url : request.url = session.settings.urlFor .logout
  body : ∃ body, request.body = some body ∧ Form.decode body =
    [("logout_apps", "true"), ("id_token", token.value), ("id_token_type", token.type)]

theorem Session.revokes_headed (client : ClientCredential) (token : IdToken)
    (registration : Option DeviceIdentity) :
    session.Revokes token
      (session.headed (Engine.revocation session client token) registration) := by
  have form : (session.headed (Engine.revocation session client token) registration).body =
      (Engine.revocation session client token).body := by
    cases registration <;> rfl
  refine ⟨?_, ?_, _, form, Form.decode_encode _⟩
  · cases registration <;> rfl
  · cases registration <;> rfl

namespace Keeper

variable {keeper : Keeper σ session.vault key} {slots : Slot → Prop}

section

variable (device : slots .deviceIdentity)

include device

theorem tidying_deviceIdentity : keeper.Tidying slots _ session.deviceIdentity :=
  tidying_readable session keeper device

/-- Sending a request of the engine's own may remove an unreadable registration. -/
theorem tidying_sendOwn (purpose : Purpose) (request : Request) :
    keeper.Tidying slots _ (Engine.sendOwn session purpose request) := by
  have closed := closed_tidying keeper slots
  have connection : keeper.Tidying slots _ session.connection :=
    closed.connection (tidying_deviceIdentity device)
  refine closed.bind
    (closed.withDeviceHeaders (tidying_deviceIdentity device) request) fun own => ?_
  refine closed.bind (closed.bind (closed.bind connection fun _ => ?_) fun _ => ?_) fun _ => ?_
  · exact tidying_send keeper slots _ _ _
  · exact closed.ofExcept _
  · exact closed.pure ()

end

theorem tidying_clientCredential (client : slots .clientCredential) :
    keeper.Tidying slots _ session.clientCredential := by
  have closed := closed_tidying keeper slots
  have stored : keeper.Tidying slots _ session.storedClientCredential := by
    refine closed.bind (tidying_readable session keeper client) fun credential => ?_
    cases credential with
    | none => exact closed.pure none
    | some credential => exact closed.bind closed.seconds fun _ => closed.pure _
  exact closed.bind stored fun _ => closed.pure _

/-- An identity token is found only with single sign-on, and if it can be read. -/
theorem goes_idToken (tended : slots .idToken) {result : Except Error (Option IdToken)}
    (sound : keeper.IsSound state)
    (goes : session.idToken.Goes keeper.handle state moments result last)
    (comply : Comply moments) :
    keeper.Tidied slots state last ∧ ∀ token, result = .ok (some token) →
      session.settings.ssoEnabled = true ∧ keeper.content state .idToken = some token := by
  unfold Session.idToken at goes
  split at goes
  next sso =>
    obtain ⟨tidied, found⟩ := goes_readable tended sound goes comply
    exact ⟨tidied, fun token done => ⟨sso, (found _ done).symm⟩⟩
  next =>
    obtain ⟨-, rfl, rfl⟩ := goes.of_done
    exact ⟨.refl sound, nofun⟩

/-- Whether requests are none at all, or the one that has the identity token revoked that is
stored. -/
def RevokesOnly (keeper : Keeper σ session.vault key) (state : σ) (requests : List Request) :
    Prop :=
  requests = [] ∨ ∃ token request, requests = [request] ∧ session.settings.ssoEnabled = true ∧
    keeper.content state .idToken = some token ∧ session.Revokes token request

/-- **Revoking the identity token** sends one request at most, about the token that is stored, and
leaves everything as it was but for unreadable records. -/
theorem goes_revokeIdToken {result : Except Error Unit} (sound : keeper.IsSound state)
    (goes : (Engine.revokeIdToken session).Goes keeper.handle state moments result last)
    (comply : Comply moments) :
    keeper.Tidied Slot.IsConsulted state last ∧
      keeper.RevokesOnly state (requestsAt moments) := by
  unfold Engine.revokeIdToken at goes
  have token : Slot.IsConsulted .idToken := .inl rfl
  have client : Slot.IsConsulted .clientCredential := .inr (.inl rfl)
  have device : Slot.IsConsulted .deviceIdentity := .inr (.inr rfl)
  obtain ⟨_, failed, -⟩ | ⟨found, between, early, late, rfl, looked, rest⟩ := goes.of_bind
  · exact ⟨(goes_idToken token sound failed comply).1,
      .inl (failed.requestsAt_eq_nil Session.writes_idToken)⟩
  obtain ⟨first, later⟩ := comply_append.1 comply
  obtain ⟨tidied, readable⟩ := goes_idToken token sound looked first
  rw [requestsAt_append, looked.requestsAt_eq_nil Session.writes_idToken, List.nil_append]
  cases found with
  | none =>
    obtain ⟨rfl, -, rfl⟩ := rest.of_done
    exact ⟨tidied, .inl rfl⟩
  | some token =>
    obtain ⟨sso, content⟩ := readable token rfl
    have closed := closed_tidying keeper Slot.IsConsulted
    have told : keeper.Tidying Slot.IsConsulted _ (session.clientCredential >>= fun client =>
        Engine.sendOwn session .revocation (Engine.revocation session client token)) :=
      closed.bind (tidying_clientCredential client) fun _ => tidying_sendOwn device _ _
    refine ⟨tidied.trans (rest.leads told tidied.sound later), ?_⟩
    obtain ⟨_, failed, -⟩ | ⟨client, _, early, late, rfl, looked, sent⟩ := rest.of_bind
    · exact .inl (failed.requestsAt_eq_nil Session.writes_clientCredential)
    rw [requestsAt_append, looked.requestsAt_eq_nil Session.writes_clientCredential,
      List.nil_append]
    refine (Engine.requests_sendOwn sent).imp_right ?_
    rintro ⟨registration, sent⟩
    exact ⟨token, _, sent, sso, content, session.revokes_headed client token registration⟩

/-! ### The tokens go -/

/-- **Removing the user's tokens** succeeds, and leaves everything else alone. -/
theorem goes_clearUserTokens {result : Except Error Unit} (sound : keeper.IsSound state)
    (goes : session.clearUserTokens.Goes keeper.handle state moments result last)
    (comply : Comply moments) :
    result = .ok () ∧ keeper.IsSound last ∧
      (∀ slot : Slot, slot.IsOfUser → keeper.inSlot last slot = none) ∧
      ∀ name, (∀ slot : Slot, slot.IsOfUser → name ≠ session.vault.keyFor slot) →
        keeper.stored last name = keeper.stored state name := by
  have stays {before : String → Option Bytes} {name other : String} (gone : before name = none) :
      Function.update before other none name = none := by
    rw [Function.update_apply, gone, ite_self]
  unfold Session.clearUserTokens at goes
  obtain ⟨between₁, _, sound₁, update₁, rest, comply⟩ := goes_clear_bind sound goes comply
  obtain ⟨between₂, _, sound₂, update₂, rest, comply⟩ := goes_clear_bind sound₁ rest comply
  obtain ⟨between₃, _, sound₃, update₃, rest, comply⟩ := goes_clear_bind sound₂ rest comply
  obtain ⟨_, -, ended⟩ := rest.of_perform
  obtain ⟨-, rfl, rfl⟩ := ended.of_done
  have kept : keeper.stored (keeper.handle (.cacheUser none) between₃).2 =
      keeper.stored between₃ := keeper.leaves (.cacheUser none) sound₃
  have stored := kept.trans update₃
  rw [update₂, update₁] at stored
  refine ⟨rfl, keeper.isSound _ sound₃, fun slot own => ?_, fun name other => ?_⟩
  · rw [inSlot, stored]
    cases slot with
    | accessToken => exact stays (stays (Function.update_self _ _ _))
    | refreshToken => exact stays (Function.update_self _ _ _)
    | idToken => exact Function.update_self _ _ _
    | _ => exact own.elim
  · rw [stored, Function.update_of_ne (other .idToken trivial),
      Function.update_of_ne (other .refreshToken trivial),
      Function.update_of_ne (other .accessToken trivial)]

/-- What the end of a user's session leaves. -/
structure LoggedOut (keeper : Keeper σ session.vault key) (first last : σ) : Prop where
  /-- There is no token of the user. -/
  tokens (slot : Slot) : slot.IsOfUser → keeper.inSlot last slot = none
  /-- No credential of the user is cached. -/
  user : cachedUser keeper.handle last = none
  /-- No connection is cached. -/
  connection : cachedConnection keeper.handle last = none
  /-- Client credential and registration are what they were, unless they could not be read. -/
  records (slot : Slot) : slot = .clientCredential ∨ slot = .deviceIdentity →
    keeper.inSlot last slot = keeper.inSlot first slot ∨
      keeper.content first slot = none ∧ keeper.inSlot last slot = none
  /-- What is stored elsewhere, the record of the client id among it, is what it was. -/
  others (name : String) :
    (∀ slot, slot ≠ .configuredClientId → name ≠ session.vault.keyFor slot) →
      keeper.stored last name = keeper.stored first name

/-- Where nothing but unreadable records was touched before, removing the tokens and dropping the
connection ends the session. -/
theorem loggedOut_of_clearing (remembers : Remembers keeper.handle) {first : σ}
    {result : Except Error Unit} (tidied : keeper.Tidied Slot.IsConsulted first state)
    (goes : (session.clearUserTokens >>= fun _ => Program.dropConnection).Goes keeper.handle state
      moments result last) (comply : Comply moments) :
    result = .ok () ∧ keeper.LoggedOut first last := by
  obtain ⟨_, failed, -⟩ | ⟨_, after, early, _, rfl, cleaning, rest⟩ := goes.of_bind
  · cases (goes_clearUserTokens tidied.sound failed comply).1
  obtain ⟨-, sound', tokens, others⟩ :=
    goes_clearUserTokens tidied.sound cleaning (comply_append.1 comply).1
  obtain ⟨_, -, ended⟩ := rest.of_perform
  obtain ⟨-, rfl, rfl⟩ := ended.of_done
  have kept : keeper.stored (keeper.handle (.cacheConnection none) after).2 =
      keeper.stored after := keeper.leaves (.cacheConnection none) sound'
  refine ⟨rfl, fun slot own => ?_, ?_, remembers.connection_dropConnection after, ?_, ?_⟩
  · rw [inSlot, kept]
    exact tokens slot own
  · obtain ⟨-, dropped⟩ | ⟨⟨_, _, -, failed⟩, -⟩ := remembers.clearUserTokens_cases cleaning.1
    · exact (remembers.user_dropConnection after).trans dropped
    · cases failed
  · intro slot own
    have same : keeper.inSlot after slot = keeper.inSlot state slot := by
      refine others _ fun other ofUser => session.vault.keyFor_ne ?_
      rintro rfl
      obtain rfl | rfl := own
      · exact ofUser
      · exact ofUser
    rw [inSlot, kept, ← inSlot, same]
    exact (tidied.inSlot slot).imp_right And.right
  · intro name other
    have ofUser (slot : Slot) (own : slot.IsOfUser) : name ≠ session.vault.keyFor slot := by
      refine other slot ?_
      rintro rfl
      exact own
    have consulted (slot : Slot) (own : slot.IsConsulted) : name ≠ session.vault.keyFor slot := by
      refine other slot ?_
      rintro rfl
      obtain absurd | absurd | absurd := own
      all_goals cases absurd
    rw [kept, others name ofUser]
    exact tidied.stored_eq consulted

end Keeper

namespace Engine

/-- **Logging out** ends the user's session whatever fails, and sends one request at most. What is
reported is what became of telling the gateway. -/
theorem logout_ends_session {keeper : Keeper σ session.vault key}
    (remembers : Remembers keeper.handle) (contactServer : Bool) (sound : keeper.IsSound state)
    (comply : Comply ((logout session contactServer).trace keeper.handle state)) :
    keeper.LoggedOut state ((logout session contactServer).run keeper.handle state).2 ∧
      keeper.RevokesOnly state ((logout session contactServer).requests keeper.handle state) ∧
      (contactServer = false → (logout session contactServer).requests keeper.handle state = []) ∧
      ((logout session contactServer).run keeper.handle state).1 =
        ((if contactServer then revokeIdToken session else pure ()).run keeper.handle state).1 := by
  obtain ⟨told, between, early, late, cleared, split, telling, clearing, reported⟩ :=
    goes_thenAlways (Program.goes_run keeper.handle (logout session contactServer) state)
  rw [split] at comply
  obtain ⟨first, later⟩ := comply_append.1 comply
  have revoked : keeper.Tidied Slot.IsConsulted state between ∧
      keeper.RevokesOnly state (requestsAt early) ∧
      (contactServer = false → requestsAt early = []) := by
    cases contactServer with
    | false =>
      obtain ⟨rfl, -, rfl⟩ := telling.of_done
      exact ⟨.refl sound, .inl rfl, fun _ => rfl⟩
    | true =>
      obtain ⟨tidied, sent⟩ := Keeper.goes_revokeIdToken sound telling first
      exact ⟨tidied, sent, fun absurd => nomatch absurd⟩
  obtain ⟨tidied, sent⟩ := revoked
  obtain ⟨rfl, ended⟩ := Keeper.loggedOut_of_clearing remembers tidied clearing later
  have unsent : (session.clearUserTokens >>= fun _ => Program.dropConnection).Performs
      (Effect.Sends fun _ _ => False) :=
    .bind ((Vault.writes_clear _).bind fun _ => (Vault.writes_clear _).bind fun _ =>
      (Vault.writes_clear _).bind fun _ => closed_writes.dropUser) fun _ =>
      closed_writes.dropConnection
  have requests : (logout session contactServer).requests keeper.handle state =
      requestsAt early := by
    rw [Program.requests, split, requestsAt_append, clearing.requestsAt_eq_nil unsent,
      List.append_nil]
  rw [requests, telling.1]
  exact ⟨ended, sent.1, sent.2, reported⟩

open Rehearsal in
/-- A world whose key store is locked. It has records of a session, the credential of its user, and
something else. -/
def lockedWorld : World where
  now := 0
  ring := { KeyRing.withKey {} "gatewarden" (Vector.replicate 32 0) with isLocked := true }
  storage := .memory { values := .ofList [
    ("gatewarden.access_token", List.replicate 60 0), ("gatewarden.id_token", List.replicate 60 1),
    ("gatewarden.device_identity", List.replicate 60 2),
    ("gatewarden.configured_client_id", List.replicate 60 3), ("elsewhere", [4])] }
  seats := [{ user := some (.password "alice" "secret") }]

open Rehearsal in
/-- With a locked key store the identity token cannot be read, and so not be revoked. The session
ends all the same. -/
theorem logout_ends_session_locked :
    let keeper := World.keeper { seat := 0 } Session.secretless.vault (Vector.replicate 32 0)
    keeper.IsSound lockedWorld ∧
      Comply ((logout Session.secretless true).trace keeper.handle lockedWorld) ∧
      ((logout Session.secretless true).run keeper.handle lockedWorld).1 = .error .storeLocked ∧
      keeper.LoggedOut lockedWorld
        ((logout Session.secretless true).run keeper.handle lockedWorld).2 := by
  intro keeper
  have sound : keeper.IsSound lockedWorld := ⟨⟨_, .memory _⟩, rfl⟩
  have comply : Comply ((logout Session.secretless true).trace keeper.handle lockedWorld) := by
    decide
  have ended := logout_ends_session (World.remembers { seat := 0 }) true sound comply
  exact ⟨sound, comply, rfl, ended.1⟩

end Engine

end GatewaySession
