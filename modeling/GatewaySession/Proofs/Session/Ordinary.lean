import GatewaySession.Engine
import GatewaySession.Proofs.Program.Watch
import GatewaySession.Proofs.Vault.Keys

/-!
# What a session does on its own

Between the requests of a caller a session keeps house: it registers the device, obtains tokens,
stores and drops material. All of this is ordinary in three ways. It neither sends a caller's
request nor asks the user; it leaves the record of the client id alone; and it has no verdict on an
execution, so that an error that is one can only have come from the surroundings.

The last is relative to a set of admitted errors: those that are no verdicts, and whatever key
stores, connections and gateways answer with.

## Main definitions

* `Error.IsVerdict` — the two errors that are verdicts on an execution
* `Vault.ordinary`, `Program.Ordinary` — the watch, and the programs that meet it

## Main results

* `Session.ordinary_prepare`, `Session.ordinary_react`, `Session.ordinary_deliverOtp` — around a
  caller's request
* `Engine.ordinary_revokeIdToken`, `Engine.ordinary_removeDevice` — what the gateway is told
-/

namespace GatewaySession

/-- Whether an error is a verdict on an execution: that it waits, or that it was tried too often. -/
def Error.IsVerdict : Error → Prop
  | .awaitingInput _ => True
  | .tooManyAttempts _ _ => True
  | _ => False

/-- Whether an answer is an error only if the error is admitted, where errors are passed on. -/
def Effect.Admits (admitted : Error → Prop) : (effect : Effect) → effect.Reply → Prop
  | .sealingKey _, reply => ∀ error, reply = .error error → admitted error
  | .connect _, reply => ∀ error, reply = .error error → admitted error
  | .send _ _ _, reply => ∀ error, reply = .error error → admitted error
  | _, _ => True

/-- The effects of ordinary programs. -/
def Vault.Permits (vault : Vault) : Effect → Prop
  | .ask _ _ => False
  | .send _ (.caller _) _ => False
  | .list _ => False
  | .write name _ => name ≠ vault.keyFor .configuredClientId
  | .remove name => name ≠ vault.keyFor .configuredClientId
  | _ => True

/-- The watch of ordinary programs. -/
def Vault.ordinary (vault : Vault) (admitted : Error → Prop) : Watch Unit where
  permits _ := vault.Permits
  grants := Effect.Admits admitted
  next _ _ _ := ()

/-- Whether a program is ordinary, and fails with admitted errors only. -/
def Program.Ordinary {α : Type} (vault : Vault) (admitted : Error → Prop) (program : Program α) :
    Prop :=
  program.Meets (vault.ordinary admitted) (fun _ result => ∀ error, result = .error error →
    admitted error) ()

variable {α β : Type} {vault : Vault} {admitted : Error → Prop}

/-! ### Rules -/

namespace Program.Ordinary

theorem pure (a : α) : Ordinary vault admitted (Pure.pure a) := fun _ h => nomatch h

theorem ofExcept {result : Except Error α} (h : ∀ error, result = .error error → admitted error) :
    Ordinary vault admitted (Program.ofExcept result) := h

theorem fail {error : Error} (h : admitted error) :
    Ordinary vault admitted (Program.fail error : Program α) :=
  ofExcept fun _ eq => Except.error.inj eq ▸ h

theorem bind {program : Program α} {f : α → Program β} (h : Ordinary vault admitted program)
    (hf : ∀ a, Ordinary vault admitted (f a)) : Ordinary vault admitted (program >>= f) := by
  refine Meets.bind (h.mono fun _ result failed => ?_)
  cases result with
  | ok a => exact hf a
  | error error => exact fun _ eq => Except.error.inj eq ▸ failed error rfl

/-- A program after one whose errors are caught, which were admitted. -/
theorem rescue {program : Program α} {f : Except Error α → Program β}
    (h : Ordinary vault admitted program)
    (hf : ∀ result : Except Error α, (∀ error, result = .error error → admitted error) →
      Ordinary vault admitted (f result)) :
    Ordinary vault admitted (program.attempt >>= f) :=
  Meets.rescue (h.mono fun _ result failed => hf result failed)

theorem ask (effect : Effect) (permitted : vault.Permits effect) :
    Ordinary vault admitted (Program.ask effect) :=
  ⟨permitted, fun _ _ _ h => nomatch h⟩

theorem guarded {program : Program α} (h : Ordinary vault admitted program) :
    Ordinary vault admitted program.guarded :=
  (ask .hold trivial).bind fun _ => h.rescue fun _ failed =>
    (ask .release trivial).bind fun _ => ofExcept failed

theorem dropUser : Ordinary vault admitted Program.dropUser := ask (.cacheUser none) trivial

theorem dropConnection : Ordinary vault admitted Program.dropConnection :=
  ask (.cacheConnection none) trivial

theorem seconds : Ordinary vault admitted Program.seconds :=
  (ask .time trivial).bind fun _ => pure _

/-- An ordinary program whose errors are caught. -/
theorem attempt {program : Program α} (h : Ordinary vault admitted program) :
    Ordinary vault admitted program.attempt :=
  Meets.attempt (h.mono fun _ _ _ _ eq => nomatch eq)

/-- Errors of storage are wrapped, and so no verdicts. -/
theorem about (total : ∀ error : Error, ¬error.IsVerdict → admitted error) {program : Program α}
    (operation key : String) (h : program.Meets (vault.ordinary admitted) (fun _ _ => True) ()) :
    Ordinary vault admitted (Vault.about operation key program) := by
  refine Meets.rescue (h.mono fun _ result _ => ?_)
  cases result with
  | ok a => exact pure a
  | error error => exact fail (total _ id)

end Program.Ordinary

open Program (Ordinary)

section

variable (total : ∀ error : Error, ¬error.IsVerdict → admitted error)

include total

/-! ### The vault -/

namespace Vault

theorem ordinary_unsealed (blob : Bytes) : Ordinary vault admitted (vault.unsealed blob) := by
  refine .bind (.ofExcept fun error h => total _ fun verdict => ?_) fun _ =>
    .bind ⟨trivial, fun _ granted => granted⟩ fun key =>
      .ofExcept fun error h => total _ fun verdict => ?_
  · rw [Envelope.checkLength] at h
    split at h
    · cases h
      exact verdict
    · cases h
  · rw [Envelope.unwrapWith] at h
    repeat' split at h
    all_goals cases h
    all_goals exact verdict

theorem ordinary_read [Record α] (slot : Slot) :
    Ordinary vault admitted (vault.read slot : Program (Option α)) := by
  refine .bind (.about total _ _ ⟨trivial, fun _ _ => trivial⟩) fun blob => ?_
  cases blob with
  | none => exact .pure none
  | some blob =>
    refine .bind (ordinary_unsealed total blob) fun plaintext =>
      .bind (.ofExcept fun error h => total _ fun verdict => ?_) fun _ => .pure _
    rw [recordOf] at h
    split at h
    · cases h
    · cases h
      exact verdict

theorem ordinary_store [Record α] {slot : Slot} (other : slot ≠ .configuredClientId) (value : α) :
    Ordinary vault admitted (vault.store slot value) := by
  refine .guarded (.bind (.bind ⟨trivial, fun _ granted => granted⟩ fun _ =>
    .bind (.ask .nonce trivial) fun _ => .pure _) fun blob =>
      .about total _ _ ⟨keyFor_ne vault other, fun _ _ => trivial⟩)

theorem ordinary_remove {slot : Slot} (other : slot ≠ .configuredClientId) :
    Ordinary vault admitted (vault.remove slot) :=
  .about total _ _ ⟨keyFor_ne vault other, fun _ _ => trivial⟩

theorem ordinary_clear {slot : Slot} (other : slot ≠ .configuredClientId) :
    Ordinary vault admitted (vault.clear slot) :=
  .guarded (ordinary_remove total other)

theorem ordinary_takeRefreshToken : Ordinary vault admitted vault.takeRefreshToken := by
  refine .guarded (.rescue (ordinary_read total _) fun result failed => ?_)
  have removed : Ordinary vault admitted (vault.remove .refreshToken) :=
    ordinary_remove total (by decide)
  split
  · exact .pure none
  · exact removed.bind fun _ => .pure _
  · exact removed.bind fun _ => .fail (failed _ rfl)
  · exact .fail (failed _ rfl)

end Vault

/-! ### Sessions -/

namespace Session

variable {session : Session}

theorem ordinary_readable {slot : Slot} (other : slot ≠ .configuredClientId)
    {program : Program (Option α)} (h : Ordinary session.vault admitted program) :
    Ordinary session.vault admitted (session.readable slot program) := by
  refine .rescue h fun result failed => ?_
  split
  · exact (Vault.ordinary_clear total other).attempt.bind fun _ => .pure none
  · exact .ofExcept failed

theorem ordinary_accessToken : Ordinary session.vault admitted session.accessToken :=
  ordinary_readable total (by decide) (Vault.ordinary_read total _)

theorem ordinary_validAccessToken : Ordinary session.vault admitted session.validAccessToken := by
  refine .bind (ordinary_accessToken total) fun token => ?_
  cases token with
  | none => exact .pure none
  | some token =>
    exact .bind .seconds fun _ => .pure _

theorem ordinary_isAccessTokenExpired :
    Ordinary session.vault admitted session.isAccessTokenExpired :=
  .bind (ordinary_validAccessToken total) fun _ => .pure _

theorem ordinary_setAccessToken (token : AccessToken) :
    Ordinary session.vault admitted (session.setAccessToken token) :=
  .bind (Vault.ordinary_store total (by decide) token) fun _ => .dropUser

theorem ordinary_clearAccessToken : Ordinary session.vault admitted session.clearAccessToken :=
  Vault.ordinary_clear total (by decide)

theorem ordinary_hasRefreshToken : Ordinary session.vault admitted session.hasRefreshToken :=
  .bind (ordinary_readable total (by decide) (Vault.ordinary_read total _)) fun _ => .pure _

theorem ordinary_takeRefreshToken : Ordinary session.vault admitted session.takeRefreshToken := by
  refine .rescue (Vault.ordinary_takeRefreshToken total) fun result failed => ?_
  split
  · exact .pure none
  · exact .ofExcept failed

theorem ordinary_setRefreshToken (token : String) :
    Ordinary session.vault admitted (session.setRefreshToken token) :=
  Vault.ordinary_store total (by decide) token

theorem ordinary_storedClientCredential :
    Ordinary session.vault admitted session.storedClientCredential := by
  refine .bind (ordinary_readable total (by decide) (Vault.ordinary_read total _))
    fun credential => ?_
  cases credential with
  | none => exact .pure none
  | some credential => exact .bind .seconds fun _ => .pure _

theorem ordinary_clientCredential : Ordinary session.vault admitted session.clientCredential :=
  .bind (ordinary_storedClientCredential total) fun _ => .pure _

theorem ordinary_setClientCredential (credential : ClientCredential) :
    Ordinary session.vault admitted (session.setClientCredential credential) :=
  Vault.ordinary_store total (by decide) credential

theorem ordinary_clearClientCredential :
    Ordinary session.vault admitted session.clearClientCredential :=
  Vault.ordinary_clear total (by decide)

theorem ordinary_idToken : Ordinary session.vault admitted session.idToken := by
  rw [idToken]
  split
  · exact ordinary_readable total (by decide) (Vault.ordinary_read total _)
  · exact .pure none

theorem ordinary_acceptIdToken (value : String) (type : Option String) :
    Ordinary session.vault admitted (session.acceptIdToken value type) := by
  rw [acceptIdToken]
  split
  · refine .bind (ordinary_clientCredential total) fun client =>
      .bind .seconds fun now => ?_
    split
    · exact .fail (total _ id)
    · exact .bind (Vault.ordinary_store total (by decide) _) fun _ => .dropUser
  · exact .pure ()

theorem ordinary_clearIdToken : Ordinary session.vault admitted session.clearIdToken :=
  Vault.ordinary_clear total (by decide)

theorem ordinary_deviceIdentity : Ordinary session.vault admitted session.deviceIdentity :=
  ordinary_readable total (by decide) (Vault.ordinary_read total _)

theorem ordinary_setDeviceIdentity (identity : DeviceIdentity) :
    Ordinary session.vault admitted (session.setDeviceIdentity identity) :=
  Vault.ordinary_store total (by decide) identity

theorem ordinary_clearDeviceIdentity :
    Ordinary session.vault admitted session.clearDeviceIdentity :=
  Vault.ordinary_clear total (by decide)

theorem ordinary_isDeviceRegistered :
    Ordinary session.vault admitted session.isDeviceRegistered :=
  .bind (ordinary_deviceIdentity total) fun _ => .pure _

theorem ordinary_isLoggedIn : Ordinary session.vault admitted session.isLoggedIn := by
  refine .bind (ordinary_idToken total) fun token => ?_
  split
  · exact .pure true
  · refine .bind (ordinary_hasRefreshToken total) fun present => ?_
    split
    · exact .pure true
    · exact .bind (ordinary_validAccessToken total) fun _ => .pure _

theorem ordinary_clearUserTokens : Ordinary session.vault admitted session.clearUserTokens :=
  .bind (ordinary_clearAccessToken total) fun _ =>
    .bind (Vault.ordinary_clear total (by decide)) fun _ =>
      .bind (ordinary_clearIdToken total) fun _ => .dropUser

/-! ### Sending -/

theorem ordinary_connection : Ordinary session.vault admitted session.connection := by
  refine .bind (.ask .connection trivial) fun cached => ?_
  split
  · exact .pure _
  · exact .bind (ordinary_deviceIdentity total) fun registration =>
      .bind ⟨trivial, fun _ granted => granted⟩ fun _ =>
        .bind (.ask (.cacheConnection (some ⟨registration⟩)) trivial) fun _ => .pure _

theorem ordinary_send {purpose : Purpose} (own : ∀ id, purpose ≠ .caller id) (request : Request) :
    Ordinary session.vault admitted (session.send purpose request) := by
  refine .bind (ordinary_connection total) fun connection => ⟨?_, fun _ granted => granted⟩
  cases purpose with
  | caller id => exact absurd rfl (own id)
  | _ => trivial

theorem ordinary_sendChecked {purpose : Purpose} (own : ∀ id, purpose ≠ .caller id)
    (request : Request) :
    Ordinary session.vault admitted (session.sendChecked purpose request) := by
  refine .bind (ordinary_send total own request) fun response =>
    .ofExcept fun error h => total _ fun verdict => ?_
  rw [Response.checked] at h
  split at h
  · cases h
  · cases h
    exact verdict

theorem ordinary_withDeviceHeaders (request : Request) :
    Ordinary session.vault admitted (session.withDeviceHeaders request) := by
  refine .bind (ordinary_deviceIdentity total) fun identity => ?_
  cases identity with
  | none => exact .pure _
  | some identity => exact .pure _

theorem ordinary_acceptIssuedIdToken (value : String) (type : Option String) :
    Ordinary session.vault admitted (session.acceptIssuedIdToken value type) := by
  refine .rescue (ordinary_acceptIdToken total value type) fun result failed => ?_
  split
  · exact .pure ()
  · exact .ofExcept failed

/-- Having a passcode sent is ordinary. -/
theorem ordinary_deliverOtp (channel : String) :
    Ordinary session.vault admitted (session.deliverOtp channel) :=
  .bind (ordinary_withDeviceHeaders total _) fun _ =>
    .bind (ordinary_sendChecked total (by nofun) _) fun _ => .pure _

/-! ### Client credentials and registration -/

theorem ordinary_provision : Ordinary session.vault admitted session.provision := by
  refine .bind (.ask .identifier trivial) fun nonce =>
    .bind (ordinary_sendChecked total (by nofun) _) fun response =>
      .bind (.ofExcept fun error h => total _ fun verdict => ?_) fun grant =>
        .bind (ordinary_setClientCredential total _) fun _ => .pure _
  rw [ClientGrant.ofBody] at h
  split at h
  · cases h
  · cases h
    exact verdict

theorem ordinary_ensureClientCredential :
    Ordinary session.vault admitted session.ensureClientCredential := by
  rw [ensureClientCredential]
  split
  · exact ordinary_clientCredential total
  · refine .bind (ordinary_storedClientCredential total) fun credential => ?_
    cases credential with
    | none => exact ordinary_provision total
    | some credential => exact .pure credential

theorem ordinary_register (credential : Option UserCredential) :
    Ordinary session.vault admitted (session.register credential) := by
  refine .bind (ordinary_ensureClientCredential total) fun client =>
    .bind (ordinary_sendChecked total (by nofun) _) fun response =>
      .bind (.ofExcept fun error h => total _ fun verdict => ?_) fun identifier =>
        .bind (.ask .time trivial) fun now =>
          .bind (ordinary_setDeviceIdentity total _) fun _ =>
            .bind .dropConnection fun _ => ?_
  · rw [assignedIdentifier] at h
    split at h
    · cases h
    · cases h
      exact verdict
  · split
    · exact ordinary_acceptIssuedIdToken total _ _
    · exact .pure ()

theorem ordinary_ensureRegistered :
    Ordinary session.vault admitted session.ensureRegistered := by
  refine .bind (ordinary_isDeviceRegistered total) fun registered => ?_
  split
  · exact .pure ()
  · refine .bind (.ask .user trivial) fun credential => ?_
    split
    · exact .fail (total _ id)
    · exact ordinary_register total credential

/-! ### Access tokens -/

theorem ordinary_acceptGrant (grant : TokenGrant) :
    Ordinary session.vault admitted (session.acceptGrant grant) := by
  rw [acceptGrant]
  split
  -- An identity token is accepted first, and the rest is the same.
  case' h_1 => refine .bind (ordinary_acceptIssuedIdToken total _ _) fun _ => ?_
  all_goals
    refine .bind .seconds fun now => .bind (ordinary_setAccessToken total _) fun _ => ?_
    split
    · exact .bind (ordinary_setRefreshToken total _) fun _ =>
        .bind .dropConnection fun _ => .pure _
    · exact .bind .dropConnection fun _ => .pure _

theorem ordinary_grant (client : ClientCredential) (presented : Presented) (params : Form.Params) :
    Ordinary session.vault admitted (session.grant client presented params) := by
  refine .bind (ordinary_withDeviceHeaders total _) fun request =>
    .bind (ordinary_sendChecked total (by nofun) _) fun response =>
      .bind (.ofExcept fun error h => total _ fun verdict => ?_) fun grant =>
        ordinary_acceptGrant total grant
  rw [TokenGrant.ofBody] at h
  split at h
  · cases h
  · cases h
    exact verdict

theorem ordinary_tryGrant (client : ClientCredential) (presented : Presented)
    (params : Form.Params) :
    Ordinary session.vault admitted (session.tryGrant client presented params) := by
  refine .rescue (ordinary_grant total client presented params) fun result failed => ?_
  split
  · exact .pure _
  · split
    · exact .pure none
    · exact .fail (failed _ rfl)

theorem ordinary_grantByRefreshToken (client : ClientCredential) :
    Ordinary session.vault admitted (session.grantByRefreshToken client) := by
  refine .bind (ordinary_takeRefreshToken total) fun token => ?_
  split
  · exact .pure none
  · exact ordinary_tryGrant total _ _ _

theorem ordinary_grantByIdToken (client : ClientCredential) :
    Ordinary session.vault admitted (session.grantByIdToken client) := by
  refine .bind (ordinary_idToken total) fun token => ?_
  split
  · exact .pure none
  · refine .bind (ordinary_tryGrant total _ _ _) fun granted => ?_
    split
    · exact .pure _
    · exact .bind (ordinary_clearIdToken total) fun _ => .pure none

theorem ordinary_grantByUser (client : ClientCredential) :
    Ordinary session.vault admitted (session.grantByUser client) := by
  refine .bind (.ask .user trivial) fun credential => ?_
  split
  · exact ordinary_grant total _ _ _
  · exact .fail (total _ id)

theorem ordinary_ensureAccessToken :
    Ordinary session.vault admitted session.ensureAccessToken := by
  refine .bind (ordinary_validAccessToken total) fun token => ?_
  split
  · exact .pure _
  refine .bind (ordinary_ensureClientCredential total) fun client =>
    .bind (ordinary_grantByRefreshToken total client) fun token => ?_
  split
  · exact .pure _
  refine .bind (ordinary_grantByIdToken total client) fun token => ?_
  split
  · exact .pure _
  · exact ordinary_grantByUser total client

/-! ### Around a caller's request -/

/-- Preparing a request is ordinary. -/
theorem ordinary_prepare (ctx : Context) :
    Ordinary session.vault admitted (session.prepare ctx) := by
  refine .bind (ordinary_ensureRegistered total) fun _ =>
    .bind (ordinary_ensureClientCredential total) fun _ => .bind ?_ fun token =>
      .bind (ordinary_withDeviceHeaders total _) fun _ => .pure _
  rw [tokenFor]
  split
  · exact .pure none
  · exact .bind (ordinary_ensureAccessToken total) fun _ => .pure _

theorem ordinary_reactTo (refusal : Refusal) :
    Ordinary session.vault admitted (session.reactTo refusal) := by
  cases refusal with
  | invalidAccessToken => exact .bind (ordinary_clearAccessToken total) fun _ => .pure _
  | accessTokenExpired => exact .bind (ordinary_clearAccessToken total) fun _ => .pure _
  | clientCertificateExpired =>
    exact .bind (ordinary_clearDeviceIdentity total) fun _ =>
      .bind .dropConnection fun _ => .pure _
  | invalidResourceOwner => exact .bind (ordinary_clearUserTokens total) fun _ => .pure _
  | invalidClientCredential =>
    exact .bind (ordinary_clearClientCredential total) fun _ =>
      .bind .dropConnection fun _ => .pure _
  | otpRequired => exact .pure _
  | invalidOtp => exact .pure _
  | otpExpired => exact .pure _
  | unknown => exact .pure _

/-- What follows an error is ordinary. -/
theorem ordinary_react (error : Error) :
    Ordinary session.vault admitted (session.react error) := by
  unfold react
  split
  · exact .pure _
  · split
    · exact .pure _
    · exact ordinary_reactTo total _
    · exact .pure _

end Session

/-! ### Engines -/

namespace Engine

variable {session : Session}

theorem ordinary_sendOwn {purpose : Purpose} (own : ∀ id, purpose ≠ .caller id)
    (request : Request) : Ordinary session.vault admitted (sendOwn session purpose request) :=
  .bind (Session.ordinary_withDeviceHeaders total _) fun _ =>
    .bind (Session.ordinary_sendChecked total own _) fun _ => .pure _

/-- Having an identity token revoked is ordinary. -/
theorem ordinary_revokeIdToken : Ordinary session.vault admitted (revokeIdToken session) := by
  refine .bind (Session.ordinary_idToken total) fun token => ?_
  split
  · exact .pure ()
  · exact .bind (Session.ordinary_clientCredential total) fun _ =>
      ordinary_sendOwn total (by nofun) _

/-- Having the device removed is ordinary. -/
theorem ordinary_removeDevice : Ordinary session.vault admitted (removeDevice session) := by
  refine .bind (Session.ordinary_isDeviceRegistered total) fun registered => ?_
  split
  · exact ordinary_sendOwn total (by nofun) _
  · exact .pure ()

end Engine

end

end GatewaySession
