import GatewaySession.Proofs.Session.Composition
import GatewaySession.Proofs.Session.Performing

/-!
# The requests that a session makes of its own

To prepare a request of a caller, a session may have to ask the gateway for client credentials, for
a registration and for a token. Each of these requests is written out in one place, and gets at most
the device headers besides. So what holds of the requests as they are written, and is not disturbed
by device headers, holds of everything that is sent while a request is prepared. What follows a
failure sends nothing at all.

## Main definitions

* `Effect.Sends`, `Program.Writes` — effects and programs that send requests of a kind only
* `Session.headed` — a request with the device headers
* `Session.Letters` — the kinds that have all the requests a session makes of its own

## Main results

* `Session.Letters.stages`, `Session.Letters.prepare` — preparing a request
* `Session.writes_react` — reacting to a failure
-/

namespace GatewaySession

open Program (Closed Performs)

/-- Whether a request that is sent, if one is, is of a kind. -/
def Effect.Sends (kind : Purpose → Request → Prop) : Effect → Prop
  | .send _ purpose request => kind purpose request
  | _ => True

/-- Whether all requests that a program sends are of a kind. -/
abbrev Program.Writes (kind : Purpose → Request → Prop) (α : Type) (program : Program α) : Prop :=
  program.Performs (Effect.Sends kind)

variable {α β : Type} {kind : Purpose → Request → Prop} {session : Session} {vault : Vault}

/-! ### Programs without requests -/

theorem Effect.sends_of_isPlain {effect : Effect} (plain : effect.IsPlain) : effect.Sends kind := by
  cases effect with
  | send => exact plain.elim
  | _ => trivial

/-- Programs that perform only certain effects may be built of one another, if neutral effects and
caching a connection are among these. -/
theorem Program.closed_performs {permits : Effect → Prop}
    (neutral : ∀ {effect : Effect}, effect.IsNeutral → permits effect)
    (caches : ∀ connection, permits (.cacheConnection (some connection))) :
    Closed fun (α : Type) (program : Program α) => program.Performs permits where
  done _ := trivial
  bind h hf := Performs.bind h hf
  attempt h := Program.Meets.attempt (Program.Meets.mono h fun _ _ _ => trivial)
  perform own h := ⟨neutral own, fun reply _ => h reply⟩
  caches connection := .ask (caches connection)

theorem closed_writes : Closed (Program.Writes kind) :=
  Program.closed_performs (fun neutral => Effect.sends_of_isPlain neutral.isPlain) fun _ => trivial

namespace Vault

theorem writes_remove (name : String) : (Program.remove name).Performs (Effect.Sends kind) :=
  ⟨trivial, fun _ _ => trivial⟩

theorem writes_clear (slot : Slot) : (vault.clear slot).Performs (Effect.Sends kind) :=
  closed_writes.clear (.ask trivial) (.ask trivial) (writes_remove _)

theorem writes_store [Record α] (slot : Slot) (value : α) :
    (vault.store slot value).Performs (Effect.Sends kind) :=
  closed_writes.store (.ask trivial) (.ask trivial) (fun _ => ⟨trivial, fun _ _ => trivial⟩) value

end Vault

namespace Session

theorem writes_deviceIdentity : session.deviceIdentity.Performs (Effect.Sends kind) :=
  closed_writes.deviceIdentity (Vault.writes_clear _)

theorem writes_connection : session.connection.Performs (Effect.Sends kind) :=
  closed_writes.connection writes_deviceIdentity

theorem writes_clientCredential : session.clientCredential.Performs (Effect.Sends kind) :=
  closed_writes.clientCredential (Vault.writes_clear _)

theorem writes_idToken : session.idToken.Performs (Effect.Sends kind) := by
  rw [idToken]
  split
  · exact closed_writes.readable (closed_writes.read _ _) (Vault.writes_clear _)
  · trivial

theorem writes_acceptIssuedIdToken (value : String) (type : Option String) :
    (session.acceptIssuedIdToken value type).Performs (Effect.Sends kind) := by
  have accepted : (session.acceptIdToken value type).Performs (Effect.Sends kind) :=
    closed_writes.acceptIdToken (Vault.writes_clear _) (fun _ => Vault.writes_store _ _) value type
  refine accepted.rescue fun result => ?_
  split
  · trivial
  · trivial

theorem writes_acceptGrant (grant : TokenGrant) :
    (session.acceptGrant grant).Performs (Effect.Sends kind) := by
  have kept (token : AccessToken) : (session.setAccessToken token).Performs (Effect.Sends kind) :=
    (Vault.writes_store _ _).bind fun _ => closed_writes.dropUser
  rw [acceptGrant]
  split
  -- An identity token is accepted first, and the rest is the same.
  case' h_1 => refine (writes_acceptIssuedIdToken _ _).bind fun _ => ?_
  all_goals
    refine .bind (.seconds trivial) fun now => (kept _).bind fun _ => ?_
    split
    · exact (Vault.writes_store _ _).bind fun _ =>
        closed_writes.dropConnection.bind fun _ => trivial
    · exact closed_writes.dropConnection.bind fun _ => trivial

/-- **Reacting to a failure** sends nothing, so it sends nothing but requests of a kind, whatever
the kind is. -/
theorem writes_react (error : Error) : (session.react error).Performs (Effect.Sends kind) := by
  have reacted (refusal : Refusal) : (session.reactTo refusal).Performs (Effect.Sends kind) := by
    cases refusal with
    | invalidAccessToken => exact (Vault.writes_clear _).bind fun _ => trivial
    | accessTokenExpired => exact (Vault.writes_clear _).bind fun _ => trivial
    | clientCertificateExpired =>
      exact (Vault.writes_clear _).bind fun _ => closed_writes.dropConnection.bind fun _ => trivial
    | invalidClientCredential =>
      exact (Vault.writes_clear _).bind fun _ => closed_writes.dropConnection.bind fun _ => trivial
    | invalidResourceOwner =>
      exact .bind ((Vault.writes_clear _).bind fun _ => (Vault.writes_clear _).bind fun _ =>
        (Vault.writes_clear _).bind fun _ => closed_writes.dropUser) fun _ => trivial
    | _ => trivial
  unfold react
  split
  · trivial
  · split
    · trivial
    · exact reacted _
    · trivial

/-! ### Requests of its own -/

/-- A request with the device headers, given the registration. -/
def headed (session : Session) (request : Request) (registration : Option DeviceIdentity) :
    Request :=
  let request := request.setHeader "device-id" session.device.identity
  match registration with
  | some identity => request.setHeader "mag-identifier" identity.magIdentifier
  | none => request

/-- The device headers are looked up and set. -/
theorem withDeviceHeaders_eq (request : Request) :
    session.withDeviceHeaders request =
      session.deviceIdentity >>= fun registration => pure (session.headed request registration) :=
  congrArg (session.deviceIdentity >>= ·) (funext fun registration => by cases registration <;> rfl)

/-- Whether the requests that a session makes of its own in order to prepare another are of a
kind. -/
structure Letters (session : Session) (kind : Purpose → Request → Prop) : Prop where
  /-- The request for client credentials. -/
  provisioning (nonce : String) : kind .provisioning (session.provisionRequest nonce)
  /-- The registration of the device. -/
  registration (client : ClientCredential) (credential : Option UserCredential) :
    kind .registration (session.registrationRequest client credential)
  /-- A request for a token. -/
  grant (presented : Presented) (client : ClientCredential) (params : Form.Params)
    (registration : Option DeviceIdentity) :
    kind (.grant presented) (session.headed (session.grantRequest client params) registration)

/-- A request of a kind is sent. -/
theorem writes_sendChecked {purpose : Purpose} {request : Request} (own : kind purpose request) :
    (session.sendChecked purpose request).Performs (Effect.Sends kind) :=
  .bind (writes_connection.bind fun _ => ⟨own, fun _ _ => trivial⟩) fun _ => trivial

namespace Letters

variable (letters : session.Letters kind)

include letters

theorem ensureClientCredential :
    session.ensureClientCredential.Performs (Effect.Sends kind) := by
  have provisioned : session.provision.Performs (Effect.Sends kind) :=
    .bind (.ask trivial) fun nonce =>
      .bind (writes_sendChecked (letters.provisioning nonce)) fun _ => .bind trivial fun _ =>
        (Vault.writes_store _ _).bind fun _ => trivial
  rw [Session.ensureClientCredential]
  split
  · exact writes_clientCredential
  · refine .bind (closed_writes.storedClientCredential (Vault.writes_clear _)) fun credential => ?_
    cases credential with
    | none => exact provisioned
    | some credential => trivial

theorem ensureRegistered : session.ensureRegistered.Performs (Effect.Sends kind) := by
  have registered (credential : Option UserCredential) :
      (session.register credential).Performs (Effect.Sends kind) := by
    refine letters.ensureClientCredential.bind fun client =>
      .bind (writes_sendChecked (letters.registration client credential)) fun response =>
      .bind trivial fun _ => .bind (.ask trivial) fun _ => (Vault.writes_store _ _).bind fun _ =>
      closed_writes.dropConnection.bind fun _ => ?_
    split
    · exact writes_acceptIssuedIdToken _ _
    · trivial
  refine .bind (writes_deviceIdentity.bind fun _ => trivial) fun present => ?_
  split
  · trivial
  · refine .bind (.ask trivial) fun credential => ?_
    split
    · trivial
    · exact registered credential

theorem askedGrant (client : ClientCredential) (presented : Presented) (params : Form.Params) :
    (session.grant client presented params).Performs (Effect.Sends kind) := by
  rw [Session.grant, withDeviceHeaders_eq, bind_assoc]
  refine writes_deviceIdentity.bind fun registration => ?_
  rw [pure_bind]
  exact .bind (writes_sendChecked (letters.grant presented client params registration)) fun _ =>
    .bind trivial fun grant => writes_acceptGrant grant

theorem tryGrant (client : ClientCredential) (presented : Presented) (params : Form.Params) :
    (session.tryGrant client presented params).Performs (Effect.Sends kind) := by
  refine (letters.askedGrant client presented params).rescue fun result => ?_
  split
  · trivial
  · split
    · trivial
    · trivial

/-- Everything that prepares a request sends nothing else. -/
theorem stages : session.Stages (Program.Writes kind) where
  toFormed := closed_writes.toFormed
  validAccessToken := closed_writes.validAccessToken (Vault.writes_clear _)
  ensureClientCredential := letters.ensureClientCredential
  grantByRefreshToken client := by
    refine .bind (closed_writes.takeRefreshToken (.ask trivial) (.ask trivial)
      (Vault.writes_remove _)) fun token => ?_
    split
    · trivial
    · exact letters.tryGrant _ _ _
  grantByIdToken client := by
    refine writes_idToken.bind fun token => ?_
    split
    · trivial
    · refine (letters.tryGrant _ _ _).bind fun granted => ?_
      split
      · trivial
      · exact (Vault.writes_clear _).bind fun _ => trivial
  grantByUser client := by
    refine .bind (.ask trivial) fun credential => ?_
    split
    · exact letters.askedGrant _ _ _
    · trivial
  clear _ := Vault.writes_clear _
  ensureRegistered := letters.ensureRegistered

/-- **Preparing a request** sends nothing else. -/
theorem prepare (ctx : Context) : (session.prepare ctx).Performs (Effect.Sends kind) :=
  letters.stages.prepare ctx

end Letters

end Session

end GatewaySession
