import GatewaySession.Exchange.Execution
import GatewaySession.Proofs.Program.Parallel
import GatewaySession.Proofs.Session.Performing

/-!
# What a session does without the user

Most of what a session does has nothing to do with the user: it neither asks him nor reads the
credential that is cached for him, and caches none. The exceptions are few, so they are left to
whoever says something about them: where a grant is made for the user's credential, where the
registration of a device looks for one, and where the user is asked.

Without the user a program does the same whatever his secrets are.

## Main definitions

* `Program.Impersonal` — programs that go without the user

## Main results

* `Program.Impersonal.parallel` — what they do does not depend on secrets
* `Session.impersonal_ensureClientCredential`, `Session.impersonal_acceptGrant`,
  `Session.impersonal_grantByRefreshToken`, `Session.impersonal_grantByIdToken`,
  `Session.impersonal_react` — the parts of an attempt
-/

namespace GatewaySession

/-- Whether a program goes without the user. -/
abbrev Program.Impersonal {α : Type} (program : Program α) : Prop :=
  program.Performs Effect.IsImpersonal

namespace Program.Impersonal

variable {α : Type}

/-- **Whatever the secrets are**, a program that goes without the user is parallel to itself. -/
theorem parallel {confides : Purpose → Request → Prop} {program : Program α}
    (h : program.Impersonal) : Parallel confides Eq program program := by
  induction program with
  | done result => exact .done (.refl result)
  | perform effect next ih => exact .own h.1 fun reply => ih reply (h.2 reply trivial)

end Program.Impersonal

open Program (Impersonal)

variable {α : Type}

/-! ### Vaults -/

namespace Vault

variable (vault : Vault)

theorem impersonal_read [Record α] (slot : Slot) :
    (vault.read slot : Program (Option α)).Impersonal :=
  performs_read trivial trivial

theorem impersonal_store [Record α] (slot : Slot) (value : α) :
    (vault.store slot value).Impersonal :=
  performs_store trivial trivial trivial trivial (fun _ => trivial) value

theorem impersonal_clear (slot : Slot) : (vault.clear slot).Impersonal :=
  performs_clear trivial trivial trivial

theorem impersonal_takeRefreshToken : vault.takeRefreshToken.Impersonal :=
  performs_takeRefreshToken trivial trivial trivial trivial trivial

end Vault

namespace Session

variable (session : Session)

/-! ### Records -/

theorem impersonal_readable (slot : Slot) {program : Program (Option α)}
    (h : program.Impersonal) : (session.readable slot program).Impersonal := by
  refine .rescue h fun result => ?_
  split
  · exact .rescue (session.vault.impersonal_clear slot) fun _ => trivial
  · trivial

theorem impersonal_validAccessToken : session.validAccessToken.Impersonal := by
  refine .bind (session.impersonal_readable _ (session.vault.impersonal_read _)) fun token => ?_
  cases token with
  | none => trivial
  | some token => exact .bind (.seconds trivial) fun _ => trivial

theorem impersonal_takeRefreshToken : session.takeRefreshToken.Impersonal := by
  refine .rescue session.vault.impersonal_takeRefreshToken fun result => ?_
  split
  · trivial
  · trivial

theorem impersonal_storedClientCredential : session.storedClientCredential.Impersonal := by
  refine .bind (session.impersonal_readable _ (session.vault.impersonal_read _))
    fun credential => ?_
  cases credential with
  | none => trivial
  | some credential => exact .bind (.seconds trivial) fun _ => trivial

theorem impersonal_clientCredential : session.clientCredential.Impersonal :=
  .bind session.impersonal_storedClientCredential fun _ => trivial

theorem impersonal_idToken : session.idToken.Impersonal := by
  rw [idToken]
  split
  · exact session.impersonal_readable _ (session.vault.impersonal_read _)
  · trivial

theorem impersonal_dropUser : Program.dropUser.Impersonal := .ask trivial

theorem impersonal_dropConnection : Program.dropConnection.Impersonal := .ask trivial

theorem impersonal_acceptIdToken (value : String) (type : Option String) :
    (session.acceptIdToken value type).Impersonal := by
  rw [acceptIdToken]
  split
  · refine .bind session.impersonal_clientCredential fun client =>
      .bind (.seconds trivial) fun now => ?_
    split
    · trivial
    · exact .bind (session.vault.impersonal_store _ _) fun _ => impersonal_dropUser
  · trivial

theorem impersonal_acceptIssuedIdToken (value : String) (type : Option String) :
    (session.acceptIssuedIdToken value type).Impersonal := by
  refine .rescue (session.impersonal_acceptIdToken value type) fun result => ?_
  split
  · trivial
  · trivial

theorem impersonal_deviceIdentity : session.deviceIdentity.Impersonal :=
  session.impersonal_readable _ (session.vault.impersonal_read _)

theorem impersonal_isDeviceRegistered : session.isDeviceRegistered.Impersonal :=
  .bind session.impersonal_deviceIdentity fun _ => trivial

/-! ### Sending -/

theorem impersonal_connection : session.connection.Impersonal :=
  performs_connection session.impersonal_deviceIdentity trivial (fun _ => trivial) fun _ => trivial

theorem impersonal_send (purpose : Purpose) (request : Request) :
    (session.send purpose request).Impersonal :=
  .bind session.impersonal_connection fun _ => ⟨trivial, fun _ _ => trivial⟩

theorem impersonal_sendChecked (purpose : Purpose) (request : Request) :
    (session.sendChecked purpose request).Impersonal :=
  .bind (session.impersonal_send purpose request) fun _ => trivial

theorem impersonal_withDeviceHeaders (request : Request) :
    (session.withDeviceHeaders request).Impersonal := by
  refine .bind session.impersonal_deviceIdentity fun identity => ?_
  cases identity with
  | none => trivial
  | some identity => trivial

theorem impersonal_deliverOtp (channel : String) : (session.deliverOtp channel).Impersonal :=
  .bind (session.impersonal_withDeviceHeaders _) fun _ =>
    .bind (session.impersonal_sendChecked _ _) fun _ => trivial

/-! ### Client credentials -/

theorem impersonal_provision : session.provision.Impersonal :=
  .bind (.ask trivial) fun _ => .bind (session.impersonal_sendChecked _ _) fun _ =>
    .bind trivial fun _ => .bind (session.vault.impersonal_store _ _) fun _ => trivial

theorem impersonal_ensureClientCredential : session.ensureClientCredential.Impersonal := by
  rw [ensureClientCredential]
  split
  · exact session.impersonal_clientCredential
  · refine .bind session.impersonal_storedClientCredential fun credential => ?_
    cases credential with
    | none => exact session.impersonal_provision
    | some credential => trivial

/-! ### Grants -/

theorem impersonal_setAccessToken (token : AccessToken) :
    (session.setAccessToken token).Impersonal :=
  .bind (session.vault.impersonal_store _ _) fun _ => impersonal_dropUser

theorem impersonal_acceptGrant (grant : TokenGrant) : (session.acceptGrant grant).Impersonal := by
  rw [acceptGrant]
  split
  -- An identity token is accepted first, and the rest is the same.
  case' h_1 => refine .bind (session.impersonal_acceptIssuedIdToken _ _) fun _ => ?_
  all_goals
    refine .bind (.seconds trivial) fun now =>
      .bind (session.impersonal_setAccessToken _) fun _ => ?_
    split
    · exact .bind (session.vault.impersonal_store _ _) fun _ =>
        .bind impersonal_dropConnection fun _ => trivial
    · exact .bind impersonal_dropConnection fun _ => trivial

theorem impersonal_grant (client : ClientCredential) (presented : Presented)
    (params : Form.Params) : (session.grant client presented params).Impersonal :=
  .bind (session.impersonal_withDeviceHeaders _) fun _ =>
    .bind (session.impersonal_sendChecked _ _) fun _ =>
      .bind trivial fun _ => session.impersonal_acceptGrant _

theorem impersonal_tryGrant (client : ClientCredential) (presented : Presented)
    (params : Form.Params) : (session.tryGrant client presented params).Impersonal := by
  refine .rescue (session.impersonal_grant client presented params) fun result => ?_
  split
  · trivial
  · split
    · trivial
    · trivial

theorem impersonal_grantByRefreshToken (client : ClientCredential) :
    (session.grantByRefreshToken client).Impersonal := by
  refine .bind session.impersonal_takeRefreshToken fun token => ?_
  split
  · trivial
  · exact session.impersonal_tryGrant _ _ _

theorem impersonal_grantByIdToken (client : ClientCredential) :
    (session.grantByIdToken client).Impersonal := by
  refine .bind session.impersonal_idToken fun token => ?_
  split
  · trivial
  · refine .bind (session.impersonal_tryGrant _ _ _) fun granted => ?_
    split
    · trivial
    · exact .bind (session.vault.impersonal_clear _) fun _ => trivial

/-! ### Failures -/

theorem impersonal_clearUserTokens : session.clearUserTokens.Impersonal :=
  .bind (session.vault.impersonal_clear _) fun _ =>
    .bind (session.vault.impersonal_clear _) fun _ =>
      .bind (session.vault.impersonal_clear _) fun _ => impersonal_dropUser

theorem impersonal_reactTo (refusal : Refusal) : (session.reactTo refusal).Impersonal := by
  cases refusal with
  | invalidAccessToken => exact .bind (session.vault.impersonal_clear _) fun _ => trivial
  | accessTokenExpired => exact .bind (session.vault.impersonal_clear _) fun _ => trivial
  | clientCertificateExpired =>
    exact .bind (session.vault.impersonal_clear _) fun _ =>
      .bind impersonal_dropConnection fun _ => trivial
  | invalidResourceOwner => exact .bind session.impersonal_clearUserTokens fun _ => trivial
  | invalidClientCredential =>
    exact .bind (session.vault.impersonal_clear _) fun _ =>
      .bind impersonal_dropConnection fun _ => trivial
  | _ => trivial

/-- What follows a failure does not depend on the user. -/
theorem impersonal_react (error : Error) : (session.react error).Impersonal := by
  unfold react
  split
  · trivial
  · split
    · trivial
    · exact session.impersonal_reactTo _
    · trivial

end Session

end GatewaySession
