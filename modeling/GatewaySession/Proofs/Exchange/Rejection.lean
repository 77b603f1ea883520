import GatewaySession.Exchange.Grant
import GatewaySession.Proofs.Session.Performing
import GatewaySession.Proofs.Vault.Keys

/-!
# Identity tokens that are rejected

An identity token that does not validate is not stored, and nothing else happens either: the client
credential was looked up, the clock was read, and that was all. Whoever passed the token is told.
Where it came with a registration or a grant, that goes on as if it had not come: a registration
ends, and a grant stores what else it brought.

All of this is said about paths, so it holds whoever answers.

## Main definitions

* `Session.Rejects` — a token is validated along a path, and rejected
* `Session.Looking` — the effects of looking a client credential up
* `Session.enroll`, `Session.askGrant` — what comes before a token is accepted
* `Session.Tolerates` — what a rejection leads to

## Main results

* `Session.looking_of_rejects` — a rejection does nothing but look
* `Session.tolerates` — and stops nothing but the token
-/

namespace GatewaySession

open Program (Ends)

namespace Session

variable (session : Session)

/-! ### Looking the client credential up -/

/-- The effects of looking a client credential up; an unreadable one is removed. -/
def Looking : Effect → Prop
  | .read name | .remove name => name = session.vault.keyFor .clientCredential
  | .sealingKey _ | .time | .hold | .release => True
  | _ => False

theorem performs_clientCredential : session.clientCredential.Performs session.Looking := by
  have readable : (session.readable .clientCredential
      session.vault.clientCredential).Performs session.Looking :=
    performs_readable trivial trivial trivial rfl rfl
  have stored : session.storedClientCredential.Performs session.Looking := by
    refine readable.bind fun record => ?_
    cases record with
    | none => trivial
    | some credential => exact .bind (.seconds trivial) fun _ => trivial
  exact stored.bind fun _ => trivial

/-! ### Rejections -/

/-- Whether an identity token is validated along a path, against the client credential that was
looked up and the device, and rejected. -/
def Rejects (value : String) (error : Jwt.Error) (events : List Event) : Prop :=
  session.settings.ssoEnabled = true ∧ ∃ lookup client now,
    events = lookup ++ [⟨.time, now⟩] ∧ session.clientCredential.Ends lookup (.ok client) ∧
      Jwt.validate value client.clientId session.device.identity (Utf8.encode client.secret)
        (Int64.ofInt now.seconds) = .error error

/-- Registering up to the identity token that comes along, if one does, with its type. -/
def enroll (credential : Option UserCredential) : Program (Option (String × Option String)) := do
  let client ← session.ensureClientCredential
  let response ← session.sendChecked .registration
    (session.registrationRequest client credential)
  let identifier ← .ofExcept (assignedIdentifier response)
  session.setDeviceIdentity ⟨response.text, identifier, ← Program.time⟩
  Program.dropConnection
  return (response.header? "id-token").map fun token => (token, response.header? "id-token-type")

/-- Asking for a grant. -/
def askGrant (client : ClientCredential) (presented : Presented) (params : Form.Params) :
    Program TokenGrant := do
  let request ← session.withDeviceHeaders (session.grantRequest client params)
  let response ← session.sendChecked (.grant presented) request
  .ofExcept (TokenGrant.ofBody response.body)

/-- What a rejection leads to. -/
structure Tolerates : Prop where
  /-- Nothing is done but to look the client credential up: nothing is written, nothing removed but
  an unreadable client credential, and no credential of the user is dropped. -/
  quiet {value : String} {error : Jwt.Error} {events : List Event} :
    session.Rejects value error events → ∀ event ∈ events, session.Looking event.effect
  /-- Whoever passed the token is told. -/
  accept {value : String} {error : Jwt.Error} {events : List Event} (type : Option String) :
    session.Rejects value error events →
      (session.acceptIdToken value type).Ends events (.error (.jwt error))
  /-- A registration that the token came with ends well. -/
  register {value : String} {error : Jwt.Error} {events before : List Event}
    {type : Option String} {credential : Option UserCredential} :
    (session.enroll credential).Ends before (.ok (some (value, type))) →
      session.Rejects value error events →
        (session.register credential).Ends (before ++ events) (.ok ())
  /-- A grant that the token came with goes on as if there were no token. -/
  grant {value : String} {error : Jwt.Error} {events before after : List Event}
    {client : ClientCredential} {presented : Presented} {params : Form.Params} {grant : TokenGrant}
    {result : Except Error AccessToken} :
    (session.askGrant client presented params).Ends before (.ok grant) →
      grant.idToken = some value → session.Rejects value error events →
        ((session.grant client presented params).Ends (before ++ (events ++ after)) result ↔
          (session.acceptGrant { grant with idToken := none }).Ends after result)

variable {session}

theorem register_eq (credential : Option UserCredential) :
    session.register credential = session.enroll credential >>= fun issued => match issued with
      | some (value, type) => session.acceptIssuedIdToken value type
      | none => pure () := by
  simp only [register, enroll, bind_assoc, pure_bind]
  congr
  funext client
  congr
  funext response
  cases response.header? "id-token" with
  | none => rfl
  | some token => rfl

theorem grant_eq (client : ClientCredential) (presented : Presented) (params : Form.Params) :
    session.grant client presented params =
      session.askGrant client presented params >>= session.acceptGrant := by
  simp only [grant, askGrant, bind_assoc]

/-- The identity token of a grant is seen to before the rest of it. -/
theorem acceptGrant_eq {grant : TokenGrant} {value : String} (issued : grant.idToken = some value) :
    session.acceptGrant grant = (do
      session.acceptIssuedIdToken value grant.idTokenType
      session.acceptGrant { grant with idToken := none }) := by
  rw [acceptGrant, issued]
  rfl

section

variable {value : String} {error : Jwt.Error} {events : List Event}
  (rejects : session.Rejects value error events)

include rejects

/-- **A rejection** does nothing but look the client credential up. -/
theorem looking_of_rejects : ∀ event ∈ events, session.Looking event.effect := by
  obtain ⟨-, lookup, client, now, rfl, found, -⟩ := rejects
  exact List.forall_mem_append.2
    ⟨session.performs_clientCredential.ends found, List.forall_mem_singleton.2 trivial⟩

/-- Whoever passed the token is told. -/
theorem ends_acceptIdToken (type : Option String) :
    (session.acceptIdToken value type).Ends events (.error (.jwt error)) := by
  obtain ⟨sso, lookup, client, now, rfl, found, rejected⟩ := rejects
  rw [acceptIdToken, if_pos sso]
  have timed : Program.seconds.Ends [⟨.time, now⟩] (.ok (Int64.ofInt now.seconds)) :=
    ⟨now, [], rfl, rfl, rfl⟩
  refine (Ends.bind_iff found).2 ((Ends.bind_iff timed).2 ?_)
  rw [rejected]
  exact ⟨rfl, rfl⟩

/-- Whoever was given the token along with something else goes on. -/
theorem ends_acceptIssuedIdToken (type : Option String) :
    (session.acceptIssuedIdToken value type).Ends events (.ok ()) := by
  have caught := (ends_acceptIdToken rejects type).attempt
  rw [← List.append_nil events]
  exact (Ends.bind_iff caught).2 ⟨rfl, rfl⟩

/-- What is granted along with the token is stored as if there were no token. -/
theorem ends_acceptGrant_iff {grant : TokenGrant} (issued : grant.idToken = some value)
    {after : List Event} {result : Except Error AccessToken} :
    (session.acceptGrant grant).Ends (events ++ after) result ↔
      (session.acceptGrant { grant with idToken := none }).Ends after result := by
  rw [acceptGrant_eq issued]
  exact Ends.bind_iff (ends_acceptIssuedIdToken rejects grant.idTokenType)

end

variable (session) in
/-- **A token that is rejected** is not accepted, and stops nothing else. -/
theorem tolerates : session.Tolerates where
  quiet := looking_of_rejects
  accept type rejects := ends_acceptIdToken rejects type
  register {value error events before type credential} enrolled rejects := by
    rw [register_eq]
    exact (Ends.bind_iff enrolled).2 (ends_acceptIssuedIdToken rejects type)
  grant granted issued rejects := by
    rw [grant_eq, Ends.bind_iff granted]
    exact ends_acceptGrant_iff rejects issued

/-- An empty token is rejected where no client credential is stored. -/
example (device : Device) :
    (⟨Settings.make "gateway" "client", device⟩ : Session).Rejects ""
      ⟨.malformed, "expected 2 or 3 segments, got 1"⟩
      [⟨.read "gatewarden.client_credential", .ok none⟩, ⟨.time, ⟨0, 0⟩⟩] :=
  ⟨rfl, [_], _, ⟨0, 0⟩, rfl, ⟨.ok none, [], rfl, rfl, rfl⟩, rfl⟩

end Session

end GatewaySession
