import GatewaySession.Proofs.Exchange.Renewal

/-!
# Vetting identity tokens

An identity token comes from the user of the session, with a registration, or with a grant, and is
stored only if it validates against the client credential in effect. That is a rule about single
writes: at the moment of the write, the chronicle has a look at the slot of the client credential,
what was found there, and the verdict on the token. What is presented to the gateway as an identity
token has a rule too: it was found in its slot.

Which credential is in effect is a matter of what the slot holds, of the time, and of the key. It is
said as a relation to what the surroundings have answered, and it stays true as more is answered.
The slot is left alone from the look to the write, except that an unreadable record may have been
removed, and then the credential is that of the settings in any case.

## Main definitions

* `Session.InEffect`, `Session.Stands` — the client credential in effect, and still in effect
* `Session.Vetted` — a token was validated
* `Session.vetting` — the rule

## Main results

* `Session.vetting_clientCredential` — the credential that is looked up is in effect
* `Session.vetting_acceptIdToken` — what is accepted was validated
* `Session.vetting_whole` — everything an engine does follows the rule
-/

namespace GatewaySession

open Program (Meets Closed)

/-- Whether an identity token is needed for a request. -/
def Purpose.usesIdToken : Purpose → Bool
  | .grant .idToken | .revocation => true
  | _ => false

namespace Session

section

variable (session : Session) (key : Aes256.Key)

/-! ### The client credential in effect -/

/-- Which client credential is in effect where its slot holds something, and clock and key provider
have answered what they have: the stored one unless it has expired, or else that of the settings. -/
inductive InEffect (held : Option Bytes) (past : List Event) : ClientCredential → Prop where
  /-- One is stored and has not expired. -/
  | stored {credential : ClientCredential} {now : Timestamp}
    (content : held.bind (session.vault.content? key) = some credential)
    (asked : ⟨.time, now⟩ ∈ past)
    (valid : credential.isExpiredAt (Int64.ofInt now.seconds) = false) :
    InEffect held past credential
  /-- One is stored and has expired. -/
  | expired {credential : ClientCredential} {now : Timestamp}
    (content : held.bind (session.vault.content? key) = some credential)
    (asked : ⟨.time, now⟩ ∈ past)
    (expired : credential.isExpiredAt (Int64.ofInt now.seconds) = true) :
    InEffect held past session.configuredCredential
  /-- None is stored that can be read. -/
  | absent (content : (held.bind (session.vault.content? key) : Option ClientCredential) = none) :
    InEffect held past session.configuredCredential
  /-- The key provider answers as if the record were damaged, and a damaged one counts as absent. -/
  | refused {detail : String}
    (asked : ⟨.sealingKey session.vault.name, .error (.integrity detail)⟩ ∈ past) :
    InEffect held past session.configuredCredential

/-- Whether a client credential is in effect since its slot was looked at, and the slot was left
alone. An unreadable record may have been removed. -/
structure Stands (held : Option Bytes) (client : ClientCredential) (since : List Event) : Prop where
  /-- It is in effect. -/
  inEffect : session.InEffect key held since client
  /-- Nothing was written. -/
  kept : ∀ event ∈ since, ∀ blob,
    event.effect ≠ .write (session.vault.keyFor .clientCredential) blob
  /-- If something was removed, the credential is that of the settings. -/
  removed : ∀ event ∈ since, event.effect = .remove (session.vault.keyFor .clientCredential) →
    client = session.configuredCredential

/-- Whether a past ends with a look at the slot of the client credential, and what came since. -/
def LooksUp (answer : Option Bytes → List Event → Prop) (past : List Event) : Prop :=
  ∃ early held since, answer held since ∧
    past = early ++ ⟨.read (session.vault.keyFor .clientCredential), .ok held⟩ :: since

/-- Whether a token was validated against the client credential in effect and the device. -/
def Vetted (value : String) : List Event → Prop :=
  session.LooksUp fun held since => ∃ client now claims, session.Stands key held client since ∧
    ⟨.time, now⟩ ∈ since ∧
    Jwt.validate value client.clientId session.device.identity (Utf8.encode client.secret)
      (Int64.ofInt now.seconds) = .ok claims

/-! ### The rule -/

/-- The parameters of a revocation. -/
def revocationParams (token : IdToken) : Form.Params :=
  [("logout_apps", "true"), ("id_token", token.value), ("id_token_type", token.type)]

/-- Whether a request carries an identity token, to be exchanged or to be revoked. -/
def CarriesIdToken (request : Request) (token : IdToken) : Purpose → Prop
  | .revocation => request.body = some (Form.encode (revocationParams token))
  | _ => session.Carries request (assertionParams token)

/-- The rule on writes and requests. -/
def vetting (stretch : Stretch) : Effect → Prop
  | .write name blob => name = session.vault.keyFor .idToken →
      session.settings.ssoEnabled = true ∧ ∃ token nonce,
        blob = session.vault.blob key nonce (token : IdToken) ∧
          session.Vetted key token.value stretch.since
  | .send _ purpose request => purpose.usesIdToken = true →
      session.settings.ssoEnabled = true ∧ ∃ token, session.CarriesIdToken request token purpose ∧
        ∃ event ∈ stretch.since, session.vault.Found key .idToken token event
  | _ => True

/-- Whether a program follows the rule. -/
abbrev Vets : (α : Type) → Program α → Prop :=
  (session.vault.chronicle key (session.vetting key)).Keeps (fun _ => True) fun _ _ => True

end

variable {session : Session} {key : Aes256.Key} {held : Option Bytes} {client : ClientCredential}
  {since past : List Event}

/-- What is in effect stays in effect as more is answered. -/
theorem InEffect.mono (h : session.InEffect key held since client)
    (more : ∀ event ∈ since, event ∈ past) : session.InEffect key held past client := by
  cases h with
  | stored content asked valid => exact .stored content (more _ asked) valid
  | expired content asked expired => exact .expired content (more _ asked) expired
  | absent content => exact .absent content
  | refused asked => exact .refused (more _ asked)

/-- It stands if the slot is left alone, or it is that of the settings anyway. -/
theorem Stands.add (h : session.Stands key held client since) {event : Event}
    (kept : ∀ blob, event.effect ≠ .write (session.vault.keyFor .clientCredential) blob)
    (removed : event.effect = .remove (session.vault.keyFor .clientCredential) →
      client = session.configuredCredential) :
    session.Stands key held client (since ++ [event]) := by
  refine ⟨h.inEffect.mono fun _ mem => List.mem_append_left _ mem, ?kept, ?removed⟩
  case kept => exact List.forall_mem_append.2 ⟨h.kept, List.forall_mem_singleton.2 kept⟩
  case removed => exact List.forall_mem_append.2 ⟨h.removed, List.forall_mem_singleton.2 removed⟩

theorem LooksUp.add {answer answer' : Option Bytes → List Event → Prop}
    (h : session.LooksUp answer past) (event : Event)
    (more : ∀ held since, answer held since → answer' held (since ++ [event])) :
    session.LooksUp answer' (past ++ [event]) := by
  obtain ⟨early, held, since, told, rfl⟩ := h
  exact ⟨early, held, _, more held since told, by rw [List.append_assoc, List.cons_append]⟩

/-- What was vetted stays vetted as long as the slot of the client credential is left alone. -/
theorem Vetted.add {value : String} (h : session.Vetted key value past) (event : Event)
    (kept : ∀ blob, event.effect ≠ .write (session.vault.keyFor .clientCredential) blob)
    (left : event.effect ≠ .remove (session.vault.keyFor .clientCredential)) :
    session.Vetted key value (past ++ [event]) :=
  LooksUp.add h event fun _ _ ⟨client, now, claims, stands, asked, valid⟩ =>
    ⟨client, now, claims, stands.add kept fun removes => absurd removes left,
      List.mem_append_left _ asked, valid⟩

/-! ### Looking the client credential up -/

variable {stretch : Stretch}

/-- What a look at the slot of the client credential says of its record. -/
def Reads (session : Session) (key : Aes256.Key) (held : Option Bytes) (since : List Event) :
    Option ClientCredential → Prop
  | some credential => held.bind (session.vault.content? key) = some credential ∧
      since = [⟨.sealingKey session.vault.name, .ok key⟩]
  | none => session.Stands key held session.configuredCredential since

/-- Reading the client credential finds what is stored, or that nothing can be read. -/
theorem vetting_read :
    session.vault.clientCredential.Meets
      (session.vault.chronicle key (session.vetting key)) (fun last result => match result with
        | .ok record =>
          session.LooksUp (fun held since => session.Reads key held since record) last.since
        | .error (.integrity _) => session.LooksUp (fun held since =>
            session.Stands key held session.configuredCredential since) last.since
        | .error _ => True) stretch := by
  have looked (blob : Bytes) :
      session.LooksUp (fun held since => held = some blob ∧ since = [])
        (stretch.since ++ [⟨.read (session.vault.keyFor .clientCredential), .ok (some blob)⟩]) :=
    ⟨stretch.since, some blob, [], ⟨rfl, rfl⟩, rfl⟩
  have absent {held : Option Bytes} {since : List Event}
      (absent : (held.bind (session.vault.content? key) : Option ClientCredential) = none)
      (keyed : ∀ event ∈ since, event.effect = .sealingKey session.vault.name) :
      session.Stands key held session.configuredCredential since :=
    ⟨.absent absent, fun event mem => by rw [keyed event mem]; nofun, fun _ _ _ => rfl⟩
  refine Watch.meets_read Vault.chronicle_own nofun (fun _ => nofun) (fun _ => trivial) ?absent
    (fun blob _ content => ?short) (fun blob error => ?locked) fun blob result content => ?found
  case absent => exact ⟨stretch.since, none, [], absent rfl (List.forall_mem_nil _), rfl⟩
  case short => exact ⟨stretch.since, some blob, [], absent content (List.forall_mem_nil _), rfl⟩
  case locked =>
    cases error with
    | integrity detail =>
      refine (looked blob).add ⟨.sealingKey session.vault.name, _⟩ ?_
      rintro _ _ ⟨rfl, rfl⟩
      exact ⟨.refused (List.mem_singleton_self _), by simp, fun _ _ _ => rfl⟩
    | _ => trivial
  case found =>
    split at content
    next credential found =>
      obtain rfl := content
      refine (looked blob).add ⟨.sealingKey session.vault.name, _⟩ ?_
      rintro _ _ ⟨rfl, rfl⟩
      exact ⟨found, rfl⟩
    next damaged =>
      obtain ⟨detail, rfl⟩ := content
      refine (looked blob).add ⟨.sealingKey session.vault.name, _⟩ ?_
      rintro _ _ ⟨rfl, rfl⟩
      exact absent damaged (by simp)

/-- **Reading the client credential**: an unreadable one counts as absent. -/
theorem vetting_readable :
    (session.readable .clientCredential session.vault.clientCredential).Meets
      (session.vault.chronicle key (session.vetting key)) (fun last result =>
        ∀ record, result = .ok record →
          session.LooksUp (fun held since => session.Reads key held since record) last.since)
      stretch := by
  refine Meets.rescue (vetting_read.mono fun last result told => ?_)
  split
  next detail =>
    refine Meets.rescue (Watch.meets_guarded nofun (Watch.meets_remove nofun fun reply =>
      ⟨nofun, ?_⟩))
    rintro _ ⟨⟩
    have held := LooksUp.add told ⟨.hold, ()⟩ fun _ _ stands => stands.add nofun nofun
    have removed := held.add ⟨.remove (session.vault.keyFor .clientCredential), reply⟩
      fun _ _ stands => stands.add nofun fun _ => rfl
    exact removed.add ⟨.release, ()⟩ fun _ _ stands => stands.add nofun nofun
  next readable =>
    cases result with
    | ok record =>
      rintro _ ⟨⟩
      exact told
    | error error => exact nofun

/-- **The client credential that is looked up** is in effect. -/
theorem vetting_clientCredential :
    session.clientCredential.Meets (session.vault.chronicle key (session.vetting key))
      (fun last result => ∀ client, result = .ok client →
        session.LooksUp (fun held since => session.Stands key held client since) last.since)
      stretch := by
  have stored : session.storedClientCredential.Meets
      (session.vault.chronicle key (session.vetting key)) (fun last result =>
        ∀ record, result = .ok record → session.LooksUp (fun held since =>
          session.Stands key held (record.getD session.configuredCredential) since) last.since)
      stretch := by
    refine Meets.bind (vetting_readable.mono ?_)
    rintro last (error | (_ | credential)) told
    · exact nofun
    · rintro _ ⟨⟩
      exact told none rfl
    · refine Meets.seconds nofun fun now _ => ?_
      rintro _ ⟨⟩
      refine LooksUp.add (told (some credential) rfl) ⟨.time, now⟩ ?_
      rintro held since ⟨content, rfl⟩
      have asked : (⟨.time, now⟩ : Event) ∈
          [(⟨.sealingKey session.vault.name, .ok key⟩ : Event), ⟨.time, now⟩] := by simp
      refine ⟨?_, by simp, by simp⟩
      cases expires : credential.isExpiredAt (Int64.ofInt now.seconds) with
      | false => exact .stored content asked expires
      | true => exact .expired content asked expires
  refine Meets.bind (stored.mono ?_)
  rintro last (error | record) told
  · exact nofun
  · rintro _ ⟨⟩
    exact told record rfl

/-! ### Accepting an identity token -/

theorem closed_vetting : Closed (session.Vets key) := by
  refine Watch.closed_keeps (fun _ => trivial) (fun _ _ => trivial) ?_
  intro stretch effect plain _
  refine ⟨fun ruled => ?_, fun _ => ⟨trivial, trivial⟩⟩
  cases effect with
  | write | send => exact plain.elim
  | _ => cases ruled

/-- Programs that only add to the chronicle. -/
theorem vetting_of_leads {α : Type} {program : Program α}
    (h : (session.vault.chronicle key (session.vetting key)).Keeps (fun _ => True) Stretch.Leads α
      program) : session.Vets key α program :=
  fun stretch start => (h stretch start).mono fun _ _ _ => ⟨trivial, trivial⟩

/-- Filling another slot. -/
theorem vetting_store {α : Type} [Record α] {slot : Slot} (other : slot ≠ .idToken) (value : α) :
    session.Vets key _ (session.vault.store slot value) :=
  vetting_of_leads (Vault.keeps_store (fun _ _ => trivial) fun _ _ _ same =>
    absurd (Vault.keyFor_injective _ same) other)

theorem vetting_clear (slot : Slot) : session.Vets key _ (session.vault.clear slot) :=
  vetting_of_leads (Vault.keeps_clear (fun _ _ => trivial) slot)

/-- A request that no identity token is needed for. -/
theorem vetting_send {purpose : Purpose} (other : purpose.usesIdToken = false)
    (connection : Connection) (request : Request) :
    session.Vets key _ (Program.send connection purpose request) := by
  intro stretch _
  exact ⟨fun _ uses => (Bool.eq_false_iff.1 other uses).elim, fun _ _ => ⟨trivial, trivial⟩⟩

/-- **What is accepted as an identity token** was validated. -/
theorem vetting_acceptIdToken (value : String) (type : Option String) :
    session.Vets key _ (session.acceptIdToken value type) := by
  intro stretch _
  unfold acceptIdToken
  split
  next sso =>
    refine Meets.bind (vetting_clientCredential.mono ?_)
    rintro looked (error | client) told
    · exact ⟨trivial, trivial⟩
    refine Meets.seconds nofun fun now _ => ?_
    split
    · exact ⟨trivial, trivial⟩
    next claims valid =>
    have vetted : session.Vetted key value (looked.since ++ [⟨.time, now⟩]) :=
      (told client rfl).add ⟨.time, now⟩ fun held since stands =>
        ⟨client, now, claims, stands.add nofun nofun,
          List.mem_append_right _ (List.mem_singleton_self _), valid⟩
    refine Meets.bind (Watch.meets_guarded nofun (Watch.meets_write Vault.chronicle_own nofun
      (fun _ => ⟨nofun, trivial, trivial⟩) fun nonce => ⟨nofun, fun _ _ => ?_, fun reply => ?_⟩))
    · have held := vetted.add ⟨.hold, ()⟩ nofun nofun
      have keyed := held.add ⟨.sealingKey session.vault.name, .ok key⟩ nofun nofun
      have drawn := keyed.add ⟨.nonce, nonce⟩ nofun nofun
      exact ⟨sso, _, nonce, rfl, drawn⟩
    · refine ⟨nofun, ?_⟩
      cases reply with
      | error _ => exact ⟨trivial, trivial⟩
      | ok _ => exact Meets.ask nofun fun _ _ => ⟨trivial, trivial⟩
  · exact ⟨trivial, trivial⟩

variable (session key) in
/-- **The elements** follow the rule. -/
theorem vetting_elements : session.Elements (session.Vets key) where
  toFormed := closed_vetting.toFormed
  clear slot _ := vetting_clear slot
  deviceIdentity := closed_vetting.deviceIdentity (vetting_clear _)
  connection := closed_vetting.connection (closed_vetting.deviceIdentity (vetting_clear _))
  setClientCredential := vetting_store (by decide)
  setRefreshToken := vetting_store (by decide)
  acceptIdToken := vetting_acceptIdToken
  housekeeping {purpose} connection request housekeeping := by
    refine vetting_send ?_ connection request
    cases purpose with
    | grant | revocation => cases housekeeping
    | _ => rfl

theorem vetting_setAccessToken (token : AccessToken) :
    session.Vets key _ (session.setAccessToken token) :=
  closed_vetting.bind (vetting_store (by decide) token) fun _ => closed_vetting.dropUser

/-! ### Presenting an identity token -/

section

variable {token : IdToken} (sso : session.settings.ssoEnabled = true) {stretch : Stretch}

/-- With single sign-on, an identity token that is given out was found. -/
theorem vetting_idToken :
    session.idToken.Meets (session.vault.chronicle key (session.vetting key)) (fun last result =>
      ∀ token, result = .ok (some token) → session.settings.ssoEnabled = true ∧
        ∃ event ∈ last.since, session.vault.Found key .idToken token event) stretch := by
  unfold idToken
  split
  next sso =>
    exact (Vault.gains_readable .idToken stretch).mono fun last result ⟨_, found⟩ token given =>
      ⟨sso, (found token given).mem⟩
  · exact nofun

/-- What was found was found. -/
theorem found_leads {first second : Stretch}
    (found : ∃ event ∈ first.since, session.vault.Found key .idToken token event)
    (led : first.Leads second) :
    ∃ event ∈ second.since, session.vault.Found key .idToken token event := by
  obtain ⟨event, mem, found⟩ := found
  exact ⟨event, led.mem mem, found⟩

variable (found : ∃ event ∈ stretch.since, session.vault.Found key .idToken token event)

include sso found

/-- **A request that carries an identity token** which was found. -/
theorem vetting_sendDecorated {β : Type} {purpose : Purpose} {request : Request}
    (uses : purpose.usesIdToken = true)
    (carries : ∀ decorated : Request, decorated.body = request.body →
      session.CarriesIdToken decorated token purpose)
    {f : Response → Program β} (rest : ∀ response, session.Vets key _ (f response)) :
    (do
      let decorated ← session.withDeviceHeaders request
      let response ← session.sendChecked purpose decorated
      f response).Meets (session.vault.chronicle key (session.vetting key))
        (fun _ _ => True ∧ True) stretch := by
  refine Vault.meets_sendDecorated found_leads found ?own ?ruled
    (fun _ _ _ => ⟨trivial, trivial⟩) fun last _ response _ _ _ => rest response last trivial
  case own =>
    rintro id rfl
    cases uses
  case ruled =>
    exact fun last _ decorated found _ same _ => ⟨sso, token, carries decorated same, found⟩

end

theorem vetting_grantByIdToken (client : ClientCredential) :
    session.Vets key _ (session.grantByIdToken client) := by
  intro stretch _
  have elements := vetting_elements session key
  refine Meets.bind (vetting_idToken.mono ?_)
  rintro looked (error | (_ | token)) told
  · exact ⟨trivial, trivial⟩
  · exact ⟨trivial, trivial⟩
  obtain ⟨sso, found⟩ := told token rfl
  have granted : (session.grant client .idToken (assertionParams token)).Meets
      (session.vault.chronicle key (session.vetting key)) (fun _ _ => True ∧ True) looked := by
    refine vetting_sendDecorated sso found rfl ?carries fun _ =>
      elements.bind (elements.ofExcept _) fun _ =>
        elements.acceptGrant fun _ => vetting_setAccessToken _
    case carries => exact fun _ same => same
  have tried : (session.tryGrant client .idToken (assertionParams token)).Meets
      (session.vault.chronicle key (session.vetting key)) (fun _ _ => True ∧ True) looked := by
    refine Meets.rescue (granted.mono fun last result _ => ?_)
    split
    · exact ⟨trivial, trivial⟩
    · split
      · exact ⟨trivial, trivial⟩
      · exact ⟨trivial, trivial⟩
  refine Meets.bind (tried.mono ?_)
  rintro last (error | (_ | granted)) _
  · exact ⟨trivial, trivial⟩
  · exact elements.bind (vetting_clear .idToken) (fun _ => elements.pure none) last trivial
  · exact ⟨trivial, trivial⟩

theorem vetting_revokeIdToken : session.Vets key _ (Engine.revokeIdToken session) := by
  intro stretch _
  refine Meets.bind (vetting_idToken.mono ?_)
  rintro looked (error | (_ | token)) told
  · exact ⟨trivial, trivial⟩
  · exact ⟨trivial, trivial⟩
  obtain ⟨sso, found⟩ := told token rfl
  have closed : Closed ((session.vault.chronicle key (session.vetting key)).Keeps
      (fun stretch => ∃ event ∈ stretch.since, session.vault.Found key .idToken token event)
      Stretch.Leads) := Vault.closed_chronicle _ _ _ found_leads
  refine Watch.Keeps.bind (closed.clientCredential (Vault.keeps_clear found_leads _)) found
    (fun _ _ _ _ => ⟨trivial, trivial⟩) fun named client found _ => ?_
  refine vetting_sendDecorated sso found rfl ?carries fun _ => closed_vetting.pure ()
  case carries => exact fun _ same => same

theorem vetting_takeRefreshToken : session.Vets key _ session.takeRefreshToken :=
  fun stretch _ => (Vault.gains_takeRefreshToken stretch).mono fun _ _ _ => ⟨trivial, trivial⟩

variable (session key) in
/-- **The parts of an attempt** follow the rule. -/
theorem vetting_parts : session.Parts (session.Vets key) where
  toElements := vetting_elements session key
  grantByRefreshToken := (vetting_elements session key).grantByRefreshToken vetting_setAccessToken
    vetting_takeRefreshToken (vetting_send rfl)
  grantByIdToken := vetting_grantByIdToken
  grantByUser := (vetting_elements session key).grantByUser vetting_setAccessToken
    (vetting_send rfl)
  clearDeviceIdentity := vetting_clear _
  register := (vetting_elements session key).register fun _ => vetting_store (by decide) _

variable (session key) in
/-- **Everything an engine does** follows the rule. -/
theorem vetting_whole : session.Whole (session.Vets key) where
  toParts := vetting_parts session key
  setAccessToken := vetting_setAccessToken
  setDeviceIdentity _ := vetting_store (by decide) _
  setConfiguredClientId _ := vetting_store (by decide) _
  round := (vetting_parts session key).round fun _ => vetting_send rfl
  clearAll := vetting_of_leads (Vault.keeps_clearAll fun _ _ => trivial)
  takeRefreshToken := vetting_takeRefreshToken
  revokeIdToken := vetting_revokeIdToken

end Session

end GatewaySession
