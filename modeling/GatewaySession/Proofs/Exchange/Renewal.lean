import GatewaySession.Proofs.Session.Chronicle

/-!
# What a refusal calls for

A caller's request that was refused is sent again only after what was refused has been renewed. This
is a rule about single requests: at the moment at which the request is sent once more, the chronicle
since the refusal has the removal of what was refused, and after it a read that found something in
the same slot, or a write to it. Grants and writes have rules of their own, which say where the
tokens in them come from, and the rules together make up the watch of this module.

Reacting to a refusal removes what was refused, or has the user asked. Whatever follows, until the
request is sent again, only adds to the chronicle. So there is one kind of chronicle to be kept, one
that has what the refusal calls for, and a program that gets hold of a token or a registration has
either found it or stored it.

## Main definitions

* `Session.Refilled`, `Session.Fresh` — a slot found filled, and a token found, after a removal
* `Session.renewal` — the rule
* `Session.Ready` — chronicles that have what the refusal calls for

## Main results

* `Session.renewal_elements` — single slots and requests follow the rule
* `Session.renewal_register`, `Session.renewal_grant` — what the gateway assigns is stored
* `Session.renewal_prepare` — what an attempt needs is found or stored
-/

namespace GatewaySession

open Program (Meets Closed)
open Stretch (Leads Gains)

/-! ### What a chronicle tells -/

namespace Stretch

/-- The refusal that the last request of a caller was answered with. -/
def refusal? (stretch : Stretch) : Option Refusal :=
  match stretch.answer with
  | some (.ok response) => if response.isSuccess then none else response.refusal.refusal?
  | _ => none

theorem refusal?_eq {first second : Stretch} (h : first.Leads second) :
    second.refusal? = first.refusal? := by
  obtain ⟨new, rfl⟩ := h
  rfl

end Stretch

namespace Event

/-- Whether the gateway granted something. -/
def Grants (event : Event) (grant : TokenGrant) : Prop :=
  ∃ presented request response,
    Vault.Answers (.grant presented) request response event ∧
      TokenGrant.ofBody response.body = .ok grant

/-- Whether the gateway accepted a registration, with a certificate and an identifier. -/
def Registers (event : Event) (certificate identifier : String) : Prop :=
  ∃ request response, Vault.Answers .registration request response event ∧
    response.text = certificate ∧ Session.assignedIdentifier response = .ok identifier

/-- Whether the user was asked for a passcode, and supplied something. -/
def SuppliesOtp (event : Event) : Prop :=
  ∃ id channels selected answer,
    event = ⟨.ask id (.otp channels selected), answer⟩ ∧
      ((∃ credential, answer = .credentials credential) ∨ (∃ otp, answer = .otp otp) ∨
        answer = .unlocked)

end Event

namespace Session

section

variable (session : Session) (key : Aes256.Key)

/-- The removal of a slot's record. -/
def removal (slot : Slot) : Event := ⟨.remove (session.vault.keyFor slot), .ok ()⟩

/-- Whether an event shows that a slot is filled. -/
def Fills (slot : Slot) (event : Event) : Prop :=
  (∃ blob, event = ⟨.read (session.vault.keyFor slot), .ok (some blob)⟩) ∨
    ∃ blob, event = ⟨.write (session.vault.keyFor slot) blob, .ok ()⟩

/-- Whether a slot was found filled after it had been emptied. -/
def Refilled (slot : Slot) (stretch : Stretch) : Prop :=
  ∃ early event late, stretch.since = early ++ event :: late ∧ session.Fills slot event ∧
    session.removal slot ∈ early

/-- Whether there was an event of some kind, and earlier another one if the user was refused. -/
def Fresh (kind : Event → Prop) (gone : Event) (stretch : Stretch) : Prop :=
  ∃ early event late, stretch.since = early ++ event :: late ∧ kind event ∧
    (stretch.refusal? = some .invalidResourceOwner → gone ∈ early)

/-- Whether a request is a form with the parameters of a grant. -/
def Carries (request : Request) (params : Form.Params) : Prop :=
  request.body = some (Form.encode (session.grantParams params))

/-- The parameters of a grant for a refresh token. -/
def refreshParams (token : String) : Form.Params :=
  [("grant_type", "refresh_token"), ("refresh_token", token)]

/-- The parameters of a grant for an identity token. -/
def assertionParams (token : IdToken) : Form.Params :=
  [("grant_type", token.type), ("assertion", token.value)]

/-! ### The rule -/

/-- What a blob may be that is written to a slot. -/
def slotRule (stretch : Stretch) (blob : Bytes) : Slot → Prop
  | .accessToken => ∃ event ∈ stretch.since, ∃ grant now nonce, event.Grants grant ∧
      blob = session.vault.blob key nonce
        (AccessToken.expiringIn grant.accessToken now grant.expiresIn grant.scope)
  | .deviceIdentity => ∃ event ∈ stretch.since, ∃ identity : DeviceIdentity, ∃ nonce,
      event.Registers identity.certificatePem identity.magIdentifier ∧
        blob = session.vault.blob key nonce identity
  | .refreshToken | .idToken | .clientCredential | .configuredClientId => True

/-- What a grant presents: something that was found, and not before it was gone. -/
def grantRule (stretch : Stretch) (request : Request) : Presented → Prop
  | .refreshToken => ∃ token, session.Carries request (refreshParams token) ∧
      Fresh (session.vault.Found key .refreshToken token) (session.removal .refreshToken) stretch
  | .idToken => ∃ token, session.Carries request (assertionParams token) ∧
      Fresh (session.vault.Found key .idToken token) (session.removal .idToken) stretch
  | .userCredential => ∃ credential : UserCredential,
      session.Carries request credential.grantParams ∧
        Fresh (· = ⟨.user, some credential⟩) ⟨.cacheUser none, ()⟩ stretch

/-- What is dropped after a refusal. -/
def dropped : Refusal → List Slot
  | .invalidAccessToken | .accessTokenExpired => [.accessToken]
  | .invalidResourceOwner => [.accessToken, .refreshToken, .idToken]
  | .clientCertificateExpired => [.deviceIdentity]
  | _ => []

/-- Whether the request of a caller may be sent: for the first time, or after the renewal of what
was refused. -/
def Renewed (isPublic : Bool) (stretch : Stretch) : Prop :=
  stretch.answer = none ∨ ∃ refusal ∈ retried, stretch.refusal? = some refusal ∧
    (.accessToken ∈ dropped refusal → isPublic = false → session.Refilled .accessToken stretch) ∧
    (.deviceIdentity ∈ dropped refusal → session.Refilled .deviceIdentity stretch) ∧
    (refusal.isOtp = true → ∃ event ∈ stretch.since, event.SuppliesOtp)

/-- The rule on writes and requests. -/
def renewal (isPublic : Bool) (stretch : Stretch) : Effect → Prop
  | .write name blob =>
    ∀ slot, name = session.vault.keyFor slot → session.slotRule key stretch blob slot
  | .send _ (.caller _) _ => session.Renewed isPublic stretch
  | .send _ (.grant presented) request => session.grantRule key stretch request presented
  | _ => True

/-- The watch of the rule. -/
abbrev renewing (isPublic : Bool) : Watch Stretch :=
  session.vault.chronicle key (session.renewal key isPublic)

/-- Whether a chronicle has what the refusal calls for. -/
def Ready (stretch : Stretch) : Prop :=
  stretch.answer = none ∨ ∃ refusal ∈ retried, stretch.refusal? = some refusal ∧
    (∀ slot ∈ dropped refusal, session.removal slot ∈ stretch.since) ∧
    (refusal = .invalidResourceOwner → ⟨.cacheUser none, ()⟩ ∈ stretch.since) ∧
    (refusal.isOtp = true → ∃ event ∈ stretch.since, event.SuppliesOtp)

end

variable {session : Session} {key : Aes256.Key} {isPublic : Bool} {stretch first second : Stretch}

/-- Nothing is lost by adding. -/
theorem Ready.leads (h : session.Ready first) (led : first.Leads second) :
    session.Ready second := by
  obtain first' | ⟨refusal, mem, refused, gone, user, asked⟩ := h
  · obtain ⟨new, rfl⟩ := led
    exact .inl first'
  · refine .inr ⟨refusal, mem, (Stretch.refusal?_eq led).trans refused,
      fun slot dropped => led.mem (gone slot dropped), fun owner => led.mem (user owner),
      fun otp => ?_⟩
    obtain ⟨event, within, supplies⟩ := asked otp
    exact ⟨event, led.mem within, supplies⟩

theorem Fresh.leads {kind : Event → Prop} {gone : Event} (h : Fresh kind gone first)
    (led : first.Leads second) : Fresh kind gone second := by
  obtain ⟨early, event, late, eq, holds, before⟩ := h
  obtain ⟨new, rfl⟩ := led
  exact ⟨early, event, late ++ new, by simp [eq], holds, before⟩

/-- A slot that is filled after it was emptied is refilled. -/
theorem refilled_of_gains {slot : Slot} (gone : session.removal slot ∈ first.since)
    (gained : Gains (session.Fills slot) first second) : session.Refilled slot second := by
  obtain ⟨early, event, late, eq, fills, before⟩ := gained.exists_append
  exact ⟨early, event, late, eq, fills, before _ gone⟩

/-- What is found after the user was refused is found after it was gone. -/
theorem fresh_of_gains {kind : Event → Prop} {gone : Event}
    (removed : first.refusal? = some .invalidResourceOwner → gone ∈ first.since)
    (gained : Gains kind first second) : Fresh kind gone second := by
  obtain ⟨early, event, late, eq, holds, before⟩ := gained.exists_append
  refine ⟨early, event, late, eq, holds, fun refused => before _ (removed ?_)⟩
  rwa [Stretch.refusal?_eq gained.leads] at refused

/-- Before a chronicle is ready for a refused user, everything of the user is gone. -/
theorem Ready.gone (h : session.Ready stretch)
    (refused : stretch.refusal? = some .invalidResourceOwner) :
    (∀ slot ∈ dropped .invalidResourceOwner, session.removal slot ∈ stretch.since) ∧
      ⟨.cacheUser none, ()⟩ ∈ stretch.since := by
  obtain first' | ⟨refusal, -, refused', gone, user, -⟩ := h
  · rw [Stretch.refusal?, first'] at refused
    cases refused
  · obtain rfl := Option.some.inj (refused'.symm.trans refused)
    exact ⟨gone, user rfl⟩

theorem fills_of_write {slot : Slot} {event : Event} {α : Type} [Record α] {value : α}
    (h : ∃ nonce, event = ⟨.write (session.vault.keyFor slot)
      (session.vault.blob key nonce value), .ok ()⟩) : session.Fills slot event := by
  obtain ⟨nonce, rfl⟩ := h
  exact .inr ⟨_, rfl⟩

theorem fills_of_found {slot : Slot} {event : Event} {α : Type} [Record α] {value : α}
    (h : session.vault.Found key slot value event) : session.Fills slot event := by
  obtain ⟨blob, rfl, -⟩ := h
  exact .inl ⟨blob, rfl⟩

/-! ### Writes -/

/-- A write to a slot follows the rule of that slot. -/
theorem renewal_write {slot : Slot} {blob : Bytes} (h : session.slotRule key stretch blob slot) :
    session.renewal key isPublic stretch (.write (session.vault.keyFor slot) blob) := by
  intro other same
  obtain rfl := Vault.keyFor_injective _ same
  exact h

section

variable {kind : Stretch → Prop}
  (stays : ∀ {first second}, kind first → first.Leads second → kind second)

include stays

/-- **The elements** follow the rule, from whatever chronicle. -/
theorem renewal_elements : session.Elements ((session.renewing key isPublic).Keeps kind Leads) where
  toFormed := (Vault.closed_chronicle _ _ _ stays).toFormed
  clear slot _ := Vault.keeps_clear stays slot
  deviceIdentity := (Vault.closed_chronicle _ _ _ stays).deviceIdentity (Vault.keeps_clear stays _)
  connection := (Vault.closed_chronicle _ _ _ stays).connection
    ((Vault.closed_chronicle _ _ _ stays).deviceIdentity (Vault.keeps_clear stays _))
  setClientCredential _ := Vault.keeps_store stays fun _ _ _ =>
    renewal_write (show True from trivial)
  setRefreshToken _ := Vault.keeps_store stays fun _ _ _ =>
    renewal_write (show True from trivial)
  acceptIdToken := (Vault.closed_chronicle _ _ _ stays).acceptIdToken (Vault.keeps_clear stays _)
    fun _ => Vault.keeps_store stays fun _ _ _ => renewal_write (show True from trivial)
  housekeeping {purpose} connection request housekeeping := by
    refine Vault.keeps_send stays ?_ fun stretch _ => ?_
    · rintro id rfl
      cases housekeeping
    · cases purpose with
      | caller id => cases housekeeping
      | grant presented => cases housekeeping
      | _ => trivial

end

/-! ### What an attempt obtains -/

/-- A new connection, and the identity token that came along. -/
theorem keeps_issued (response : Response) :
    (session.renewing key isPublic).Keeps session.Ready Leads Unit (do
      Program.dropConnection
      match response.header? "id-token" with
      | some token => session.acceptIssuedIdToken token (response.header? "id-token-type")
      | none => return ()) := by
  have elements : session.Elements ((session.renewing key isPublic).Keeps session.Ready Leads) :=
    renewal_elements Ready.leads
  refine elements.bind elements.dropConnection fun _ => ?_
  split
  · exact elements.acceptIssuedIdToken _ _
  · exact elements.pure ()

section

variable (ready : session.Ready stretch)

include ready

/-- **Registering** stores a registration, unless it fails. -/
theorem renewal_register (credential : Option UserCredential) :
    (session.register credential).Meets (session.renewing key isPublic) (fun last result =>
      stretch.Leads last ∧ (result = .ok () → Gains (session.Fills .deviceIdentity) stretch last))
      stretch := by
  have elements : session.Elements ((session.renewing key isPublic).Keeps session.Ready Leads) :=
    renewal_elements Ready.leads
  refine Watch.Keeps.bind elements.ensureClientCredential ready (fun _ _ _ led => ⟨led, nofun⟩)
    fun named client kept led => ?_
  refine Meets.bind ((Vault.gains_sendChecked Ready.leads kept (by nofun)
    fun _ _ _ _ => trivial).mono ?_)
  rintro sent (error | response) ⟨⟨_, more⟩, answered⟩
  · exact ⟨led.trans more, nofun⟩
  have reached := led.trans more
  refine Meets.bind ?_
  cases assigned : assignedIdentifier response with
  | error error => exact ⟨reached, nofun⟩
  | ok identifier =>
  refine Meets.ask nofun fun now _ => ?_
  have timed := Stretch.leads_add sent .time rfl now
  -- The answer of the gateway is what the registration may be stored for.
  have ruled (last : Stretch) (led' : (sent.add .time now).Leads last) (nonce : Gcm.Nonce) :
      session.renewal key isPublic last (.write (session.vault.keyFor .deviceIdentity)
        (session.vault.blob key nonce (⟨response.text, identifier, now⟩ : DeviceIdentity))) := by
    obtain ⟨event, mem, answers⟩ := ((answered response rfl).before (timed.trans led')).mem
    exact renewal_write ⟨event, mem, ⟨response.text, identifier, now⟩, nonce,
      ⟨_, _, answers, rfl, assigned⟩, rfl⟩
  refine Meets.bind ((Vault.gains_store ruled).mono ?_)
  rintro stored (error | _) ⟨led', written⟩
  · exact ⟨(reached.trans timed).trans led', nofun⟩
  have gained := (written rfl).after (reached.trans timed)
  exact (gained.keeps (ready.leads gained.leads) (keeps_issued response)).mono fun last _ gained =>
    ⟨gained.leads, fun _ => gained.mono fun _ => fills_of_write⟩

/-- A registration is there afterwards, unless anything fails. -/
theorem renewal_ensureRegistered :
    session.ensureRegistered.Meets (session.renewing key isPublic) (fun last result =>
      stretch.Leads last ∧ (result = .ok () → Gains (session.Fills .deviceIdentity) stretch last))
      stretch := by
  have looked : session.isDeviceRegistered.Meets (session.renewing key isPublic)
      (fun last result => stretch.Leads last ∧ (result = .ok true →
        Gains (session.Fills .deviceIdentity) stretch last)) stretch := by
    refine Meets.bind ((Vault.gains_readable .deviceIdentity stretch).mono ?_)
    rintro last (error | (_ | identity)) ⟨led, found⟩
    · exact ⟨led, nofun⟩
    · exact ⟨led, nofun⟩
    · exact ⟨led, fun _ => (found identity rfl).mono fun _ => fills_of_found⟩
  refine Meets.bind (looked.mono ?_)
  rintro last (error | registered) ⟨led, found⟩
  · exact ⟨led, nofun⟩
  cases registered with
  | true => exact ⟨led, fun _ => found rfl⟩
  | false =>
  refine Meets.ask nofun fun credential _ => ?_
  have asked := led.trans (last.leads_add .user rfl credential)
  split
  · exact ⟨asked, nofun⟩
  · exact (renewal_register (ready.leads asked) credential).mono fun _ _ ⟨led', gained⟩ =>
      ⟨asked.trans led', fun done => (gained done).after asked⟩

end

section

variable {grant : TokenGrant} (granted : ∃ event ∈ stretch.since, event.Grants grant)

include granted

/-- Storing what was granted. -/
theorem renewal_setAccessToken (now : Int64) :
    (session.setAccessToken (.expiringIn grant.accessToken now grant.expiresIn
      grant.scope)).Meets (session.renewing key isPublic) (fun last result =>
        stretch.Leads last ∧ (result = .ok () → Gains (session.Fills .accessToken) stretch last))
      stretch := by
  refine Meets.bind ((Vault.gains_store fun last led nonce => ?_).mono ?_)
  · obtain ⟨event, mem, grants⟩ := granted
    exact renewal_write ⟨event, led.mem mem, grant, now, nonce, grants, rfl⟩
  · rintro last (error | _) ⟨led, written⟩
    · exact ⟨led, nofun⟩
    refine Meets.ask nofun fun _ _ => ?_
    have gained := (written rfl).before (last.leads_add (.cacheUser none) rfl ())
    exact ⟨gained.leads, fun _ => gained.mono fun _ => fills_of_write⟩

/-- **What was granted** is stored, unless anything fails. -/
theorem renewal_acceptGrant (ready : session.Ready stretch) :
    (session.acceptGrant grant).Meets (session.renewing key isPublic) (fun last result =>
      stretch.Leads last ∧ ∀ token, result = .ok token →
        Gains (session.Fills .accessToken) stretch last) stretch := by
  have elements : session.Elements ((session.renewing key isPublic).Keeps session.Ready Leads) :=
    renewal_elements Ready.leads
  dsimp only [acceptGrant]
  have reflexive := Leads.refl stretch
  split
  -- An identity token is accepted first, and the rest is the same.
  case' h_1 =>
    refine Watch.Keeps.bind (elements.acceptIssuedIdToken _ _) ready (fun _ _ _ led => ⟨led, nofun⟩)
      fun accepted _ ready reflexive => ?_
  all_goals
    refine Watch.Keeps.bind elements.seconds ready
      (fun _ _ _ led => ⟨reflexive.trans led, nofun⟩) fun timed now ready led => ?_
    have reached := reflexive.trans led
    obtain ⟨event, mem, grants⟩ := granted
    refine Meets.bind ((renewal_setAccessToken ⟨event, reached.mem mem, grants⟩ now).mono ?_)
    rintro stored (error | _) ⟨more, filled⟩
    · exact ⟨reached.trans more, nofun⟩
    refine (Gains.keeps ((filled rfl).after reached) (ready.leads more) ?_).mono
      fun _ _ gained => ⟨gained.leads, fun _ _ => gained⟩
    split
    · exact elements.bind (elements.setRefreshToken _) fun _ =>
        elements.bind elements.dropConnection fun _ => elements.pure _
    · exact elements.bind elements.dropConnection fun _ => elements.pure _

end

/-! ### Grants -/

section

variable {params : Form.Params} {presented : Presented}
  (ready : session.Ready stretch) (ruled : ∀ last request, stretch.Leads last →
    session.Carries request params → session.grantRule key last request presented)

include ready ruled

/-- **A grant** that may be asked for stores an access token, unless it fails. -/
theorem renewal_grant (client : ClientCredential) :
    (session.grant client presented params).Meets (session.renewing key isPublic)
      (fun last result => stretch.Leads last ∧ ∀ token, result = .ok token →
        Gains (session.Fills .accessToken) stretch last) stretch := by
  refine Vault.meets_sendDecorated Ready.leads ready (by nofun) ?ruled
    (fun _ _ led => ⟨led, nofun⟩) fun last request response kept led answered => Meets.bind ?_
  case ruled => exact fun last _ request _ led same => ruled last request led same
  cases parsed : TokenGrant.ofBody response.body with
  | error error => exact ⟨led, nofun⟩
  | ok grant =>
  obtain ⟨event, mem, answers⟩ := answered.mem
  exact (renewal_acceptGrant ⟨event, mem, presented, request, response, answers, parsed⟩
    kept).mono fun _ _ ⟨more, gained⟩ =>
      ⟨led.trans more, fun token done => (gained token done).after led⟩

theorem renewal_tryGrant (client : ClientCredential) :
    (session.tryGrant client presented params).Meets (session.renewing key isPublic)
      (fun last result => stretch.Leads last ∧ ∀ token, result = .ok (some token) →
        Gains (session.Fills .accessToken) stretch last) stretch := by
  refine Meets.rescue ((renewal_grant ready ruled client).mono ?_)
  rintro last (error | token) ⟨led, gained⟩
  · simp only
    split
    · exact ⟨led, nofun⟩
    · exact ⟨led, nofun⟩
  · exact ⟨led, fun _ _ => gained token rfl⟩

end

section

variable (ready : session.Ready stretch) (client : ClientCredential)

include ready

/-- **The refresh token** that is presented was found after the last one was gone. -/
theorem renewal_grantByRefreshToken :
    (session.grantByRefreshToken client).Meets (session.renewing key isPublic)
      (fun last result => stretch.Leads last ∧ ∀ token, result = .ok (some token) →
        Gains (session.Fills .accessToken) stretch last) stretch := by
  refine Meets.bind ((Vault.gains_takeRefreshToken stretch).mono ?_)
  rintro taken (error | (_ | token)) ⟨led, found⟩
  · exact ⟨led, nofun⟩
  · exact ⟨led, nofun⟩
  have fresh := fresh_of_gains
    (fun refused => (ready.gone refused).1 .refreshToken (by simp [dropped])) (found token rfl)
  have ruled (last : Stretch) (request : Request) (more : taken.Leads last)
      (carries : session.Carries request (refreshParams token)) :
      session.grantRule key last request .refreshToken := ⟨token, carries, fresh.leads more⟩
  exact (renewal_tryGrant (ready.leads led) ruled client).mono fun _ _ ⟨more, gained⟩ =>
    ⟨led.trans more, fun granted done => (gained granted done).after led⟩

/-- **The identity token** that is presented was found after the last one was gone. -/
theorem renewal_grantByIdToken :
    (session.grantByIdToken client).Meets (session.renewing key isPublic)
      (fun last result => stretch.Leads last ∧ ∀ token, result = .ok (some token) →
        Gains (session.Fills .accessToken) stretch last) stretch := by
  have looked : session.idToken.Meets (session.renewing key isPublic) (fun last result =>
      stretch.Leads last ∧ ∀ token, result = .ok (some token) →
        Gains (session.vault.Found key .idToken token) stretch last) stretch := by
    unfold idToken
    split
    · exact Vault.gains_readable .idToken stretch
    · exact ⟨.refl stretch, nofun⟩
  refine Meets.bind (looked.mono ?_)
  rintro read (error | (_ | token)) ⟨led, found⟩
  · exact ⟨led, nofun⟩
  · exact ⟨led, nofun⟩
  have fresh := fresh_of_gains (fun refused => (ready.gone refused).1 .idToken (by simp [dropped]))
    (found token rfl)
  have ruled (last : Stretch) (request : Request) (more : read.Leads last)
      (carries : session.Carries request (assertionParams token)) :
      session.grantRule key last request .idToken := ⟨token, carries, fresh.leads more⟩
  refine Meets.bind ((renewal_tryGrant (ready.leads led) ruled client).mono ?_)
  rintro tried (error | (_ | granted)) ⟨more, gained⟩
  · exact ⟨led.trans more, nofun⟩
  · refine Meets.bind ((Vault.gains_clear .idToken tried).mono ?_)
    rintro last (error | _) ⟨cleared, -⟩
    · exact ⟨(led.trans more).trans cleared, nofun⟩
    · exact ⟨(led.trans more).trans cleared, nofun⟩
  · exact ⟨led.trans more, fun _ _ => (gained granted rfl).after led⟩

/-- **The user's credential** that is presented was found after the last one was dropped. -/
theorem renewal_grantByUser :
    (session.grantByUser client).Meets (session.renewing key isPublic) (fun last result =>
      stretch.Leads last ∧ ∀ token, result = .ok token →
        Gains (session.Fills .accessToken) stretch last) stretch := by
  refine Meets.ask nofun fun cached _ => ?_
  have led := stretch.leads_add .user rfl cached
  cases cached with
  | none => exact ⟨led, nofun⟩
  | some credential =>
  have found : Gains (· = ⟨.user, some credential⟩) stretch (stretch.add .user (some credential)) :=
    stretch.gains_add .user rfl rfl
  have fresh := fresh_of_gains (fun refused => (ready.gone refused).2) found
  have ruled (last : Stretch) (request : Request)
      (more : (stretch.add .user (some credential)).Leads last)
      (carries : session.Carries request credential.grantParams) :
      session.grantRule key last request .userCredential := ⟨credential, carries, fresh.leads more⟩
  exact (renewal_grant (ready.leads led) ruled client).mono fun _ _ ⟨more, gained⟩ =>
    ⟨led.trans more, fun token done => (gained token done).after led⟩

/-- **A valid access token** was found, or it was granted and stored. -/
theorem renewal_ensureAccessToken :
    session.ensureAccessToken.Meets (session.renewing key isPublic) (fun last result =>
      stretch.Leads last ∧ ∀ token, result = .ok token →
        Gains (session.Fills .accessToken) stretch last) stretch := by
  have elements : session.Elements ((session.renewing key isPublic).Keeps session.Ready Leads) :=
    renewal_elements Ready.leads
  have looked : session.validAccessToken.Meets (session.renewing key isPublic)
      (fun last result => stretch.Leads last ∧ ∀ token, result = .ok (some token) →
        Gains (session.Fills .accessToken) stretch last) stretch := by
    refine Meets.bind ((Vault.gains_readable .accessToken stretch).mono ?_)
    rintro read (error | (_ | token)) ⟨led, found⟩
    · exact ⟨led, nofun⟩
    · exact ⟨led, nofun⟩
    have gained := (found token rfl).mono fun _ => fills_of_found
    exact Watch.Keeps.bind elements.seconds (ready.leads led)
      (fun _ _ _ more => ⟨led.trans more, nofun⟩)
      fun _ _ _ more => ⟨led.trans more, fun _ _ => gained.before more⟩
  refine Meets.bind (looked.mono ?_)
  rintro read (error | (_ | token)) ⟨led, found⟩
  · exact ⟨led, nofun⟩
  · refine Watch.Keeps.bind elements.ensureClientCredential (ready.leads led)
      (fun _ _ _ more => ⟨led.trans more, nofun⟩) fun named client ready more => ?_
    have reached := led.trans more
    refine Meets.bind ((renewal_grantByRefreshToken ready client).mono ?_)
    rintro refreshed (error | (_ | token)) ⟨more, gained⟩
    · exact ⟨reached.trans more, nofun⟩
    · have reached := reached.trans more
      refine Meets.bind ((renewal_grantByIdToken (ready.leads more) client).mono ?_)
      rintro asserted (error | (_ | token)) ⟨more', gained⟩
      · exact ⟨reached.trans more', nofun⟩
      · have reached := reached.trans more'
        exact (renewal_grantByUser ((ready.leads more).leads more') client).mono
          fun _ _ ⟨more, gained⟩ =>
            ⟨reached.trans more, fun token done => (gained token done).after reached⟩
      · exact ⟨reached.trans more', fun _ _ => (gained token rfl).after reached⟩
    · exact ⟨reached.trans more, fun _ _ => (gained token rfl).after reached⟩
  · exact ⟨led, fun _ _ => found token rfl⟩

/-- **Preparing a request** finds or stores a registration, and an access token unless the request
is public. -/
theorem renewal_prepare (ctx : Context) :
    (session.prepare ctx).Meets (session.renewing key isPublic) (fun last result =>
      stretch.Leads last ∧ ∀ request, result = .ok request →
        Gains (session.Fills .deviceIdentity) stretch last ∧
          (ctx.request.isPublic = false → Gains (session.Fills .accessToken) stretch last))
      stretch := by
  have elements : session.Elements ((session.renewing key isPublic).Keeps session.Ready Leads) :=
    renewal_elements Ready.leads
  refine Meets.bind ((renewal_ensureRegistered ready).mono ?_)
  rintro registered (error | _) ⟨led, device⟩
  · exact ⟨led, nofun⟩
  refine Watch.Keeps.bind elements.ensureClientCredential (ready.leads led)
    (fun _ _ _ more => ⟨led.trans more, nofun⟩) fun named _ ready more => ?_
  have reached := led.trans more
  have device := (device rfl).before more
  have token : (session.tokenFor ctx.request).Meets (session.renewing key isPublic)
      (fun last result => named.Leads last ∧ ∀ token, result = .ok token →
        ctx.request.isPublic = false → Gains (session.Fills .accessToken) named last) named := by
    unfold tokenFor
    split
    next isPublic => exact ⟨.refl named, fun _ _ isPrivate => nomatch isPublic.symm.trans isPrivate⟩
    · refine Meets.bind ((renewal_ensureAccessToken ready).mono ?_)
      rintro last (error | token) ⟨led, gained⟩
      · exact ⟨led, nofun⟩
      · exact ⟨led, fun _ _ _ => gained token rfl⟩
  refine Meets.bind (token.mono ?_)
  rintro last (error | token) ⟨more, gained⟩
  · exact ⟨reached.trans more, nofun⟩
  refine Watch.Keeps.bind (elements.deviceHeaders _) (ready.leads more)
    (fun _ _ _ more' => ⟨(reached.trans more).trans more', nofun⟩) fun _ _ _ more' => ?_
  exact ⟨(reached.trans more).trans more', fun _ _ => ⟨(device.before more).before more',
    fun isPrivate => ((gained token rfl isPrivate).after reached).before more'⟩⟩

end

end Session

end GatewaySession
