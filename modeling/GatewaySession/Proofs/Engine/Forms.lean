import GatewaySession.Proofs.Engine.Timeline
import GatewaySession.Proofs.Exchange.Rejection
import GatewaySession.Proofs.Gateway.Form
import GatewaySession.Proofs.Program.Past
import GatewaySession.Proofs.Session.Impersonal
import GatewaySession.Proofs.Session.Letters

/-!
# What the forms say

A session sends forms for four purposes: to have client credentials provisioned, to register the
device, to have an access token granted, and to have an identity token revoked. What a form says is
a list of names and values, and some of the values come from elsewhere: an identifier that was
drawn, the credential that is cached for the user, a token that is stored. Whatever these are, they
can neither end a value nor begin another pair, so the gateway reads from the body the list that it
was made of.

The list is known from what has happened before: what was drawn, cached or read last is what the
form says. Between that and the request, a session looks at the registration of the device and
makes a connection. Before a revocation it looks the client credential up as well, and before a
registration it may have one provisioned. None of this touches what the form is about to say.

## Main definitions

* `Purpose.isForm` — the purposes of forms
* `Session.Tells` — what a request of a purpose says, given what has happened
* `Session.Spells` — programs that send forms that say so
* `Session.FormsDecode` — every form is read as it was meant

## Main results

* `Session.Tells.append` — what is said does not change while a connection is made
* `Session.Tells.unique` — what is said is determined by what has happened
* `Session.ways_spells`, `Session.affairs_spells` — everything a session does
* `Session.forms_decode` — forms cannot be injected
-/

namespace GatewaySession

open Program (Closed Ends LastGave Meets Performs)

/-- Whether the requests of a purpose are forms. -/
def Purpose.isForm : Purpose → Bool
  | .provisioning | .registration | .grant _ | .revocation => true
  | .caller _ | .asIs | .otpDelivery | .removal => false

/-! ### Looking at slots -/

namespace Vault

variable (vault : Vault)

/-- Reading a slot fetches its record once. -/
theorem beginsOnce_read {α : Type} [Record α] (slot : Slot) :
    (vault.read slot : Program (Option α)).BeginsOnce := by
  have keyed (blob : Bytes) : (do
      let plaintext ← vault.unsealed blob
      return some (← .ofExcept (recordOf slot plaintext)) : Program (Option α)).Performs
      (· = .sealingKey vault.name) :=
    .bind (performs_unsealed (by rfl) blob) fun _ => .bind trivial fun _ => trivial
  rintro _ result ⟨reply, rest, rfl, ends⟩ event mem same
  have inside : ∀ event ∈ rest, event.effect = .sealingKey vault.name := by
    cases reply with
    | error error =>
      obtain ⟨rfl, -⟩ := ends
      exact List.forall_mem_nil _
    | ok found =>
      cases found with
      | none =>
        obtain ⟨rfl, -⟩ := ends
        exact List.forall_mem_nil _
      | some blob => exact (keyed blob).ends ends
  rw [inside event mem] at same
  cases same

variable {vault}

/-- Taking the refresh token out is a look at its slot and a removal. -/
theorem ends_takeRefreshToken {token : String} {events : List Event}
    (ends : vault.takeRefreshToken.Ends events (.ok (some token))) :
    ∃ looking removing, events = ⟨.hold, ()⟩ :: (looking ++ removing ++ [⟨.release, ()⟩]) ∧
      vault.refreshToken.Ends looking (.ok (some token)) ∧
        ∀ event ∈ removing, event.effect = .remove (vault.keyFor .refreshToken) := by
  obtain ⟨within, rfl, inside⟩ := Ends.of_guarded ends
  obtain ⟨found, looking, removing, rfl, looked, goes⟩ := Ends.of_rescue inside
  have removes : (vault.remove .refreshToken).Performs
      (· = .remove (vault.keyFor .refreshToken)) := performs_remove rfl
  split at goes
  · obtain ⟨-, same⟩ := goes
    cases same
  · obtain ⟨_, -, same⟩ | ⟨_, gone, _, rfl, removed, rfl, same⟩ := Ends.of_bind goes
    · cases same
    · cases same
      rw [List.append_nil]
      exact ⟨looking, gone, rfl, looked, removes.ends removed⟩
  · obtain ⟨_, -, same⟩ | ⟨_, _, _, -, -, -, same⟩ := Ends.of_bind goes
    · cases same
    · cases same
  · obtain ⟨-, same⟩ := goes
    cases same

end Vault

namespace Session

section

variable (session : Session)

/-! ### What is said -/

/-- What every grant says besides what it presents: the scope, and the redirect URI if there is
one. -/
def sharedParams : Form.Params :=
  ("scope", session.settings.scope) :: match session.settings.redirectUri with
    | some uri => [("redirect_uri", uri)]
    | none => []

/-- What a request of a purpose says, given what has happened. A device that is registered without a
user has nothing to say. -/
inductive Tells (past : List Event) : Purpose → Option Form.Params → Prop where
  /-- Client credentials are asked for with the client id and what was drawn. -/
  | provisioning {nonce : String}
      (drawn : (Program.ask .identifier : Program String).LastGave nonce past) :
      Tells past .provisioning (some [("client_id", session.settings.clientId), ("nonce", nonce)])
  /-- A registration says what the user's credential says. -/
  | registration {credential : Option UserCredential}
      (cached : Program.user.LastGave credential past) :
      Tells past .registration (credential.map UserCredential.registrationParams)
  /-- A refresh token is presented. -/
  | refreshToken {token : String} (found : session.vault.refreshToken.LastGave (some token) past) :
      Tells past (.grant .refreshToken)
        (some ([("grant_type", "refresh_token"), ("refresh_token", token)] ++ session.sharedParams))
  /-- An identity token is presented. -/
  | idToken {token : IdToken} (found : session.vault.idToken.LastGave (some token) past) :
      Tells past (.grant .idToken)
        (some ([("grant_type", token.type), ("assertion", token.value)] ++ session.sharedParams))
  /-- The user's credential is presented. -/
  | userCredential {credential : UserCredential}
      (cached : Program.user.LastGave (some credential) past) :
      Tells past (.grant .userCredential) (some (credential.grantParams ++ session.sharedParams))
  /-- An identity token is revoked, for all applications. -/
  | revocation {token : IdToken} (found : session.vault.idToken.LastGave (some token) past) :
      Tells past .revocation (some
        [("logout_apps", "true"), ("id_token", token.value), ("id_token_type", token.type)])

/-- Whether a request says what its purpose asks for, if it is a form. -/
def IsSpelled (past : List Event) (purpose : Purpose) (request : Request) : Prop :=
  purpose.isForm = true →
    ∃ said, session.Tells past purpose said ∧ request.body = said.map Form.encode

/-- The watch that permits forms that say what they are meant to. -/
def spelling : Watch (List Event) := .ofPast fun past => Effect.Sends (session.IsSpelled past)

/-- Whether the forms that a program sends say what they are meant to. -/
abbrev Spells : (α : Type) → Program α → Prop :=
  session.spelling.Keeps (fun _ => True) fun _ _ => True

/-! ### Looking at the registration and making a connection -/

/-- What a session does between learning what a request says and sending it. -/
def Connecting : Effect → Prop
  | .read name | .remove name => name = session.vault.keyFor .deviceIdentity
  | .sealingKey _ | .hold | .release | .connection | .cacheConnection _ | .connect _ => True
  | _ => False

theorem connecting_deviceIdentity : session.deviceIdentity.Performs session.Connecting :=
  performs_readable trivial trivial trivial rfl rfl

theorem connecting_connection : session.connection.Performs session.Connecting :=
  performs_connection session.connecting_deviceIdentity trivial (fun _ => trivial) fun _ => trivial

end

variable {session : Session} {α : Type} {past : List Event} {purpose : Purpose}
  {request : Request} {said : Option Form.Params}

theorem grantParams_eq (params : Form.Params) :
    session.grantParams params = params ++ session.sharedParams := by
  rw [grantParams, sharedParams]
  cases session.settings.redirectUri with
  | none => rfl
  | some uri => rfl

theorem not_connecting_read {slot : Slot} (other : slot ≠ .deviceIdentity) :
    ¬session.Connecting (.read (session.vault.keyFor slot)) :=
  session.vault.keyFor_ne other

/-- **What is said does not change** while a connection is made. -/
theorem Tells.append (tells : session.Tells past purpose said) {path : List Event}
    (connecting : ∀ event ∈ path, session.Connecting event.effect) :
    session.Tells (past ++ path) purpose said := by
  cases tells with
  | provisioning drawn => exact .provisioning (drawn.append rfl connecting id)
  | registration cached => exact .registration (cached.append rfl connecting id)
  | refreshToken found =>
    exact .refreshToken (found.append rfl connecting (not_connecting_read (by decide)))
  | idToken found => exact .idToken (found.append rfl connecting (not_connecting_read (by decide)))
  | userCredential cached => exact .userCredential (cached.append rfl connecting id)
  | revocation found =>
    exact .revocation (found.append rfl connecting (not_connecting_read (by decide)))

/-- **What is said is determined** by what has happened. -/
theorem Tells.unique {other : Option Form.Params} (tells : session.Tells past purpose said)
    (tells' : session.Tells past purpose other) : said = other := by
  have user {credential credential' : Option UserCredential}
      (cached : Program.user.LastGave credential past)
      (cached' : Program.user.LastGave credential' past) : credential = credential' :=
    cached.unique (Program.beginsOnce_ask .user) cached'
  have assertion {token token' : IdToken}
      (found : session.vault.idToken.LastGave (some token) past)
      (found' : session.vault.idToken.LastGave (some token') past) : token = token' :=
    Option.some.inj (found.unique (session.vault.beginsOnce_read .idToken) found')
  cases tells with
  | provisioning drawn =>
    cases tells' with
    | provisioning drawn' => rw [drawn.unique (Program.beginsOnce_ask .identifier) drawn']
  | registration cached =>
    cases tells' with
    | registration cached' => rw [user cached cached']
  | refreshToken found =>
    cases tells' with
    | refreshToken found' =>
      rw [Option.some.inj (found.unique (session.vault.beginsOnce_read .refreshToken) found')]
  | idToken found =>
    cases tells' with
    | idToken found' => rw [assertion found found']
  | userCredential cached =>
    cases tells' with
    | userCredential cached' => rw [Option.some.inj (user cached cached')]
  | revocation found =>
    cases tells' with
    | revocation found' => rw [assertion found found']

/-! ### Programs that send forms -/

theorem closed_spells : Closed session.Spells :=
  Watch.closed_keeps (fun _ => trivial) (fun _ _ => trivial) fun plain _ =>
    ⟨Effect.sends_of_isPlain plain, fun _ => ⟨trivial, trivial⟩⟩

theorem Spells.of_meets {program : Program α}
    (h : ∀ past, program.Meets session.spelling (fun _ _ => True) past) :
    session.Spells α program :=
  fun past _ => (h past).mono fun _ _ _ => ⟨trivial, trivial⟩

theorem Spells.meets {program : Program α} (h : session.Spells α program) (past : List Event) :
    program.Meets session.spelling (fun _ _ => True) past :=
  (h past trivial).mono fun _ _ _ => trivial

/-- A program that sends no forms. -/
theorem Spells.of_writes {program : Program α}
    (writes : program.Performs (Effect.Sends fun purpose _ => purpose.isForm = false)) :
    session.Spells α program := by
  refine .of_meets fun past => Meets.mono (Meets.transfer (fun _ _ => True) ?permits
    (fun _ _ => trivial) (fun _ _ _ => trivial) trivial writes) fun _ _ _ => trivial
  case permits =>
    intro _ past effect _ sends
    cases effect with
    | send connection purpose request =>
      exact fun isForm => Bool.noConfusion (sends.symm.trans isForm)
    | _ => trivial

/-- What a program does along the way that performs certain effects only. -/
theorem Spells.path {program : Program α} {own : Effect → Prop} (h : session.Spells α program)
    (performs : program.Performs own) (past : List Event) :
    program.Meets session.spelling (fun last _ =>
      ∃ path, last = past ++ path ∧ ∀ event ∈ path, own event.effect) past := by
  refine (h.meets past).path.mono ?_
  rintro last result ⟨-, path, rfl, ends⟩
  exact ⟨path, rfl, performs.ends ends⟩

/-! ### Sending -/

/-- **A form is sent** that says what it is meant to. -/
theorem meets_sendChecked (tells : session.Tells past purpose said)
    (body : request.body = said.map Form.encode) :
    (session.sendChecked purpose request).Meets session.spelling (fun _ _ => True) past := by
  have sent : (session.send purpose request).Meets session.spelling (fun _ _ => True) past := by
    refine ((Spells.of_writes writes_connection).path session.connecting_connection past).follow ?_
    rintro _ connection ⟨path, rfl, connecting⟩
    exact ⟨fun _ => ⟨said, tells.append connecting, body⟩, fun _ _ => trivial⟩
  exact sent.follow fun _ _ _ => trivial

/-- The device headers leave what a form says alone. -/
theorem meets_headed (tells : session.Tells past purpose said)
    (body : request.body = said.map Form.encode) {f : Response → Program α}
    (quiet : ∀ response, session.Spells α (f response)) :
    (session.withDeviceHeaders request >>= fun decorated =>
      session.sendChecked purpose decorated >>= f).Meets session.spelling (fun _ _ => True)
        past := by
  rw [withDeviceHeaders_eq, bind_assoc]
  refine ((Spells.of_writes writes_deviceIdentity).path
    session.connecting_deviceIdentity past).follow ?_
  rintro _ registration ⟨path, rfl, connecting⟩
  have same : (session.headed request registration).body = request.body := by
    cases registration with
    | none => rfl
    | some identity => rfl
  rw [pure_bind]
  exact (meets_sendChecked (tells.append connecting) (same.trans body)).follow
    fun last response _ => (quiet response).meets last

/-- A request that is no form may be sent. -/
theorem spells_send (noForm : purpose.isForm = false) (request : Request) :
    session.Spells _ (session.send purpose request) :=
  .of_writes (writes_connection.bind fun _ => ⟨noForm, fun _ _ => trivial⟩)

theorem spells_sendOwn (noForm : purpose.isForm = false) (request : Request) :
    session.Spells _ (Engine.sendOwn session purpose request) :=
  closed_spells.bind (closed_spells.withDeviceHeaders (.of_writes writes_deviceIdentity) _)
    fun _ => closed_spells.bind (closed_spells.bind (spells_send noForm _) fun _ =>
      closed_spells.ofExcept _) fun _ => closed_spells.pure _

/-! ### Client credentials and registration -/

theorem spells_provision : session.Spells _ session.provision := by
  have kept (grant : ClientGrant) : session.Spells _ (do
      session.setClientCredential grant.credential
      return grant.credential) :=
    closed_spells.bind (.of_writes (Vault.writes_store _ _)) fun _ => closed_spells.pure _
  refine .of_meets fun past => Meets.ask trivial fun nonce _ => ?_
  have told := meets_sendChecked (.provisioning (.of_ask .identifier nonce past))
    (rfl : (session.provisionRequest nonce).body = _)
  exact told.follow fun last _ _ =>
    (closed_spells.bind (closed_spells.ofExcept _) kept).meets last

theorem spells_ensureClientCredential : session.Spells _ session.ensureClientCredential := by
  rw [ensureClientCredential]
  split
  · exact .of_writes writes_clientCredential
  · refine closed_spells.bind (closed_spells.storedClientCredential
      (.of_writes (Vault.writes_clear _))) fun credential => ?_
    cases credential with
    | none => exact spells_provision
    | some credential => exact closed_spells.pure _

/-- **A registration** says what the credential says that was cached for the user. -/
theorem meets_register {credential : Option UserCredential}
    (cached : Program.user.LastGave credential past) :
    (session.register credential).Meets session.spelling (fun _ _ => True) past := by
  -- Client credentials may have to be provisioned first, but nobody looks at the user meanwhile.
  refine (spells_ensureClientCredential.path
    session.impersonal_ensureClientCredential past).follow ?_
  rintro _ client ⟨path, rfl, impersonal⟩
  have body : (session.registrationRequest client credential).body =
      (credential.map UserCredential.registrationParams).map Form.encode := by
    cases credential with
    | none => rfl
    | some credential => rfl
  refine (meets_sendChecked (.registration (cached.append rfl impersonal id)) body).follow
    fun last response _ => ?_
  refine Spells.meets (closed_spells.bind (closed_spells.ofExcept _) fun identifier =>
    closed_spells.bind (closed_spells.ask .time trivial) fun now =>
    closed_spells.bind (.of_writes (Vault.writes_store _ _)) fun _ =>
    closed_spells.bind closed_spells.dropConnection fun _ => ?_) last
  split
  · exact .of_writes (writes_acceptIssuedIdToken _ _)
  · exact closed_spells.pure _

theorem spells_ensureRegistered : session.Spells _ session.ensureRegistered := by
  refine closed_spells.bind (closed_spells.isDeviceRegistered
    (.of_writes writes_deviceIdentity)) fun registered => ?_
  split
  · exact closed_spells.pure _
  · refine .of_meets fun past => Meets.ask trivial fun credential _ => ?_
    split
    · trivial
    · exact meets_register (.of_ask .user credential past)

/-! ### Grants -/

section

variable {presented : Presented} {params : Form.Params}
  (tells : session.Tells past (.grant presented) (some (params ++ session.sharedParams)))

include tells

/-- **A grant** says what is presented, and what every grant says. -/
theorem meets_grant (client : ClientCredential) :
    (session.grant client presented params).Meets session.spelling (fun _ _ => True) past :=
  meets_headed tells (congrArg (some ∘ Form.encode) (grantParams_eq params)) fun _ =>
    closed_spells.bind (closed_spells.ofExcept _) fun grant =>
      .of_writes (writes_acceptGrant grant)

theorem meets_tryGrant (client : ClientCredential) :
    (session.tryGrant client presented params).Meets session.spelling (fun _ _ => True) past := by
  refine Meets.rescue ((meets_grant tells client).mono fun last result _ => ?_)
  split
  · trivial
  · split
    · trivial
    · trivial

end

/-- The refresh token that is taken out is the one that was read. -/
theorem lastGave_of_takeRefreshToken {token : String} {events : List Event}
    (ends : session.takeRefreshToken.Ends events (.ok (some token))) (past : List Event) :
    session.vault.refreshToken.LastGave (some token) (past ++ events) := by
  obtain ⟨result, taking, late, rfl, taken, yields⟩ := Ends.of_rescue ends
  have yielded : late = [] ∧ result = .ok (some token) := by
    split at yields
    · obtain ⟨-, same⟩ := yields
      cases same
    · exact yields
  obtain ⟨rfl, rfl⟩ := yielded
  obtain ⟨looking, removing, rfl, looked, removed⟩ := Vault.ends_takeRefreshToken taken
  -- The look at the slot is followed by the removal and the release of the store.
  have others : ∀ event ∈ removing ++ [⟨.release, ()⟩],
      session.vault.refreshToken.first? ≠ some event.effect := by
    refine List.forall_mem_append.2 ⟨fun event mem same => ?_, List.forall_mem_singleton.2 ?_⟩
    · rw [removed event mem] at same
      cases same
    · intro same
      cases same
  have parts : past ++ (⟨.hold, ()⟩ :: (looking ++ removing ++ [⟨.release, ()⟩]) ++ []) =
      (past ++ [⟨.hold, ()⟩]) ++ (looking ++ (removing ++ [⟨.release, ()⟩])) := by simp
  rw [parts]
  exact looked.lastGave _ others

/-- The identity token that is found is the one that was read. -/
theorem lastGave_of_idToken {token : IdToken} {events : List Event}
    (ends : session.idToken.Ends events (.ok (some token))) (past : List Event) :
    session.vault.idToken.LastGave (some token) (past ++ events) := by
  unfold Session.idToken at ends
  split at ends
  · obtain ⟨result, reading, late, rfl, read, yields⟩ := Ends.of_rescue ends
    split at yields
    · obtain ⟨_, _, _, rfl, -, -, same⟩ := Ends.of_rescue yields
      cases same
    · obtain ⟨rfl, rfl⟩ := yields
      exact read.lastGave past (List.forall_mem_nil _)
  · obtain ⟨-, same⟩ := ends
    cases same

theorem spells_takeRefreshToken : session.Spells _ session.takeRefreshToken :=
  closed_spells.takeRefreshToken (.of_writes (.ask trivial)) (.of_writes (.ask trivial))
    (.of_writes (Vault.writes_remove _))

theorem spells_grantByRefreshToken (client : ClientCredential) :
    session.Spells _ (session.grantByRefreshToken client) := by
  refine .of_meets fun past => (spells_takeRefreshToken.meets past).path.follow ?_
  rintro _ (_ | token) ⟨-, path, rfl, ends⟩
  · trivial
  · exact meets_tryGrant (.refreshToken (lastGave_of_takeRefreshToken ends past)) client

theorem spells_grantByIdToken (client : ClientCredential) :
    session.Spells _ (session.grantByIdToken client) := by
  have looked : session.Spells _ session.idToken := .of_writes writes_idToken
  refine .of_meets fun past => (looked.meets past).path.follow ?_
  rintro _ (_ | token) ⟨-, path, rfl, ends⟩
  · trivial
  · refine (meets_tryGrant (.idToken (lastGave_of_idToken ends past)) client).follow ?_
    rintro last (_ | granted) -
    · have cleared : session.Spells _ session.clearIdToken := .of_writes (Vault.writes_clear _)
      exact (cleared.meets last).follow fun _ _ _ => trivial
    · trivial

theorem spells_grantByUser (client : ClientCredential) :
    session.Spells _ (session.grantByUser client) := by
  refine .of_meets fun past => Meets.ask trivial ?_
  rintro (_ | credential) -
  · trivial
  · exact meets_grant (.userCredential (.of_ask .user (some credential) past)) client

/-! ### Revocation -/

/-- **A revocation** names the identity token that was read. -/
theorem spells_revokeIdToken : session.Spells _ (Engine.revokeIdToken session) := by
  have looked : session.Spells _ session.idToken := .of_writes writes_idToken
  refine .of_meets fun past => (looked.meets past).path.follow ?_
  rintro _ (_ | token) ⟨-, path, rfl, ends⟩
  · trivial
  -- The token is known, and the client credential is looked up before it is sent.
  have found := lastGave_of_idToken ends past
  refine ((Spells.of_writes writes_clientCredential).path
    session.performs_clientCredential _).follow ?_
  rintro _ client ⟨_, rfl, looking⟩
  have other : ¬session.Looking (.read (session.vault.keyFor .idToken)) :=
    session.vault.keyFor_ne (by decide)
  exact meets_headed (.revocation (found.append rfl looking other)) rfl
    fun _ => closed_spells.pure _

/-! ### Everything a session does -/

/-- **The ways to a token** send forms that say what they are meant to. -/
theorem ways_spells : session.Ways session.Spells where
  toFormed := closed_spells.toFormed
  validAccessToken := closed_spells.validAccessToken (.of_writes (Vault.writes_clear _))
  ensureClientCredential := spells_ensureClientCredential
  grantByRefreshToken := spells_grantByRefreshToken
  grantByIdToken := spells_grantByIdToken
  grantByUser := spells_grantByUser

theorem stages_spells : session.Stages session.Spells where
  toWays := ways_spells
  clear _ := .of_writes (Vault.writes_clear _)
  ensureRegistered := spells_ensureRegistered

/-- **Everything a session does** sends forms that say what they are meant to. -/
theorem affairs_spells : session.Affairs session.Spells where
  toStages := stages_spells
  round := stages_spells.round (fun _ => spells_sendOwn rfl _) fun _ => spells_send rfl
  deliverOtp _ := spells_sendOwn rfl _
  revokeIdToken := spells_revokeIdToken
  removeDevice := by
    refine closed_spells.bind (closed_spells.isDeviceRegistered
      (.of_writes writes_deviceIdentity)) fun registered => ?_
    split
    · exact spells_sendOwn rfl _
    · exact closed_spells.pure _
  sendAsIs := spells_send rfl
  setAccessToken _ := closed_spells.bind (.of_writes (Vault.writes_store _ _)) fun _ =>
    closed_spells.dropUser
  setRefreshToken _ := .of_writes (Vault.writes_store _ _)
  takeRefreshToken := spells_takeRefreshToken
  acceptIdToken := closed_spells.acceptIdToken (.of_writes (Vault.writes_clear _)) fun _ =>
    .of_writes (Vault.writes_store _ _)
  setClientCredential _ := .of_writes (Vault.writes_store _ _)
  setConfiguredClientId _ := .of_writes (Vault.writes_store _ _)
  clearAll := closed_spells.clearAll (.of_writes (.ask trivial)) (.of_writes (.ask trivial))
    (.of_writes ⟨trivial, fun _ _ => trivial⟩) fun _ => .of_writes (Vault.writes_remove _)

/-- **Every errand** sends forms that say what they are meant to. -/
theorem Errand.spells {program : Program Unit} (errand : session.Errand program) :
    session.Spells _ program :=
  affairs_spells.errand (fun _ same => same ▸ .of_writes (Vault.writes_store _ _)) errand

/-! ### Reading the forms -/

/-- Whether every form that was sent says what was meant, and is read as just that: its body is made
of the names and values that are determined by what happened before, and decodes to them. -/
def FormsDecode (session : Session) (events : List Event) : Prop :=
  ∀ early connection purpose request reply late,
    events = early ++ ⟨.send connection purpose request, reply⟩ :: late → purpose.isForm = true →
      (∃ said, session.Tells early purpose said) ∧
        ∀ said, session.Tells early purpose said →
          request.body = said.map Form.encode ∧ request.body.map Form.decode = said

/-- **Forms cannot be injected.** The body of any list of names and values is a text that decodes to
this list. So whatever a session is asked for, and whatever it is answered, every form that it sends
decodes to the names and values that it was made of. -/
theorem forms_decode {program : Program Unit} (errand : session.Errand program)
    {events : List Event} {result : Except Error Unit} (ends : program.Ends events result) :
    (∀ params, ∃ text, Form.encode params = Utf8.encode text ∧
      Form.decode (Utf8.encode text) = params) ∧ session.FormsDecode events := by
  constructor
  case left =>
    intro params
    obtain ⟨text, same⟩ := Form.exists_encode_eq params
    exact ⟨text, same.symm, same ▸ Form.decode_encode params⟩
  case right =>
    intro early connection purpose request reply late split isForm
    have spelled := ((errand.spells.meets []).ends (fun _ _ => trivial) ends).2 _ _ _ split
    rw [spelling, Watch.markAfter_ofPast, List.nil_append] at spelled
    -- The watch knows of one list that was said, and there is no other.
    obtain ⟨said, tells, body⟩ := spelled isForm
    refine ⟨⟨said, tells⟩, fun other tells' => ?_⟩
    obtain rfl := tells.unique tells'
    refine ⟨body, ?_⟩
    rw [body, Option.map_map]
    cases said with
    | none => rfl
    | some params => exact congrArg some (Form.decode_encode params)

/-! #### A user who would inject -/

/-- A session whose grants name a redirect URI. -/
def redirecting : Session where
  settings := { Settings.make "gateway" "client" with
    clientSecret := some "secret", scope := "openid", redirectUri := some "app://back?a=1&b=2" }
  device := ⟨"device", "Device"⟩

/-- A credential that is full of what structures a form. -/
def injecting : UserCredential := .password "alice&grant_type=none" "50%+ é=\u20AC"

/-- Surroundings in which nothing is stored yet, a user is cached, and the gateway registers the
device and cannot be reached again. -/
def registering : (effect : Effect) → Unit → effect.Reply × Unit
  | .read _, _ => (.ok none, ())
  | .write _ _, _ => (.ok (), ())
  | .remove _, _ => (.ok (), ())
  | .list _, _ => (.ok [], ())
  | .sealingKey _, _ => (.ok (Vector.replicate 32 0), ())
  | .nonce, _ => (Vector.replicate 12 0, ())
  | .identifier, _ => ("", ())
  | .time, _ => (⟨0, 0⟩, ())
  | .hold, _ => ((), ())
  | .release, _ => ((), ())
  | .user, _ => (some injecting, ())
  | .cacheUser _, _ => ((), ())
  | .connection, _ => (none, ())
  | .cacheConnection _, _ => ((), ())
  | .connect _, _ => (.ok (), ())
  | .send _ .registration _, _ =>
    (.ok (Response.withHeader { status := 200 } "mag-identifier" "assigned"), ())
  | .send _ _ _, _ => (.error .cancelled, ())
  | .ask _ _, _ => (.cancelled, ())

/-- The request that has an access token granted for such a credential. -/
def injected : Request :=
  redirecting.headed
    (redirecting.grantRequest redirecting.configuredCredential injecting.grantParams) none

/-- A request of a caller. -/
def ordinary : Context := { id := 1, request := { method := .get, url := "/" } }

/-- The execution of an ordinary request comes to where the token is asked for. -/
theorem exists_trace_execute : ∃ early late,
    (do let _ ← redirecting.execute ordinary : Program Unit).trace registering () =
      early ++ .of registering (.send ⟨none⟩ (.grant .userCredential) injected) () :: late := by
  have last : ((redirecting.prepare ordinary).trace registering ()).getLast? =
      some (.of registering (.send ⟨none⟩ (.grant .userCredential) injected) ()) := rfl
  obtain ⟨early, prepared⟩ := List.getLast?_eq_some_iff.1 last
  obtain ⟨rest, round⟩ : ∃ rest, (redirecting.round ordinary).trace registering () =
      (redirecting.prepare ordinary).trace registering () ++ rest := by
    rw [← Program.trace_attempt (redirecting.prepare ordinary)]
    exact Program.exists_trace_bind _ _ _
  obtain ⟨rest', executed⟩ : ∃ rest, (redirecting.execute ordinary).trace registering () =
      (redirecting.round ordinary).trace registering () ++ rest := by
    rw [execute]
    exact Program.exists_trace_bind _ _ _
  obtain ⟨rest'', discarded⟩ : ∃ rest,
      (do let _ ← redirecting.execute ordinary : Program Unit).trace registering () =
        (redirecting.execute ordinary).trace registering () ++ rest :=
    Program.exists_trace_bind _ _ _
  refine ⟨early, rest ++ (rest' ++ rest''), ?_⟩
  rw [discarded, executed, round, prepared]
  simp only [List.append_assoc, List.cons_append, List.nil_append]

/-- The grant for a credential that is full of separators is read as the credential, the scope and
the redirect URI, and nothing else. -/
theorem forms_decode_injecting :
    redirecting.Errand (do let _ ← redirecting.execute ordinary) ∧ ∃ early reply late,
      ((do let _ ← redirecting.execute ordinary : Program Unit).trace registering ()).map
          (·.toEvent) = early ++ ⟨.send ⟨none⟩ (.grant .userCredential) injected, reply⟩ :: late ∧
        injected.body.map Form.decode = some [("grant_type", "password"),
          ("username", "alice&grant_type=none"), ("password", "50%+ é=\u20AC"),
          ("scope", "openid"), ("redirect_uri", "app://back?a=1&b=2")] := by
  have errand : redirecting.Errand (do let _ ← redirecting.execute ordinary) :=
    .operation (.execute ordinary)
  obtain ⟨early, late, split⟩ := exists_trace_execute
  have events := congrArg (List.map (·.toEvent)) split
  rw [List.map_append, List.map_cons] at events
  obtain ⟨-, decode⟩ := forms_decode errand (Program.ends_trace registering _ ())
  obtain ⟨⟨said, tells⟩, read⟩ := decode _ _ _ _ _ _ events rfl
  have credited : said = some (injecting.grantParams ++ redirecting.sharedParams) := by
    cases tells with
    | userCredential cached =>
      obtain ⟨⟨⟨effect, reply⟩, before, after⟩, mem, same⟩ := List.mem_map.1 cached.mem_of_ask
      have answered := Program.answered_of_mem_trace (split ▸ List.mem_append_left _ mem)
      cases same
      obtain rfl := Option.some.inj (congrArg Prod.fst answered)
      rfl
  exact ⟨errand, _, _, _, events, (read said tells).2.trans credited⟩

end Session

end GatewaySession
