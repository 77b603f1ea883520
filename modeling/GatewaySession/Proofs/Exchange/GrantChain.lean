import GatewaySession.Proofs.Exchange.Between
import GatewaySession.Proofs.Exchange.Rejection
import GatewaySession.Proofs.Vault.Custody

/-!
# The chain of grants

A session without a valid access token tries three ways to one, and each way at most once: the
refresh token, the identity token, the user's credential. Where nothing fails but the gateway, what
comes of it can be told from what was there and from the answers. A way is tried if there is
something to present, and only if whatever was presented before was refused. A grant leaves exactly
what it brought, and drops the user's credential and the connection. Where no way leads to a token,
the refresh token is gone, no access token has come, and the identity token is there unless it was
itself refused.

The ways are taken one after the other. What has been passed is described once, and each way either
adds one refused request to it or ends the chain.

## Main definitions

* `Attempt.IsRefused`, `Attempt.Grants` — the answers that matter
* `Custodian.Presents` — what a request for a token presents
* `Custodian.Granted`, `Custodian.Denied` — what a grant leaves, and what the lack of one leaves
* `Custodian.GrantChain` — what comes of the whole chain

## Main results

* `Custodian.comes_acceptGrant` — storing what was granted
* `Custodian.comes_grant` — one grant
* `Custodian.ensureAccessToken_chain` — the chain
-/

namespace GatewaySession

open Program (Performs)

/-! ### Answers -/

namespace Attempt

/-- Whether what was presented was refused: with a status of 400 to 499, and not because of the
client. -/
def IsRefused (attempt : Attempt) : Prop :=
  ∃ response, attempt.reply = .ok response ∧ 400 ≤ response.status ∧ response.status < 500 ∧
    response.refusal.refusal? ≠ some .invalidClientCredential

/-- Whether a token was granted. -/
def Grants (attempt : Attempt) (grant : TokenGrant) : Prop :=
  ∃ response, attempt.reply = .ok response ∧ response.isSuccess = true ∧
    TokenGrant.ofBody response.body = .ok grant

end Attempt

/-- What is no refusal does not lead on to the next way. -/
theorem Session.isGrantRejected_of_refusal? {error : Error} (none_refused : error.refusal? = none) :
    isGrantRejected error = false := by
  cases error with
  | server refusal status code message => cases none_refused
  | _ => rfl

/-- Whether a request asks the gateway for a token, with certain parameters. -/
def Session.Asks (session : Session) (request : Request) (params : Form.Params) : Prop :=
  request.url = session.settings.urlFor .token ∧ session.Carries request params

namespace Custodian

variable {σ : Type} {session : Session} {key : Aes256.Key}
  (custodian : Custodian σ session.vault key)

/-- Whether a request for a token presents what there was. -/
def Presents (first : σ) (attempt : Attempt) : Prop :=
  match attempt.presented with
  | .refreshToken => ∃ token, custodian.content first .refreshToken = some token ∧
      session.Asks attempt.request (Session.refreshParams token)
  | .idToken => session.settings.ssoEnabled = true ∧
      ∃ token, custodian.content first .idToken = some token ∧
        session.Asks attempt.request (Session.assertionParams token)
  | .userCredential => ∃ credential, custodian.user first = some credential ∧
      session.Asks attempt.request credential.grantParams

/-- What a grant leaves. -/
structure Granted (grant : TokenGrant) (token : AccessToken) (last : σ) : Prop where
  /-- The token is the one that was granted. -/
  made : ∃ now, token = AccessToken.expiringIn grant.accessToken now grant.expiresIn grant.scope
  /-- It is stored. -/
  access : custodian.content last .accessToken = some token
  /-- The refresh token that came along is stored. -/
  refresh : custodian.content last .refreshToken = grant.refreshToken
  /-- There is no other one. -/
  unrefreshed : grant.refreshToken = none → custodian.inSlot last .refreshToken = none
  /-- The credential of the user is dropped. -/
  user : custodian.user last = none
  /-- The connection is dropped. -/
  connection : custodian.connection last = none

/-- What the requests for a token leave if none is granted. -/
structure Denied (first : σ) (sent : List Attempt) (last : σ) : Prop where
  /-- There is no refresh token. -/
  refresh : custodian.inSlot last .refreshToken = none
  /-- No access token was stored. -/
  access : custodian.Tidied first last .accessToken
  /-- The identity token is there, unless it was refused. -/
  idToken : (∀ attempt ∈ sent, attempt.presented = .idToken → ¬attempt.IsRefused) →
    custodian.Tidied first last .idToken
  /-- The credential of the user is there. -/
  user : custodian.user last = custodian.user first

/-- **What comes of the chain**: which requests for a token are made, and what is left of what was
there. -/
structure GrantChain (first : σ) (result : Except Error AccessToken) (last : σ)
    (sent : List Attempt) : Prop where
  /-- Each way is tried once at most, in this order. -/
  order : (sent.map (·.presented)).Sublist [.refreshToken, .idToken, .userCredential]
  /-- Each request presents what there was. -/
  presents : ∀ attempt ∈ sent, custodian.Presents first attempt
  /-- What is followed by another request was refused. -/
  refused : ∀ early attempt late, sent = early ++ attempt :: late → late ≠ [] → attempt.IsRefused
  /-- A token that is returned was granted by the last request. -/
  granted : ∀ token, result = .ok token → ∃ early attempt grant, sent = early ++ [attempt] ∧
    attempt.Grants grant ∧ custodian.Granted grant token last
  /-- Without one, little is lost. -/
  denied : ∀ error, result = .error error → sent ≠ [] → custodian.Denied first sent last

variable {custodian} {first state last : σ}

/-! ### Storing what was granted -/

/-- The client credential is found, whatever it is. -/
theorem run_clientCredential (sound : custodian.IsSound state) :
    ∃ client last, session.clientCredential.run custodian.handle state = (.ok client, last) ∧
      custodian.IsSound last := by
  obtain ⟨read, looked, spares, -⟩ := comes_readable sound .clientCredential
  have stored : ∃ found last, session.storedClientCredential.run custodian.handle state =
      (.ok found, last) ∧ custodian.IsSound last := by
    cases content : custodian.content state .clientCredential with
    | none =>
      rw [content] at looked
      exact ⟨none, read, Program.run_bind_ok looked.1, spares.sound⟩
    | some credential =>
      rw [content] at looked
      exact ⟨_, _, Program.run_bind_ok looked.1, custodian.isSound .time spares.sound⟩
  obtain ⟨found, last, run, sound'⟩ := stored
  exact ⟨_, last, Program.run_bind_ok run, sound'⟩

/-- A token that comes with a grant is accepted, or rejected as a token. -/
theorem run_acceptIdToken (sound : custodian.IsSound state) (value : String)
    (type : Option String) :
    ∃ result last, (session.acceptIdToken value type).run custodian.handle state =
        (result, last) ∧ (result = .ok () ∨ ∃ error, result = .error (.jwt error)) := by
  rw [Session.acceptIdToken]
  cases session.settings.ssoEnabled with
  | false => exact ⟨.ok (), state, rfl, .inl rfl⟩
  | true =>
  rw [if_pos rfl]
  obtain ⟨client, found, looked, sound'⟩ := run_clientCredential sound
  have timed : Program.seconds.run custodian.handle found = (.ok _, _) := rfl
  rw [Program.run_bind_ok looked, Program.run_bind_ok timed]
  cases Jwt.validate value client.clientId session.device.identity
      (Utf8.encode client.secret) _ with
  | error error => exact ⟨_, _, rfl, .inr ⟨error, rfl⟩⟩
  | ok claims =>
    obtain ⟨-, stored, store, -, -⟩ := comes_store (custodian.isSound .time sound') .idToken
      (IdToken.withType value type)
    exact ⟨.ok (), _, Program.run_bind_ok store.1, .inl rfl⟩

/-- What comes with a grant is accepted or ignored, and no more is done. -/
theorem comes_acceptIssuedIdToken (sound : custodian.IsSound state) (value : String)
    (type : Option String) :
    ∃ last,
      (session.acceptIssuedIdToken value type).Comes custodian.handle state (.ok ()) last [] ∧
        custodian.Spares (fun slot => slot = .idToken ∨ slot = .clientCredential) True state
          last := by
  obtain ⟨result, last, run, ended⟩ := run_acceptIdToken sound value type
  have tends : (session.acceptIdToken value type).Performs (session.vault.Tends
      (fun slot => slot = .idToken ∨ slot = .clientCredential) True) := by
    rw [Session.acceptIdToken]
    split
    · refine .bind (Session.tends_clientCredential (.inr rfl)) fun client =>
        .bind (.seconds trivial) fun now => ?_
      split
      · trivial
      · exact .bind (Vault.tends_store (.inl rfl) _) fun _ => .ask ⟨trivial, rfl⟩
    · trivial
  have whole : (session.acceptIssuedIdToken value type).Performs (session.vault.Tends
      (fun slot => slot = .idToken ∨ slot = .clientCredential) True) := by
    refine .rescue tends fun result => ?_
    split
    · trivial
    · trivial
  have issued : (session.acceptIssuedIdToken value type).run custodian.handle state =
      (.ok (), last) := by
    rw [Session.acceptIssuedIdToken, Program.run_attempt_bind run]
    obtain rfl | ⟨error, rfl⟩ := ended
    · rfl
    · rfl
  exact ⟨last, comes_of_performs whole sound issued⟩

/-- An access token is accepted, and the user's credential dropped. -/
theorem comes_setAccessToken (sound : custodian.IsSound state) (token : AccessToken) :
    ∃ last, (session.setAccessToken token).Comes custodian.handle state (.ok ()) last [] ∧
      custodian.Spares (· = .accessToken) True state last ∧
      custodian.content last .accessToken = some token ∧ custodian.user last = none := by
  obtain ⟨nonce, stored, store, spares, filled⟩ := comes_store sound .accessToken token
  have dropped : custodian.Spares (fun _ => False) True stored
      (custodian.handle (.cacheUser none) stored).2 := spares_effect spares.sound ⟨trivial, rfl⟩
  refine ⟨_, store.bind (Program.Comes.ask _ rfl), ?_, ?_, ?_⟩
  · exact (spares.mono (fun _ => id) nofun).trans (dropped.mono (fun _ => False.elim) id)
  · rw [dropped.content id]
    exact content_of_blob (Record.faithful_accessToken token) filled
  · exact custodian.user_after (.cacheUser none) spares.sound

/-- The refresh token that came with a grant is stored, if one did. -/
theorem comes_refreshed (sound : custodian.IsSound state)
    (empty : custodian.inSlot state .refreshToken = none) (value : Option String) :
    ∃ last, (match value with
        | some token => session.setRefreshToken token
        | none => pure () : Program Unit).Comes custodian.handle state (.ok ()) last [] ∧
      custodian.Spares (· = .refreshToken) False state last ∧
      custodian.content last .refreshToken = value ∧
      (value = none → custodian.inSlot last .refreshToken = none) := by
  cases value with
  | none =>
    refine ⟨state, .done (.ok ()) state, .refl sound, ?_, fun _ => empty⟩
    unfold content
    rw [empty]
    rfl
  | some token =>
    obtain ⟨nonce, last, stored, spares, filled⟩ := comes_store sound .refreshToken token
    exact ⟨last, stored, spares, content_of_blob (Record.faithful_text token) filled, nofun⟩

/-- Storing what was granted, but for an identity token. -/
theorem comes_acceptGrant_bare (sound : custodian.IsSound state)
    (empty : custodian.inSlot state .refreshToken = none) {grant : TokenGrant}
    (unissued : grant.idToken = none) :
    ∃ token last, (session.acceptGrant grant).Comes custodian.handle state (.ok token) last [] ∧
      custodian.Granted grant token last := by
  have timed : custodian.Spares (fun _ => False) False state (custodian.handle .time state).2 :=
    spares_effect sound trivial
  have clock : Program.seconds.Comes custodian.handle state (.ok _) _ [] :=
    (Program.Comes.ask state rfl).bind (.done (.ok _) _)
  let token := AccessToken.expiringIn grant.accessToken
    (Int64.ofInt (custodian.handle .time state).1.seconds) grant.expiresIn grant.scope
  obtain ⟨stored, store, spares, access, user⟩ := comes_setAccessToken timed.sound token
  have still : custodian.inSlot stored .refreshToken = none := by
    rw [spares.slot .refreshToken nofun, timed.slot .refreshToken id, empty]
  obtain ⟨refreshed, refresh, spares', only, unrefreshed⟩ :=
    comes_refreshed spares.sound still grant.refreshToken
  have dropped : custodian.Spares (fun _ => False) False refreshed
      (custodian.handle (.cacheConnection none) refreshed).2 := spares_effect spares'.sound trivial
  have drop : Program.dropConnection.Comes custodian.handle refreshed (.ok ()) _ [] :=
    .ask refreshed rfl
  refine ⟨token, (custodian.handle (.cacheConnection none) refreshed).2, ?stores, ⟨_, rfl⟩,
    ?access, ?refresh, ?unrefreshed, ?user, custodian.connection_after none spares'.sound⟩
  case access =>
    have kept : custodian.content refreshed .accessToken = custodian.content stored .accessToken :=
      spares'.content nofun
    rw [dropped.content id, kept, access]
  case refresh => rw [dropped.content id, only]
  case unrefreshed =>
    intro none_issued
    rw [dropped.slot _ id, unrefreshed none_issued]
  case user => rw [dropped.user id, spares'.user id, user]
  case stores =>
    rw [Session.acceptGrant, unissued]
    refine clock.bind (store.bind ?_)
    have rest : (do
        Program.dropConnection
        return token : Program AccessToken).Comes custodian.handle refreshed (.ok token) _ [] :=
      drop.bind (.done (.ok token) _)
    -- Where no refresh token was issued, the rest follows at once.
    cases value : grant.refreshToken with
    | none =>
      rw [value] at refresh
      have whole := refresh.bind (f := fun _ => do
        Program.dropConnection
        return token) rest
      exact whole
    | some issued =>
      rw [value] at refresh
      exact refresh.bind rest

/-- **Storing what was granted** leaves exactly that. -/
theorem comes_acceptGrant (sound : custodian.IsSound state)
    (empty : custodian.inSlot state .refreshToken = none) (grant : TokenGrant) :
    ∃ token last, (session.acceptGrant grant).Comes custodian.handle state (.ok token) last [] ∧
      custodian.Granted grant token last := by
  cases issued : grant.idToken with
  | none => exact comes_acceptGrant_bare sound empty issued
  | some value =>
    obtain ⟨accepted, accept, spares⟩ :=
      comes_acceptIssuedIdToken sound value grant.idTokenType
    have still : custodian.inSlot accepted .refreshToken = none :=
      (spares.slot .refreshToken (by simp)).trans empty
    have unissued : { grant with idToken := none }.idToken = none := rfl
    obtain ⟨token, last, store, granted⟩ := comes_acceptGrant_bare spares.sound still unissued
    rw [Session.acceptGrant_eq issued]
    exact ⟨token, last, accept.bind store, granted.made, granted.access, granted.refresh,
      granted.unrefreshed, granted.user, granted.connection⟩

/-! ### One grant -/

/-- The device headers are added, and leave address and body alone. -/
theorem comes_withDeviceHeaders (sound : custodian.IsSound state) (request : Request) :
    ∃ decorated last, (session.withDeviceHeaders request).Comes custodian.handle state
        (.ok decorated) last [] ∧
      custodian.Spares (· = .deviceIdentity) False state last ∧
      decorated.url = request.url ∧ decorated.body = request.body := by
  obtain ⟨last, read, spares, -⟩ := comes_readable sound .deviceIdentity
  cases content : custodian.content state .deviceIdentity with
  | none =>
    rw [content] at read
    exact ⟨_, last, read.bind (.done (.ok _) last), spares, rfl, rfl⟩
  | some identity =>
    rw [content] at read
    exact ⟨_, last, read.bind (.done (.ok _) last), spares, rfl, rfl⟩

/-- A connection is there, or none is made and nothing is refused. -/
theorem comes_connection (sound : custodian.IsSound state) :
    ∃ result last, session.connection.Comes custodian.handle state result last [] ∧
      custodian.Spares (· = .deviceIdentity) False state last ∧
      ∀ error, result = .error error → error.refusal? = none := by
  have tends : session.connection.Performs
      (session.vault.Tends (· = .deviceIdentity) False) := Session.tends_connection rfl
  have looked := custodian.isSound .connection sound
  cases cached : (custodian.handle .connection state).1 with
  | some connection =>
    have run : session.connection.run custodian.handle state =
        (.ok connection, (custodian.handle .connection state).2) := by
      rw [Session.connection, Program.run_bind_ok (Program.run_ask _ _ _), cached]
      rfl
    obtain ⟨comes, spares⟩ := comes_of_performs tends sound run
    exact ⟨_, _, comes, spares, nofun⟩
  | none =>
    obtain ⟨found, read, within, -⟩ := comes_readable looked .deviceIdentity
    obtain ⟨registration, stored⟩ : ∃ registration,
        custodian.content (custodian.handle .connection state).2 .deviceIdentity = registration :=
      ⟨_, rfl⟩
    rw [stored] at read
    have opened : session.connection.run custodian.handle state = (do
        Program.perform (.connect registration) .done
        let _ ← Program.ask (.cacheConnection (some ⟨registration⟩))
        return ⟨registration⟩ : Program Connection).run custodian.handle found := by
      rw [Session.connection, Program.run_bind_ok (Program.run_ask _ _ _), cached]
      exact Program.run_bind_ok read.1
    cases answered : custodian.handle (.connect registration) found with
    | mk reply made =>
    cases reply with
    | error error =>
      obtain ⟨comes, spares⟩ := comes_of_performs tends sound
        (opened.trans (Program.run_bind_error answered))
      refine ⟨_, _, comes, spares, fun other same => ?_⟩
      rw [← Except.error.inj same]
      exact custodian.connects within.sound (congrArg Prod.fst answered)
    | ok _ =>
      obtain ⟨comes, spares⟩ := comes_of_performs tends sound
        (opened.trans (Program.run_bind_ok answered))
      exact ⟨_, _, comes, spares, nofun⟩

/-- A request for a token is answered, and an answer that is no response refuses nothing. -/
theorem comes_send (sound : custodian.IsSound state) (connection : Connection)
    (presented : Presented) (request : Request) :
    ∃ reply last, (Program.send connection (.grant presented) request).Comes custodian.handle state
        reply last [⟨presented, request, reply⟩] ∧
      custodian.Spares (· = .deviceIdentity) False state last ∧
      ∀ error, reply = .error error → error.refusal? = none :=
  ⟨(custodian.handle (.send connection (.grant presented) request) state).1,
    (custodian.handle (.send connection (.grant presented) request) state).2, ⟨rfl, rfl⟩,
    spares_untouched sound (fun _ _ => ⟨nofun, nofun⟩) fun _ => rfl,
    fun _ failed => custodian.answers sound failed⟩

/-- A response that is no success refuses what was presented if its error says so. -/
theorem isRefused_of_checked {presented : Presented} {request : Request} {response : Response}
    {error : Error} (checked : response.checked = .error error)
    (rejected : Session.isGrantRejected error = true) :
    Attempt.IsRefused ⟨presented, request, .ok response⟩ := by
  rw [Response.checked] at checked
  split at checked
  · cases checked
  · obtain rfl := Except.error.inj checked
    refine ⟨response, rfl, ?_⟩
    simpa [Session.isGrantRejected, Response.refusal, Error.ofReply, Error.refusal?, and_assoc]
      using rejected

/-- How a single request for a token ends: it is not sent, it brings nothing, or it brings a grant.
-/
inductive Asked (custodian : Custodian σ session.vault key) (first : σ) (presented : Presented)
    (params : Form.Params) : Except Error TokenGrant → σ → List Attempt → Prop where
  /-- There is no connection. -/
  | unsent {error : Error} {last : σ} : Session.isGrantRejected error = false →
      custodian.Spares (· = .deviceIdentity) False first last →
        Asked custodian first presented params (.error error) last []
  /-- There is no grant in the answer. -/
  | failed {error : Error} {last : σ} {request : Request} {reply : Except Error Response} :
      session.Asks request params →
      (Session.isGrantRejected error = true → Attempt.IsRefused ⟨presented, request, reply⟩) →
        custodian.Spares (· = .deviceIdentity) False first last →
          Asked custodian first presented params (.error error) last [⟨presented, request, reply⟩]
  /-- There is a grant in the answer. -/
  | granted {grant : TokenGrant} {last : σ} {request : Request} {reply : Except Error Response} :
      session.Asks request params → Attempt.Grants ⟨presented, request, reply⟩ grant →
        custodian.Spares (· = .deviceIdentity) False first last →
          Asked custodian first presented params (.ok grant) last [⟨presented, request, reply⟩]

/-- A response brings a grant if it is a success and its body says what was granted. -/
theorem Asked.of_response {presented : Presented} {params : Form.Params} {request : Request}
    (asks : session.Asks request params)
    (spares : custodian.Spares (· = .deviceIdentity) False first last) (response : Response) :
    custodian.Asked first presented params
      (response.checked >>= fun success => TokenGrant.ofBody success.body) last
      [⟨presented, request, .ok response⟩] := by
  cases checked : response.checked with
  | error error => exact .failed asks (isRefused_of_checked checked) spares
  | ok success =>
    obtain ⟨rfl, isSuccess⟩ : success = response ∧ response.isSuccess = true := by
      rw [Response.checked] at checked
      split at checked
      · next isSuccess => exact ⟨(Except.ok.inj checked).symm, isSuccess⟩
      · cases checked
    show custodian.Asked first presented params (TokenGrant.ofBody success.body) last _
    cases grant : TokenGrant.ofBody success.body with
    | error error =>
      have unread : Error.json = error := by
        rw [TokenGrant.ofBody] at grant
        split at grant
        · cases grant
        · exact Except.error.inj grant
      refine .failed asks (fun rejected => ?_) spares
      rw [← unread] at rejected
      cases rejected
    | ok grant => exact .granted asks ⟨success, rfl, isSuccess, ‹_›⟩ spares

/-- **Asking for a grant.** -/
theorem comes_askGrant (sound : custodian.IsSound state) (client : ClientCredential)
    (presented : Presented) (params : Form.Params) :
    ∃ result last sent, (session.askGrant client presented params).Comes custodian.handle state
        result last sent ∧ custodian.Asked state presented params result last sent := by
  obtain ⟨decorated, before, decorate, spares, url, body⟩ :=
    comes_withDeviceHeaders sound (session.grantRequest client params)
  have asks : session.Asks decorated params := ⟨url, body⟩
  obtain ⟨opened, between, connect, spares', unrefused⟩ := comes_connection spares.sound
  have reached := spares.trans spares'
  cases opened with
  | error error =>
    refine ⟨_, between, _, decorate.bind (Program.Comes.bind_error (Program.Comes.bind_error
      (Program.Comes.bind_error connect))), ?_⟩
    exact .unsent (Session.isGrantRejected_of_refusal? (unrefused error rfl)) reached
  | ok connection =>
  obtain ⟨reply, last, sent, quiet, unrefused⟩ :=
    comes_send spares'.sound connection presented decorated
  have delivered : (session.send (.grant presented) decorated).Comes custodian.handle before
      reply last [⟨presented, decorated, reply⟩] := connect.bind sent
  cases reply with
  | error error =>
    refine ⟨_, last, _, decorate.bind (Program.Comes.bind_error
      (Program.Comes.bind_error delivered)), ?_⟩
    refine .failed asks (fun rejected => ?_) (reached.trans quiet)
    rw [Session.isGrantRejected_of_refusal? (unrefused error rfl)] at rejected
    cases rejected
  | ok response =>
  have read : (do
      let success ← session.sendChecked (.grant presented) decorated
      .ofExcept (TokenGrant.ofBody success.body) : Program TokenGrant).Comes custodian.handle before
        (response.checked >>= fun success => TokenGrant.ofBody success.body) last
        [⟨presented, decorated, .ok response⟩] := by
    have checks : (session.sendChecked (.grant presented) decorated).Comes custodian.handle before
        response.checked last [⟨presented, decorated, .ok response⟩] :=
      delivered.bind (.done _ last)
    cases checked : response.checked with
    | error error =>
      rw [checked] at checks
      exact .bind_error checks
    | ok success =>
      rw [checked] at checks
      exact checks.bind (.done _ last)
  exact ⟨_, last, _, decorate.bind read, .of_response asks (reached.trans quiet) response⟩

/-! ### What has been passed -/

/-- What has been passed where no way has led to a token yet. -/
structure Passed (custodian : Custodian σ session.vault key) (first : σ) (ways : List Presented)
    (sent : List Attempt) (last : σ) : Prop where
  /-- The surroundings are as they should be. -/
  sound : custodian.IsSound last
  /-- Some of the ways were tried. -/
  order : (sent.map (·.presented)).Sublist ways
  /-- Each request presented what there was. -/
  presents : ∀ attempt ∈ sent, custodian.Presents first attempt
  /-- It was refused. -/
  refused : ∀ attempt ∈ sent, attempt.IsRefused
  /-- No more is lost than by refusals. -/
  denied : custodian.Denied first sent last

variable {ways : List Presented} {sent more : List Attempt}

/-- Denials go on where nothing is touched but what no way presents. -/
theorem Denied.spares {slots : Slot → Prop} (h : custodian.Denied first sent state)
    (spares : custodian.Spares slots False state last)
    (aside : ∀ slot, slots slot → slot ≠ .refreshToken ∧ slot ≠ .accessToken ∧ slot ≠ .idToken) :
    custodian.Denied first (sent ++ more) last where
  refresh := (spares.slot _ fun tended => (aside _ tended).1 rfl).trans h.refresh
  access := h.access.trans (.inl (spares.slot _ fun tended => (aside _ tended).2.1 rfl))
  idToken unrefused :=
    (h.idToken fun attempt mem => unrefused attempt (List.mem_append_left _ mem)).trans
      (.inl (spares.slot _ fun tended => (aside _ tended).2.2 rfl))
  user := (spares.user id).trans h.user

/-- Whatever is followed by another request was refused, if all but the last were. -/
theorem isRefused_of_split (refused : ∀ attempt ∈ sent, attempt.IsRefused)
    (single : more = [] ∨ ∃ attempt, more = [attempt]) {early late : List Attempt}
    {attempt : Attempt} (split : sent ++ more = early ++ attempt :: late)
    (followed : late ≠ []) : attempt.IsRefused := by
  obtain rfl | ⟨later, final, rfl⟩ := List.eq_nil_or_concat late
  · exact absurd rfl followed
  have regrouped : early ++ attempt :: (later ++ [final]) =
      (early ++ attempt :: later) ++ [final] := by simp
  rw [List.concat_eq_append, regrouped] at split
  refine refused attempt ?_
  obtain rfl | ⟨single', rfl⟩ := single
  · rw [List.append_nil] at split
    rw [split]
    simp
  · rw [(List.append_inj' split rfl).1]
    simp

/-- Whether the requests of one way present what there was, once at most. -/
structure Tries (custodian : Custodian σ session.vault key) (first : σ) (presented : Presented)
    (more : List Attempt) : Prop where
  /-- There is one at most. -/
  single : more = [] ∨ ∃ attempt, more = [attempt]
  /-- A request is of this way. -/
  presented {attempt : Attempt} : attempt ∈ more → attempt.presented = presented
  /-- A request presents what there was. -/
  presents {attempt : Attempt} : attempt ∈ more → custodian.Presents first attempt

theorem Tries.none {presented : Presented} : custodian.Tries first presented [] :=
  ⟨.inl rfl, nofun, nofun⟩

theorem Tries.one {attempt : Attempt} (presents : custodian.Presents first attempt) :
    custodian.Tries first attempt.presented [attempt] :=
  ⟨.inr ⟨attempt, rfl⟩, fun mem => List.mem_singleton.1 mem ▸ rfl,
    fun mem => List.mem_singleton.1 mem ▸ presents⟩

theorem Tries.sublist {presented : Presented} (h : custodian.Tries first presented more) :
    (more.map (·.presented)).Sublist [presented] := by
  obtain rfl | ⟨attempt, rfl⟩ := h.single
  · exact List.nil_sublist _
  · simp [h.presented (List.mem_singleton_self attempt)]

/-- One more way ends the chain. -/
theorem Passed.chain {presented : Presented} {result : Except Error AccessToken}
    (passed : custodian.Passed first ways sent state)
    (within : (ways ++ [presented]).Sublist [.refreshToken, .idToken, .userCredential])
    (tries : custodian.Tries first presented more)
    (granted : ∀ token, result = .ok token → ∃ attempt grant, more = [attempt] ∧
      attempt.Grants grant ∧ custodian.Granted grant token last)
    (denied : ∀ error, result = .error error → custodian.Denied first (sent ++ more) last) :
    custodian.GrantChain first result last (sent ++ more) where
  order := by
    rw [List.map_append]
    exact (passed.order.append tries.sublist).trans within
  presents := List.forall_mem_append.2 ⟨passed.presents, fun _ => tries.presents⟩
  refused _ _ _ := isRefused_of_split passed.refused tries.single
  granted token done := by
    obtain ⟨attempt, grant, rfl, grants, left⟩ := granted token done
    exact ⟨sent, attempt, grant, rfl, grants, left⟩
  denied error failed _ := denied error failed

/-- One more way is passed. -/
theorem Passed.append {presented : Presented} (passed : custodian.Passed first ways sent state)
    (tries : custodian.Tries first presented more) (refused : ∀ attempt ∈ more, attempt.IsRefused)
    (sound : custodian.IsSound last) (denied : custodian.Denied first (sent ++ more) last) :
    custodian.Passed first (ways ++ [presented]) (sent ++ more) last where
  sound := sound
  order := by
    rw [List.map_append]
    exact passed.order.append tries.sublist
  presents := List.forall_mem_append.2 ⟨passed.presents, fun _ => tries.presents⟩
  refused := List.forall_mem_append.2 ⟨passed.refused, refused⟩
  denied := denied

/-- **One grant** after what has been passed ends the chain, unless it is refused. -/
theorem comes_grant {presented : Presented} {params : Form.Params}
    (passed : custodian.Passed first ways sent state)
    (within : (ways ++ [presented]).Sublist [.refreshToken, .idToken, .userCredential])
    (fits : ∀ request reply, session.Asks request params →
      custodian.Presents first ⟨presented, request, reply⟩) (client : ClientCredential) :
    ∃ result last more, (session.grant client presented params).Comes custodian.handle state
        result last more ∧
      custodian.GrantChain first result last (sent ++ more) ∧
      ∀ error, result = .error error → Session.isGrantRejected error = true →
        (∃ attempt ∈ more, attempt.presented = presented) ∧
          custodian.Passed first (ways ++ [presented]) (sent ++ more) last := by
  obtain ⟨asked, between, more, ask, outcome⟩ :=
    comes_askGrant passed.sound client presented params
  rw [Session.grant_eq]
  have aside (slot : Slot) (device : slot = .deviceIdentity) :
      slot ≠ .refreshToken ∧ slot ≠ .accessToken ∧ slot ≠ .idToken := by
    rw [device]
    decide
  cases outcome with
  | unsent unrefused spares =>
    refine ⟨_, between, [], ask.bind_error, passed.chain within .none nofun
      fun _ _ => passed.denied.spares spares aside, fun error same rejected => ?_⟩
    rw [← Except.error.inj same, unrefused] at rejected
    cases rejected
  | @failed failure _ request reply asks refused spares =>
    have tries : custodian.Tries first presented [⟨presented, request, reply⟩] :=
      .one (fits _ _ asks)
    have denied : custodian.Denied first (sent ++ [⟨presented, request, reply⟩]) between :=
      passed.denied.spares spares aside
    refine ⟨_, between, _, ask.bind_error, passed.chain within tries nofun fun _ _ => denied,
      fun error same rejected => ⟨⟨_, List.mem_singleton_self _, rfl⟩, ?_⟩⟩
    refine passed.append tries (List.forall_mem_singleton.2 (refused ?_)) spares.sound denied
    rw [Except.error.inj same]
    exact rejected
  | @granted grant _ request reply asks grants spares =>
    have tries : custodian.Tries first presented [⟨presented, request, reply⟩] :=
      .one (fits _ _ asks)
    obtain ⟨token, last, store, left⟩ := comes_acceptGrant spares.sound
      ((spares.slot .refreshToken nofun).trans passed.denied.refresh) grant
    refine ⟨_, last, _, ask.bind store, ?_, nofun⟩
    rw [List.append_nil]
    exact passed.chain within tries
      (fun _ done => ⟨_, _, rfl, grants, Except.ok.inj done ▸ left⟩) nofun

/-- What one more way leads to: to the end of the chain, or on. -/
def Leads (custodian : Custodian σ session.vault key) (first : σ) (ways : List Presented)
    (sent : List Attempt) (last : σ) : Except Error (Option AccessToken) → Prop
  | .error error => custodian.GrantChain first (.error error) last sent
  | .ok (some token) => custodian.GrantChain first (.ok token) last sent
  | .ok none => custodian.Passed first ways sent last

/-- A grant that may be refused. -/
theorem comes_tryGrant {presented : Presented} {params : Form.Params}
    (passed : custodian.Passed first ways sent state)
    (within : (ways ++ [presented]).Sublist [.refreshToken, .idToken, .userCredential])
    (fits : ∀ request reply, session.Asks request params →
      custodian.Presents first ⟨presented, request, reply⟩) (client : ClientCredential) :
    ∃ result last more, (session.tryGrant client presented params).Comes custodian.handle state
        result last more ∧
      custodian.Leads first (ways ++ [presented]) (sent ++ more) last result ∧
      (result = .ok none → ∃ attempt ∈ more, attempt.presented = presented) := by
  obtain ⟨granted, last, more, comes, chain, refused⟩ := comes_grant passed within fits client
  cases granted with
  | ok token =>
    refine ⟨.ok (some token), last, _, comes.rescue (.done (.ok _) last), ?_, nofun⟩
    rw [List.append_nil]
    exact chain
  | error error =>
    cases rejected : Session.isGrantRejected error with
    | true =>
      obtain ⟨tried, passed'⟩ := refused error rfl rejected
      have goes : (if Session.isGrantRejected error then return none else Program.fail error :
          Program (Option AccessToken)).Comes custodian.handle last (.ok none) last [] := by
        rw [rejected]
        exact .done (.ok none) last
      refine ⟨.ok none, last, _, comes.rescue goes, ?_, fun _ => ?_⟩
      · rw [List.append_nil]
        exact passed'
      · rw [List.append_nil]
        exact tried
    | false =>
      have fails : (if Session.isGrantRejected error then return none else Program.fail error :
          Program (Option AccessToken)).Comes custodian.handle last (.error error) last [] := by
        rw [rejected]
        exact .done (.error error) last
      refine ⟨.error error, last, _, comes.rescue fails, ?_, nofun⟩
      rw [List.append_nil]
      exact chain

/-! ### The three ways -/

/-- **The refresh token** is taken out, and presented if there was one. -/
theorem comes_grantByRefreshToken (client : ClientCredential) (sound : custodian.IsSound state)
    (refresh : custodian.content state .refreshToken = custodian.content first .refreshToken)
    (access : custodian.Tidied first state .accessToken)
    (idToken : custodian.Tidied first state .idToken)
    (user : custodian.user state = custodian.user first) :
    ∃ result last sent, (session.grantByRefreshToken client).Comes custodian.handle state
        result last sent ∧ custodian.Leads first [.refreshToken] sent last result := by
  obtain ⟨taken, take, spares, empty⟩ := comes_takeRefreshToken sound
  rw [refresh] at take
  have passed : custodian.Passed first [] [] taken := by
    refine ⟨spares.sound, .slnil, nofun, nofun, empty, ?_, fun _ => ?_, ?_⟩
    · exact access.trans (.inl (spares.slot .accessToken nofun))
    · exact idToken.trans (.inl (spares.slot .idToken nofun))
    · exact (spares.user id).trans user
  cases content : custodian.content first .refreshToken with
  | none =>
    rw [content] at take
    refine ⟨.ok none, taken, _, take.bind (.done (.ok none) taken), ?_⟩
    exact { passed with order := List.nil_sublist _ }
  | some token =>
    rw [content] at take
    have fits (request : Request) (reply : Except Error Response)
        (asks : session.Asks request (Session.refreshParams token)) :
        custodian.Presents first ⟨.refreshToken, request, reply⟩ := ⟨token, content, asks⟩
    obtain ⟨result, last, more, comes, leads, -⟩ := comes_tryGrant passed (by decide) fits client
    exact ⟨result, last, _, take.bind comes, leads⟩

/-- The identity token is looked up; there is none without single sign-on. -/
theorem comes_idToken (sound : custodian.IsSound state) :
    ∃ token last, session.idToken.Comes custodian.handle state (.ok token) last [] ∧
      custodian.Spares (· = .idToken) False state last ∧ custodian.Tidied state last .idToken ∧
      ∀ value, token = some value → session.settings.ssoEnabled = true ∧
        custodian.content state .idToken = some value := by
  unfold Session.idToken
  cases session.settings.ssoEnabled with
  | false => exact ⟨none, state, .done (.ok none) state, .refl sound, .inl rfl, nofun⟩
  | true =>
    obtain ⟨last, read, spares, tidied⟩ := comes_readable sound .idToken
    exact ⟨_, last, read, spares, tidied, fun _ found => ⟨rfl, found⟩⟩

/-- **The identity token** is presented if there is one, and dropped if it is refused. -/
theorem comes_grantByIdToken (client : ClientCredential)
    (passed : custodian.Passed first [.refreshToken] sent state) :
    ∃ result last more, (session.grantByIdToken client).Comes custodian.handle state
        result last more ∧
      custodian.Leads first [.refreshToken, .idToken] (sent ++ more) last result := by
  obtain ⟨token, looked, look, spares, tidied, found⟩ := comes_idToken passed.sound
  have early (attempt : Attempt) (mem : attempt ∈ sent) : attempt.presented = .refreshToken :=
    List.mem_singleton.1 (passed.order.subset (List.mem_map_of_mem mem))
  have before : custodian.Tidied first state .idToken := passed.denied.idToken fun attempt mem
    presents => nomatch presents.symm.trans (early attempt mem)
  have passed' : custodian.Passed first [.refreshToken] sent looked :=
    { passed with
      sound := spares.sound
      denied :=
        { refresh := (spares.slot .refreshToken nofun).trans passed.denied.refresh
          access := passed.denied.access.trans (.inl (spares.slot .accessToken nofun))
          idToken := fun _ => before.trans tidied
          user := (spares.user id).trans passed.denied.user } }
  cases token with
  | none =>
    refine ⟨.ok none, looked, _, look.bind (.done (.ok none) looked), ?_⟩
    rw [List.append_nil, List.append_nil]
    exact { passed' with order := passed'.order.trans (by decide) }
  | some token =>
    obtain ⟨sso, present⟩ := found token rfl
    rw [before.content_eq] at present
    have fits (request : Request) (reply : Except Error Response)
        (asks : session.Asks request (Session.assertionParams token)) :
        custodian.Presents first ⟨.idToken, request, reply⟩ := ⟨sso, token, present, asks⟩
    obtain ⟨result, tried, more, comes, leads, refused⟩ :=
      comes_tryGrant passed' (by decide) fits client
    match result, leads, refused with
    | .error error, leads, _ =>
      exact ⟨.error error, tried, _, look.bind comes.bind_error, leads⟩
    | .ok (some granted), leads, _ =>
      refine ⟨.ok (some granted), tried, _, look.bind (comes.bind (.done (.ok _) tried)), ?_⟩
      rw [List.append_nil]
      exact leads
    | .ok none, leads, refused =>
      obtain ⟨attempt, mem, presents⟩ := refused rfl
      have leads : custodian.Passed first [.refreshToken, .idToken] (sent ++ more) tried := leads
      obtain ⟨last, clear, spares', empty⟩ := comes_clear leads.sound .idToken
      have mem' : attempt ∈ sent ++ more := List.mem_append_right _ mem
      refine ⟨.ok none, last, _, look.bind (comes.bind (clear.bind (.done (.ok none) last))), ?_⟩
      rw [List.append_nil, List.append_nil]
      exact { leads with
        sound := spares'.sound
        denied :=
          { refresh := (spares'.slot .refreshToken nofun).trans leads.denied.refresh
            access := leads.denied.access.trans (.inl (spares'.slot .accessToken nofun))
            idToken := fun unrefused =>
              absurd (leads.refused attempt mem') (unrefused attempt mem' presents)
            user := (spares'.user id).trans leads.denied.user } }

/-- **The user's credential** is presented if there is one. -/
theorem comes_grantByUser (client : ClientCredential)
    (passed : custodian.Passed first [.refreshToken, .idToken] sent state) :
    ∃ result last more, (session.grantByUser client).Comes custodian.handle state
        result last more ∧ custodian.GrantChain first result last (sent ++ more) := by
  have asked : custodian.Spares (fun _ => False) False state (custodian.handle .user state).2 :=
    spares_effect passed.sound trivial
  have passed' : custodian.Passed first [.refreshToken, .idToken] sent
      (custodian.handle .user state).2 := by
    have denied : custodian.Denied first (sent ++ []) _ :=
      passed.denied.spares asked fun _ => False.elim
    rw [List.append_nil] at denied
    exact { passed with sound := asked.sound, denied := denied }
  have ask : Program.user.Comes custodian.handle state (.ok (custodian.user state)) _ [] :=
    .ask state rfl
  cases cached : custodian.user state with
  | none =>
    rw [cached] at ask
    refine ⟨_, _, _, ask.bind (.done (.error (.recoverable .credentialsRequired)) _), ?_⟩
    have within : ([.refreshToken, .idToken] ++ [.userCredential] : List Presented).Sublist
        [.refreshToken, .idToken, .userCredential] := List.Sublist.refl _
    refine passed'.chain within .none nofun fun _ _ => ?_
    rw [List.append_nil, List.append_nil]
    exact passed'.denied
  | some credential =>
    rw [cached] at ask
    have fits (request : Request) (reply : Except Error Response)
        (asks : session.Asks request credential.grantParams) :
        custodian.Presents first ⟨.userCredential, request, reply⟩ :=
      ⟨credential, passed.denied.user.symm.trans cached, asks⟩
    obtain ⟨result, last, more, comes, chain, -⟩ := comes_grant passed' (by decide) fits client
    exact ⟨result, last, _, ask.bind comes, chain⟩

/-! ### The chain -/

/-- Looking for a valid access token drops one that cannot be read. -/
theorem comes_validAccessToken (sound : custodian.IsSound state) :
    ∃ token last, session.validAccessToken.Comes custodian.handle state (.ok token) last [] ∧
      custodian.Spares (· = .accessToken) False state last ∧
      custodian.Tidied state last .accessToken := by
  obtain ⟨read, look, spares, tidied⟩ := comes_readable sound .accessToken
  cases content : custodian.content state .accessToken with
  | none =>
    rw [content] at look
    exact ⟨none, read, look.bind (.done (.ok none) read), spares, tidied⟩
  | some token =>
    rw [content] at look
    have timed : custodian.Spares (fun _ => False) False read (custodian.handle .time read).2 :=
      spares_effect spares.sound trivial
    have clock : Program.seconds.Comes custodian.handle read (.ok _) _ [] :=
      (Program.Comes.ask read rfl).bind (.done (.ok _) _)
    exact ⟨_, _, look.bind (clock.bind (.done (.ok _) _)),
      spares.trans (timed.mono (fun _ => False.elim) id),
      tidied.trans (.inl (timed.slot .accessToken id))⟩

/-- **The ways to a token**, taken one after the other. -/
theorem comes_ways (client : ClientCredential) (sound : custodian.IsSound state)
    (refresh : custodian.content state .refreshToken = custodian.content first .refreshToken)
    (access : custodian.Tidied first state .accessToken)
    (idToken : custodian.Tidied first state .idToken)
    (user : custodian.user state = custodian.user first) :
    ∃ result last sent, (do
        if let some token ← session.grantByRefreshToken client then return token
        if let some token ← session.grantByIdToken client then return token
        session.grantByUser client : Program AccessToken).Comes custodian.handle state result last
          sent ∧ custodian.GrantChain first result last sent := by
  obtain ⟨refreshed, between, sent, comes, leads⟩ :=
    comes_grantByRefreshToken client sound refresh access idToken user
  match refreshed, leads with
  | .error error, leads => exact ⟨.error error, between, sent, comes.bind_error, leads⟩
  | .ok (some token), leads =>
    refine ⟨.ok token, between, _, comes.bind (.done (.ok token) between), ?_⟩
    rw [List.append_nil]
    exact leads
  | .ok none, passed =>
    obtain ⟨asserted, later, more, comes', leads⟩ := comes_grantByIdToken client passed
    match asserted, leads with
    | .error error, leads =>
      exact ⟨.error error, later, _, comes.bind comes'.bind_error, leads⟩
    | .ok (some token), leads =>
      refine ⟨.ok token, later, _, comes.bind (comes'.bind (.done (.ok token) later)), ?_⟩
      rw [List.append_nil]
      exact leads
    | .ok none, passed' =>
      obtain ⟨result, last, rest, comes'', chain⟩ := comes_grantByUser client passed'
      refine ⟨result, last, _, comes.bind (comes'.bind comes''), ?_⟩
      rw [← List.append_assoc]
      exact chain

/-- **The chain of grants.** Where there is no valid access token, the ways to one are tried one
after the other, and what is left is what they leave. Where there is no client credential, none is
tried, and everything that could be presented is still there. -/
theorem ensureAccessToken_chain (sound : custodian.IsSound state)
    (invalid : (session.validAccessToken.run custodian.handle state).1 = .ok none) :
    custodian.GrantChain state (session.ensureAccessToken.run custodian.handle state).1
        (session.ensureAccessToken.run custodian.handle state).2
        (session.ensureAccessToken.attempts custodian.handle state) ∧
      ∀ error, (session.ensureClientCredential.run custodian.handle
          (session.validAccessToken.run custodian.handle state).2).1 = .error error →
        (session.ensureAccessToken.run custodian.handle state).1 = .error error ∧
          session.ensureAccessToken.attempts custodian.handle state = [] ∧
          custodian.Spares (fun slot => slot = .accessToken ∨ slot = .clientCredential ∨
            slot = .deviceIdentity) False state
              (session.ensureAccessToken.run custodian.handle state).2 := by
  obtain ⟨token, checked, look, spares, tidied⟩ := comes_validAccessToken sound
  rw [look.1] at invalid ⊢
  obtain rfl : token = none := Except.ok.inj invalid
  have tends : session.ensureClientCredential.Performs (session.vault.Tends
      (fun slot => slot = .clientCredential ∨ slot = .deviceIdentity) False) :=
    Session.tends_ensureClientCredential (.inl rfl) (.inr rfl)
  cases run : session.ensureClientCredential.run custodian.handle checked with
  | mk named between =>
  obtain ⟨name, spares'⟩ := comes_of_performs tends spares.sound run
  cases named with
  | error error =>
    have whole : session.ensureAccessToken.Comes custodian.handle state (.error error) between [] :=
      look.bind name.bind_error
    rw [whole.1, whole.2]
    refine ⟨⟨List.nil_sublist _, nofun, by simp, nofun, fun _ _ some => absurd rfl some⟩,
      fun other same => ⟨congrArg Except.error (Except.error.inj same), rfl, ?_⟩⟩
    exact (spares.mono (fun _ => .inl) id).trans (spares'.mono (fun _ => .inr) id)
  | ok client =>
    -- Neither the lookup nor the provisioning has touched what the ways present.
    have reached : custodian.Spares (fun slot => slot = .accessToken ∨ slot = .clientCredential ∨
        slot = .deviceIdentity) False state between :=
      (spares.mono (fun _ => .inl) id).trans (spares'.mono (fun _ => .inr) id)
    obtain ⟨result, last, sent, comes, chain⟩ := comes_ways client spares'.sound
      (reached.content (by decide)) (tidied.trans (.inl (spares'.slot .accessToken (by decide))))
      (.inl (reached.slot .idToken (by decide))) (reached.user id)
    have whole : session.ensureAccessToken.Comes custodian.handle state result last sent :=
      look.bind (name.bind comes)
    rw [whole.1, whole.2]
    exact ⟨chain, nofun⟩

end Custodian

/-! ### A chain that ends in a token -/

namespace Surroundings

/-- What is stored and what is cached. -/
structure Held where
  /-- What is stored. -/
  stored : String → Option Bytes
  /-- The credential of the user. -/
  user : Option UserCredential
  /-- The connection. -/
  connection : Option Connection

/-- The body of an answer in which an access token is granted, and a refresh token with it. -/
def grantBody : Bytes :=
  Utf8.encode "\x7b\"access_token\":\"access\",\"refresh_token\":\"renewed\"\x7d"

/-- What is stored and cached stays there, and the gateway grants every request. -/
def granting : (effect : Effect) → Held → effect.Reply × Held
  | .read name, held => (.ok (held.stored name), held)
  | .write name value, held =>
    (.ok (), { held with stored := Function.update held.stored name (some value) })
  | .remove name, held => (.ok (), { held with stored := Function.update held.stored name none })
  | .list _, held => (.error .cancelled, held)
  | .sealingKey _, held => (.ok (Vector.replicate 32 0), held)
  | .nonce, held => (Vector.replicate 12 0, held)
  | .identifier, held => ("", held)
  | .time, held => (⟨0, 0⟩, held)
  | .hold, held => ((), held)
  | .release, held => ((), held)
  | .user, held => (held.user, held)
  | .cacheUser credential, held => ((), { held with user := credential })
  | .connection, held => (held.connection, held)
  | .cacheConnection connection, held => ((), { held with connection := connection })
  | .connect _, held => (.ok (), held)
  | .send _ _ _, held => (.ok ⟨200, .empty, grantBody⟩, held)
  | .ask _ _, held => (.deferred, held)

/-- They fail nowhere. -/
def grantingCustodian :
    Custodian Held Session.confidential.vault (Vector.replicate 32 0) where
  handle := granting
  stored held := held.stored
  IsSound _ := True
  isSound _ _ := trivial
  leaves effect _ := by
    cases effect with
    | _ => exact rfl
  read _ _ _ found := (Except.ok.inj found).symm
  list _ _ listed := nomatch listed
  sealingKey _ _ given := (Except.ok.inj given).symm
  reads _ _ := rfl
  writes _ _ _ := rfl
  removes _ _ := rfl
  unlocked _ := rfl
  user_after effect _ := by
    cases effect with
    | _ => rfl
  connection_after _ _ := rfl
  connects _ failed := nomatch failed
  answers _ failed := nomatch failed

end Surroundings

namespace Custodian

open Surroundings (grantingCustodian)

/-- With nothing but the user's credential, one request is made, and what it brings is left. -/
theorem ensureAccessToken_chain_granted :
    ∃ token last, Session.confidential.ensureAccessToken.run grantingCustodian.handle
        ⟨fun _ => none, some (.password "user" "password"), none⟩ = (.ok token, last) ∧
      grantingCustodian.content last .accessToken = some token ∧
      grantingCustodian.content last .refreshToken = some "renewed" ∧
      grantingCustodian.user last = none := by
  let first : Surroundings.Held := ⟨fun _ => none, some (.password "user" "password"), none⟩
  have sound : grantingCustodian.IsSound first := trivial
  have invalid : (Session.confidential.validAccessToken.run grantingCustodian.handle first).1 =
      .ok none := rfl
  obtain ⟨chain, -⟩ := ensureAccessToken_chain sound invalid
  have answered : ∀ attempt ∈
      Session.confidential.ensureAccessToken.attempts grantingCustodian.handle first,
      attempt.reply = .ok ⟨200, .empty, Surroundings.grantBody⟩ := by
    have made : (Session.confidential.ensureAccessToken.attempts grantingCustodian.handle
        first).map (·.reply) = [.ok ⟨200, .empty, Surroundings.grantBody⟩] := rfl
    intro attempt mem
    exact List.mem_singleton.1 (made ▸ List.mem_map_of_mem mem)
  have returned : ∃ token, (Session.confidential.ensureAccessToken.run grantingCustodian.handle
      first).1 = .ok token := ⟨_, rfl⟩
  obtain ⟨token, returned⟩ := returned
  obtain ⟨early, attempt, grant, split, ⟨response, replied, -, read⟩, left⟩ :=
    chain.granted token returned
  have mem : attempt ∈
      Session.confidential.ensureAccessToken.attempts grantingCustodian.handle first := by
    rw [split]
    simp
  obtain rfl := Except.ok.inj (replied.symm.trans (answered attempt mem))
  have brought : grant.refreshToken = some "renewed" := by
    have body : TokenGrant.ofBody Surroundings.grantBody =
        .ok ⟨"access", 3600, some "renewed", none, none, none⟩ := rfl
    obtain rfl := Except.ok.inj (read.symm.trans body)
    rfl
  exact ⟨token, _, Prod.ext returned rfl, left.access, left.refresh.trans brought, left.user⟩

end Custodian

end GatewaySession
