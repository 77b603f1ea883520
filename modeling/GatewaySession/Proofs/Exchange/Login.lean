import GatewaySession.Proofs.Exchange.GrantChain
import GatewaySession.Proofs.Session.Course
import Mathlib.Data.List.TakeWhile

/-!
# Being logged in

Whether the user is logged in is told from what is stored: an identity token, a refresh token or a
valid access token. A token is obtained by other means, which read the same three records in another
order and take one of them out. The two agree: the user is not logged in exactly if obtaining a
token ends in asking for the user's credential, before anything was sent.

This is so as long as no credential of the user is cached and there is a client credential at hand,
and it does not depend on the gateway, so that the gateway is left open altogether: once something
is sent, it may do whatever it likes to the surroundings. Of the clock it is asked that none of the
two records that expire does so between the readings. And making a connection, which may fail, must
not fail for want of a credential.

## Main definitions

* `facing` — surroundings with another gateway
* `Program.readings` — the times that a run is told before it sends anything
* `Custodian.Steady` — times between which nothing expires

## Main results

* `Program.run_facing`, `Program.requests_facing_eq_nil_iff` — a run that sends nothing does not
  depend on the gateway
* `Custodian.comes_isLoggedIn` — what being logged in comes to
* `Custodian.unsent_ensureAccessToken` — what obtaining a token comes to if nothing is sent
* `Custodian.isLoggedIn_agrees` — the two agree
-/

namespace GatewaySession

open Program (Performs)

variable {σ α β : Type}

/-! ### Before anything is sent -/

/-- Surroundings with another gateway. -/
def facing (handle : (effect : Effect) → σ → effect.Reply × σ)
    (gateway : Connection → Purpose → Request → σ → Except Error Response × σ) :
    (effect : Effect) → σ → effect.Reply × σ
  | .send connection purpose request, state => gateway connection purpose request state
  | effect, state => handle effect state

/-- The time that an event tells, if it tells one. -/
def Event.time? : Event → Option Timestamp
  | ⟨.time, time⟩ => some time
  | _ => none

namespace Program

variable {handle : (effect : Effect) → σ → effect.Reply × σ} {program : Program α} {state last : σ}
  {gateway : Connection → Purpose → Request → σ → Except Error Response × σ}

/-- The times that a run is told before it sends anything. -/
def readings (handle : (effect : Effect) → σ → effect.Reply × σ) (program : Program α) (state : σ) :
    List Timestamp :=
  ((program.trace handle state).takeWhile fun moment => moment.toEvent.request?.isNone).filterMap
    (·.toEvent.time?)

/-- **A run that sends nothing** does not depend on the gateway. -/
theorem run_facing (silent : program.requests handle state = []) :
    program.run (facing handle gateway) state = program.run handle state := by
  induction program generalizing state with
  | done result => rfl
  | perform effect next ih =>
    cases effect with
    | send => cases silent
    | _ => exact ih _ silent

/-- Whether anything is sent does not depend on the gateway. -/
theorem requests_facing_eq_nil_iff :
    program.requests (facing handle gateway) state = [] ↔ program.requests handle state = [] := by
  induction program generalizing state with
  | done result => exact Iff.rfl
  | perform effect next ih =>
    cases effect with
    | send => exact ⟨nofun, nofun⟩
    | _ => exact ih _

/-- A program that writes no requests sends none. -/
theorem requests_eq_nil (writes : program.Performs (Effect.Sends fun _ _ => False)) (state : σ) :
    program.requests handle state = [] :=
  (goes_run handle program state).requestsAt_eq_nil writes

theorem requests_bind_ok {f : α → Program β} {a : α}
    (run : program.run handle state = (.ok a, last)) :
    (program >>= f).requests handle state =
      program.requests handle state ++ (f a).requests handle last := by
  rw [requests, trace_bind_ok run, requestsAt_append]
  rfl

/-- If two programs send nothing, the first does not. -/
theorem requests_of_bind {f : α → Program β}
    (silent : (program >>= f).requests handle state = []) : program.requests handle state = [] := by
  have ⟨late, whole⟩ : ∃ late, (program >>= f).trace handle state =
      program.trace handle state ++ late := exists_trace_bind program f state
  rw [requests, whole, requestsAt_append] at silent
  exact (List.append_eq_nil_iff.1 silent).1

/-- As long as nothing is sent, all times count. -/
theorem request?_isNone (silent : program.requests handle state = []) :
    ∀ moment ∈ program.trace handle state, moment.toEvent.request?.isNone = true :=
  fun moment mem => Option.isNone_iff_eq_none.2 (List.filterMap_eq_nil_iff.1 silent moment mem)

/-- What the first of two programs is told, it is told in both. -/
theorem readings_subset_bind (f : α → Program β) :
    program.readings handle state ⊆ (program >>= f).readings handle state := by
  have ⟨late, whole⟩ : ∃ late, (program >>= f).trace handle state =
      program.trace handle state ++ late := exists_trace_bind program f state
  rw [readings, readings, whole, List.takeWhile_append]
  refine (List.Sublist.filterMap _ ?_).subset
  split
  · exact (List.takeWhile_sublist _).trans (List.sublist_append_left _ _)
  · exact .refl _

/-- What the second of two programs is told, it is told in both if the first sends nothing. -/
theorem readings_subset_of_bind {f : α → Program β} {a : α}
    (run : program.run handle state = (.ok a, last))
    (silent : program.requests handle state = []) :
    (f a).readings handle last ⊆ (program >>= f).readings handle state := by
  intro time told
  rw [readings, trace_bind_ok run, List.takeWhile_append_of_pos (request?_isNone silent),
    List.filterMap_append]
  exact List.mem_append_right _ told

end Program

/-! ### What is looked up -/

section

variable {session : Session} {kind : Purpose → Request → Prop}

theorem writes_readable (slot : Slot) :
    (session.readable slot
      (session.vault.read slot : Program (Option slot.Content))).Performs (Effect.Sends kind) :=
  closed_writes.readable (closed_writes.read _ _) (Vault.writes_clear _)

theorem writes_hasRefreshToken : session.hasRefreshToken.Performs (Effect.Sends kind) :=
  (writes_readable .refreshToken).bind fun _ => trivial

theorem writes_validAccessToken : session.validAccessToken.Performs (Effect.Sends kind) := by
  refine (writes_readable .accessToken).bind fun token => ?_
  cases token with
  | none => trivial
  | some token => exact .bind (.seconds trivial) fun _ => trivial

theorem writes_isLoggedIn : session.isLoggedIn.Performs (Effect.Sends kind) := by
  refine Session.writes_idToken.bind fun token => ?_
  split
  · trivial
  · refine writes_hasRefreshToken.bind fun present => ?_
    split
    · trivial
    · exact writes_validAccessToken.bind fun _ => trivial

end

namespace Custodian

variable {session : Session} {key : Aes256.Key} (custodian : Custodian σ session.vault key)
  {state last : σ} {now : Int64}

/-- The identity token that can be presented; none without single sign-on. -/
def assertion (state : σ) : Option IdToken :=
  if session.settings.ssoEnabled then custodian.content state .idToken else none

/-- The access token that is stored, unless it has expired. -/
def validToken (state : σ) (now : Int64) : Option AccessToken :=
  (custodian.content state .accessToken).filter fun token => !token.isExpiredAt now

/-- Whether there is a client credential without asking for one: a secret in the settings, or one
that is stored and has not expired. -/
def HasClient (state : σ) (now : Int64) : Prop :=
  session.settings.clientSecret.isSome = true ∨
    ∃ credential, custodian.content state .clientCredential = some credential ∧
      credential.isExpiredAt now = false

/-- Whether times are on the same side of the expiry of what is stored as a given one. -/
structure Steady (state : σ) (now : Int64) (times : List Timestamp) : Prop where
  /-- The access token is expired at all of them or at none. -/
  token {time : Timestamp} {token : AccessToken} : time ∈ times →
    custodian.content state .accessToken = some token →
      token.isExpiredAt (Int64.ofInt time.seconds) = token.isExpiredAt now
  /-- The client credential is expired at all of them or at none. -/
  client {time : Timestamp} {credential : ClientCredential} : time ∈ times →
    custodian.content state .clientCredential = some credential →
      credential.isExpiredAt (Int64.ofInt time.seconds) = credential.isExpiredAt now

variable {custodian}

theorem Steady.mono {times times' : List Timestamp} (h : custodian.Steady state now times)
    (fewer : times' ⊆ times) : custodian.Steady state now times' :=
  ⟨fun mem => h.token (fewer mem), fun mem => h.client (fewer mem)⟩

/-- What is stored may have been tidied up in between. -/
theorem Steady.of_content {times : List Timestamp} (h : custodian.Steady state now times)
    (token : custodian.content last .accessToken = custodian.content state .accessToken)
    (client : custodian.content last .clientCredential =
      custodian.content state .clientCredential) : custodian.Steady last now times :=
  ⟨fun mem stored => h.token mem (token.symm.trans stored),
    fun mem stored => h.client mem (client.symm.trans stored)⟩

/-- The identity token is looked up. -/
theorem comes_assertion (sound : custodian.IsSound state) :
    ∃ last, session.idToken.Comes custodian.handle state (.ok (custodian.assertion state)) last [] ∧
      custodian.Spares (· = .idToken) False state last := by
  unfold Session.idToken assertion
  cases session.settings.ssoEnabled with
  | false => exact ⟨state, .done (.ok none) state, .refl sound⟩
  | true =>
    obtain ⟨last, read, spares, -⟩ := comes_readable sound .idToken
    exact ⟨last, read, spares⟩

/-- The refresh token is looked up. -/
theorem comes_hasRefreshToken (sound : custodian.IsSound state) :
    ∃ last, session.hasRefreshToken.Comes custodian.handle state
        (.ok (custodian.content state .refreshToken).isSome) last [] ∧
      custodian.Spares (· = .refreshToken) False state last := by
  obtain ⟨last, read, spares, -⟩ := comes_readable sound .refreshToken
  exact ⟨last, read.bind (.done (.ok _) last), spares⟩

/-- Looking a slot up sends nothing. -/
theorem requests_readable (slot : Slot) (state : σ) :
    (session.readable slot (session.vault.read slot : Program (Option slot.Content))).requests
      custodian.handle state = [] :=
  Program.requests_eq_nil (writes_readable slot) state

/-- The clock is read. -/
theorem comes_seconds (state : σ) :
    Program.seconds.Comes custodian.handle state
      (.ok (Int64.ofInt (custodian.handle .time state).1.seconds)) (custodian.handle .time state).2
        [] :=
  (Program.Comes.ask state rfl).bind (.done (.ok _) _)

/-- The access token is looked up. It is the one that is valid at a time, if it does not expire
between that time and the readings. -/
theorem comes_validToken (sound : custodian.IsSound state)
    (steady : custodian.Steady state now
      (session.validAccessToken.readings custodian.handle state)) :
    ∃ last, session.validAccessToken.Comes custodian.handle state
        (.ok (custodian.validToken state now)) last [] ∧
      custodian.Spares (· = .accessToken) False state last ∧
      custodian.Tidied state last .accessToken := by
  obtain ⟨read, look, spares, tidied⟩ := comes_readable sound .accessToken
  unfold validToken
  cases stored : custodian.content state .accessToken with
  | none =>
    rw [stored] at look
    exact ⟨read, look.bind (.done (.ok none) read), spares, tidied⟩
  | some token =>
    rw [stored] at look
    have timed : custodian.Spares (fun _ => False) False read (custodian.handle .time read).2 :=
      spares_effect spares.sound trivial
    have told : (custodian.handle .time read).1 ∈
        session.validAccessToken.readings custodian.handle state :=
      Program.readings_subset_of_bind look.1 (requests_readable .accessToken state)
        List.mem_cons_self
    have comes : session.validAccessToken.Comes custodian.handle state
        (.ok (if token.isExpiredAt (Int64.ofInt (custodian.handle .time read).1.seconds) then none
          else some token)) (custodian.handle .time read).2 [] :=
      look.bind ((comes_seconds read).bind (.done (.ok _) _))
    refine ⟨_, ?_, spares.trans (timed.mono (fun _ => False.elim) id),
      tidied.trans (.inl (timed.slot .accessToken id))⟩
    rw [steady.token told stored] at comes
    rw [Option.filter_some]
    cases expired : token.isExpiredAt now with
    | true => rwa [expired] at comes
    | false => rwa [expired] at comes

/-- Whether the user is logged in, in terms of what is stored. -/
theorem comes_isLoggedIn (sound : custodian.IsSound state)
    (steady : custodian.Steady state now (session.isLoggedIn.readings custodian.handle state)) :
    ∃ last, session.isLoggedIn.Comes custodian.handle state
      (.ok ((custodian.assertion state).isSome || (custodian.content state .refreshToken).isSome ||
        (custodian.validToken state now).isSome)) last [] := by
  obtain ⟨asserted, assert, spares⟩ := comes_assertion sound
  obtain ⟨refreshed, refresh, spares'⟩ := comes_hasRefreshToken spares.sound
  have reached : custodian.Spares (fun slot => slot = .idToken ∨ slot = .refreshToken) False state
      refreshed := (spares.mono (fun _ => .inl) id).trans (spares'.mono (fun _ => .inr) id)
  have token : custodian.content refreshed .accessToken = custodian.content state .accessToken :=
    reached.content (by decide)
  have client : custodian.content refreshed .clientCredential =
      custodian.content state .clientCredential := reached.content (by decide)
  have kept : custodian.content asserted .refreshToken = custodian.content state .refreshToken :=
    spares.content (by decide)
  rw [kept] at refresh
  have silent : session.idToken.requests custodian.handle state = [] :=
    Program.requests_eq_nil Session.writes_idToken state
  cases asserts : custodian.assertion state with
  | some token =>
    rw [asserts] at assert
    exact ⟨asserted, assert.bind (.done (.ok true) asserted)⟩
  | none =>
  rw [asserts] at assert
  cases refreshes : custodian.content state .refreshToken with
  | some token =>
    rw [refreshes] at refresh
    exact ⟨refreshed, assert.bind (refresh.bind (.done (.ok true) refreshed))⟩
  | none =>
  rw [refreshes] at refresh
  have silent' : session.hasRefreshToken.requests custodian.handle asserted = [] :=
    Program.requests_eq_nil writes_hasRefreshToken asserted
  have fewer : session.validAccessToken.readings custodian.handle refreshed ⊆
      session.isLoggedIn.readings custodian.handle state := by
    intro time told
    refine Program.readings_subset_of_bind assert.1 silent ?_
    refine Program.readings_subset_of_bind refresh.1 silent' ?_
    exact Program.readings_subset_bind _ told
  obtain ⟨last, valid, -⟩ := comes_validToken spares'.sound
    ((steady.of_content token client).mono fewer)
  have same : custodian.validToken refreshed now = custodian.validToken state now := by
    rw [validToken, token, validToken]
  rw [same] at valid
  exact ⟨last, assert.bind (refresh.bind (valid.bind (.done (.ok _) last)))⟩

/-! ### What a token needs -/

/-- The client credential is at hand, and nothing is sent for it. -/
theorem run_ensureClientCredential (sound : custodian.IsSound state)
    (client : custodian.HasClient state now)
    (steady : custodian.Steady state now
      (session.ensureClientCredential.readings custodian.handle state)) :
    ∃ credential last, session.ensureClientCredential.run custodian.handle state =
        (.ok credential, last) ∧
      session.ensureClientCredential.requests custodian.handle state = [] ∧
      custodian.Spares (· = .clientCredential) False state last := by
  cases secret : session.settings.clientSecret.isSome with
  | true =>
    have configured : session.ensureClientCredential = session.clientCredential := if_pos secret
    rw [configured]
    obtain ⟨credential, last, run, -⟩ := run_clientCredential sound
    have tends : session.clientCredential.Performs
        (session.vault.Tends (· = .clientCredential) False) := Session.tends_clientCredential rfl
    exact ⟨credential, last, run, Program.requests_eq_nil Session.writes_clientCredential state,
      (comes_of_performs tends sound run).2⟩
  | false =>
    obtain ⟨credential, stored, unexpired⟩ := client.resolve_left (by simp [secret])
    obtain ⟨read, look, spares, -⟩ := comes_readable sound .clientCredential
    rw [stored] at look
    have timed : custodian.Spares (fun _ => False) False read (custodian.handle .time read).2 :=
      spares_effect spares.sound trivial
    have told : (custodian.handle .time read).1 ∈
        session.storedClientCredential.readings custodian.handle state :=
      Program.readings_subset_of_bind look.1 (requests_readable .clientCredential state)
        List.mem_cons_self
    have kept : session.storedClientCredential.Comes custodian.handle state
        (.ok (if credential.isExpiredAt
          (Int64.ofInt (custodian.handle .time read).1.seconds) then none else some credential))
            (custodian.handle .time read).2 [] :=
      look.bind ((comes_seconds read).bind (.done (.ok _) _))
    have silent : session.storedClientCredential.requests custodian.handle state = [] :=
      Program.requests_eq_nil (closed_writes.storedClientCredential (Vault.writes_clear _)) state
    rw [Session.ensureClientCredential, if_neg (by simp [secret])] at steady ⊢
    rw [steady.client (Program.readings_subset_bind _ told) stored, unexpired] at kept
    refine ⟨credential, _, Program.run_bind_ok kept.1, ?_,
      spares.trans (timed.mono (fun _ => False.elim) id)⟩
    rw [Program.requests_bind_ok kept.1, silent]
    rfl

/-- If no connection is made, it is the making that has failed. -/
theorem exists_connect_of_connection (sound : custodian.IsSound state) {error : Error}
    (run : session.connection.run custodian.handle state = (.error error, last)) :
    ∃ registration between, custodian.IsSound between ∧
      (custodian.handle (.connect registration) between).1 = .error error := by
  have looked := custodian.isSound .connection sound
  rw [Session.connection, Program.run_bind_ok (Program.run_ask _ _ _)] at run
  cases cached : (custodian.handle .connection state).1 with
  | some connection =>
    rw [cached] at run
    cases run
  | none =>
    rw [cached] at run
    obtain ⟨found, read, spares, -⟩ := comes_readable looked .deviceIdentity
    have identified : session.deviceIdentity.run custodian.handle _ = (.ok _, found) := read.1
    simp only [Program.run_bind_ok identified] at run
    obtain ⟨_, failed, same⟩ | ⟨_, _, -, rest⟩ := Program.run_bind_cases run
    · cases same
      exact ⟨_, found, spares.sound, congrArg Prod.fst failed⟩
    · cases rest

/-- Whether no connection fails for want of a credential. -/
def ConnectsUnasked (custodian : Custodian σ session.vault key) : Prop :=
  ∀ state registration, custodian.IsSound state →
    (custodian.handle (.connect registration) state).1 ≠ .error (.recoverable .credentialsRequired)

/-- A grant that is not sent has failed for want of a connection. -/
theorem grant_unsent (sound : custodian.IsSound state) (unasked : custodian.ConnectsUnasked)
    {client : ClientCredential} {presented : Presented} {params : Form.Params}
    (silent : (session.grant client presented params).requests custodian.handle state = []) :
    ∃ error, ((session.grant client presented params).run custodian.handle state).1 =
        .error error ∧
      Session.isGrantRejected error = false ∧ error ≠ .recoverable .credentialsRequired := by
  obtain ⟨decorated, before, decorate, spares, -⟩ :=
    comes_withDeviceHeaders sound (session.grantRequest client params)
  unfold Session.grant at silent ⊢
  rw [Program.run_bind_ok decorate.1]
  rw [Program.requests_bind_ok decorate.1] at silent
  replace silent := (List.append_eq_nil_iff.1 silent).2
  cases connected : session.connection.run custodian.handle before with
  | mk opened between =>
  cases opened with
  | error error =>
    have failed : (session.sendChecked (.grant presented) decorated).run custodian.handle before =
        (.error error, between) := Program.run_bind_error (Program.run_bind_error connected)
    obtain ⟨registration, at_, sound', answered⟩ :=
      exists_connect_of_connection spares.sound connected
    refine ⟨error, congrArg Prod.fst (Program.run_bind_error failed), ?_, ?_⟩
    · exact Session.isGrantRejected_of_refusal? (custodian.connects sound' answered)
    · rintro rfl
      exact unasked _ registration sound' answered
  | ok connection =>
    -- With a connection, the request is sent.
    have unsent := Program.requests_of_bind (Program.requests_of_bind silent)
    have sent : (session.send (.grant presented) decorated).requests custodian.handle before =
        session.connection.requests custodian.handle before ++ [decorated] :=
      Program.requests_bind_ok connected
    rw [sent] at unsent
    cases (List.append_eq_nil_iff.1 unsent).2

/-- A grant that is not sent has failed for want of a connection, even where a rejection would be
passed over. -/
theorem tryGrant_unsent (sound : custodian.IsSound state) (unasked : custodian.ConnectsUnasked)
    {client : ClientCredential} {presented : Presented} {params : Form.Params}
    (silent : (session.tryGrant client presented params).requests custodian.handle state = []) :
    ∃ error last, (session.tryGrant client presented params).run custodian.handle state =
        (.error error, last) ∧ error ≠ .recoverable .credentialsRequired := by
  cases granted : (session.grant client presented params).run custodian.handle state with
  | mk result between =>
  have unsent : (session.grant client presented params).requests custodian.handle state = [] := by
    rw [Session.tryGrant, Program.requests, Program.trace_attempt_bind granted,
      requestsAt_append] at silent
    exact (List.append_eq_nil_iff.1 silent).1
  obtain ⟨error, failed, unrefused, other⟩ := grant_unsent sound unasked unsent
  rw [granted] at failed
  obtain rfl : result = .error error := failed
  refine ⟨error, between, ?_, other⟩
  rw [Session.tryGrant, Program.run_attempt_bind granted]
  simp only [unrefused, Bool.false_eq_true, if_false]
  rfl

/-! ### Obtaining a token -/

/-- What comes of an attempt to obtain a token in which nothing is sent, given whether there was
anything to present: it fails for want of a connection, or it needs the user's credential. -/
def Unsent (custodian : Custodian σ session.vault key) (program : Program AccessToken) (state : σ)
    (presents : Prop) : Prop :=
  presents ∧ (program.requests custodian.handle state = [] →
      ∃ error, (program.run custodian.handle state).1 = .error error ∧
        error ≠ .recoverable .credentialsRequired) ∨
    ¬presents ∧ program.requests custodian.handle state = [] ∧
      (program.run custodian.handle state).1 = .error (.recoverable .credentialsRequired)

/-- An attempt to present something, with whatever follows. -/
theorem Unsent.of_tryGrant (sound : custodian.IsSound last) (unasked : custodian.ConnectsUnasked)
    {client : ClientCredential} {presented : Presented} {params : Form.Params}
    {f : Option AccessToken → Program AccessToken} {presents : Prop} (there : presents) :
    custodian.Unsent (session.tryGrant client presented params >>= f) last presents := by
  refine .inl ⟨there, fun silent => ?_⟩
  obtain ⟨error, failed, run, other⟩ :=
    tryGrant_unsent sound unasked (Program.requests_of_bind silent)
  exact ⟨error, congrArg Prod.fst (Program.run_bind_error run), other⟩

/-- After something that sends nothing. -/
theorem Unsent.of_bind {α : Type} {program : Program α} {f : α → Program AccessToken} {a : α}
    {presents : Prop} (run : program.run custodian.handle state = (.ok a, last))
    (silent : program.requests custodian.handle state = [])
    (h : custodian.Unsent (f a) last presents) :
    custodian.Unsent (program >>= f) state presents := by
  rw [Unsent, Program.run_bind_ok run, Program.requests_bind_ok run, silent, List.nil_append]
  exact h

/-- Presenting the identity token, and the user's credential after it. -/
theorem unsent_grantByIdToken (sound : custodian.IsSound state)
    (absent : custodian.user state = none) (unasked : custodian.ConnectsUnasked)
    (client : ClientCredential) :
    custodian.Unsent (do
        if let some token ← session.grantByIdToken client then return token
        session.grantByUser client) state ((custodian.assertion state).isSome = true) := by
  obtain ⟨asserted, assert, spares⟩ := comes_assertion sound
  have silent : session.idToken.requests custodian.handle state = [] :=
    Program.requests_eq_nil Session.writes_idToken state
  rw [Session.grantByIdToken, bind_assoc]
  refine .of_bind assert.1 silent ?_
  cases asserts : custodian.assertion state with
  | some token =>
    simp only [bind_assoc]
    exact .of_tryGrant spares.sound unasked rfl
  | none =>
    have user : custodian.user asserted = none := (spares.user id).trans absent
    have asked : Program.user.run custodian.handle asserted = (.ok none, _) :=
      Prod.ext (congrArg Except.ok user) rfl
    refine .inr ⟨nofun, ?_, ?_⟩
    · exact Program.requests_bind_ok asked
    · exact congrArg Prod.fst (Program.run_bind_ok asked)

/-- Presenting the refresh token, and the others after it. -/
theorem unsent_grantByRefreshToken (sound : custodian.IsSound state)
    (absent : custodian.user state = none) (unasked : custodian.ConnectsUnasked)
    (client : ClientCredential) :
    custodian.Unsent (do
        if let some token ← session.grantByRefreshToken client then return token
        if let some token ← session.grantByIdToken client then return token
        session.grantByUser client) state
      ((custodian.content state .refreshToken).isSome = true ∨
        (custodian.assertion state).isSome = true) := by
  obtain ⟨taken, take, spares, -⟩ := comes_takeRefreshToken sound
  have silent : session.takeRefreshToken.requests custodian.handle state = [] :=
    Program.requests_eq_nil (closed_writes.takeRefreshToken (.ask trivial) (.ask trivial)
      (Vault.writes_remove _)) state
  have same : custodian.assertion taken = custodian.assertion state := by
    rw [assertion, spares.content (by decide), assertion]
  rw [Session.grantByRefreshToken, bind_assoc]
  refine .of_bind take.1 silent ?_
  cases refreshes : custodian.content state .refreshToken with
  | some token => exact .of_tryGrant spares.sound unasked (.inl rfl)
  | none =>
    have rest := unsent_grantByIdToken spares.sound ((spares.user id).trans absent) unasked client
    rw [same] at rest
    simpa using rest

/-- **Obtaining a token** if nothing is sent: there is a valid one, or an attempt that comes to
nothing. -/
theorem unsent_ensureAccessToken (sound : custodian.IsSound state)
    (absent : custodian.user state = none) (client : custodian.HasClient state now)
    (unasked : custodian.ConnectsUnasked)
    (steady : custodian.Steady state now
      (session.ensureAccessToken.readings custodian.handle state)) :
    (∃ token, custodian.validToken state now = some token ∧
        (session.ensureAccessToken.run custodian.handle state).1 = .ok token) ∨
      custodian.validToken state now = none ∧
        custodian.Unsent session.ensureAccessToken state
          ((custodian.content state .refreshToken).isSome = true ∨
            (custodian.assertion state).isSome = true) := by
  have silent : session.validAccessToken.requests custodian.handle state = [] :=
    Program.requests_eq_nil writes_validAccessToken state
  obtain ⟨checked, check, spares, tidied⟩ := comes_validToken sound
    (steady.mono (Program.readings_subset_bind _))
  unfold Session.ensureAccessToken at steady ⊢
  cases valid : custodian.validToken state now with
  | some token =>
    rw [valid] at check
    exact .inl ⟨token, rfl, congrArg Prod.fst (Program.run_bind_ok check.1)⟩
  | none =>
  rw [valid] at check
  refine .inr ⟨rfl, .of_bind check.1 silent ?_⟩
  have kept : custodian.content checked .clientCredential =
      custodian.content state .clientCredential := spares.content (by decide)
  replace steady := (steady.mono (Program.readings_subset_of_bind check.1 silent)).of_content
    tidied.content_eq kept
  have at_hand : custodian.HasClient checked now := by rwa [HasClient, kept]
  obtain ⟨credential, named, run, unsent, spares'⟩ :=
    run_ensureClientCredential spares.sound at_hand
    (steady.mono (Program.readings_subset_bind _))
  have rest := unsent_grantByRefreshToken spares'.sound
    ((spares'.user id).trans ((spares.user id).trans absent)) unasked credential
  have identity : custodian.content named .idToken = custodian.content state .idToken :=
    (spares'.content (by decide)).trans (spares.content (by decide))
  have refresh : custodian.content named .refreshToken = custodian.content state .refreshToken :=
    (spares'.content (by decide)).trans (spares.content (by decide))
  rw [assertion, identity, refresh] at rest
  exact .of_bind run unsent rest

/-- **Whether the user is logged in agrees with obtaining a token**: they are not exactly if that
asks for their credential without sending anything. This holds whatever the gateway does. -/
theorem isLoggedIn_agrees (sound : custodian.IsSound state) (absent : custodian.user state = none)
    (client : custodian.HasClient state now) (unasked : custodian.ConnectsUnasked)
    (steady : custodian.Steady state now (session.isLoggedIn.readings custodian.handle state))
    (steady' : custodian.Steady state now
      (session.ensureAccessToken.readings custodian.handle state))
    (gateway : Connection → Purpose → Request → σ → Except Error Response × σ) :
    ∃ loggedIn, (session.isLoggedIn.run (facing custodian.handle gateway) state).1 = .ok loggedIn ∧
      (loggedIn = false ↔
        (session.ensureAccessToken.run (facing custodian.handle gateway) state).1 =
            .error (.recoverable .credentialsRequired) ∧
          session.ensureAccessToken.requests (facing custodian.handle gateway) state = []) := by
  obtain ⟨told, look⟩ := comes_isLoggedIn sound steady
  have silent : session.isLoggedIn.requests custodian.handle state = [] :=
    Program.requests_eq_nil writes_isLoggedIn state
  refine ⟨_, congrArg Prod.fst ((Program.run_facing silent).trans look.1), ?_⟩
  -- The gateway is only asked if something is sent.
  have apart : (session.ensureAccessToken.run (facing custodian.handle gateway) state).1 =
          .error (.recoverable .credentialsRequired) ∧
        session.ensureAccessToken.requests (facing custodian.handle gateway) state = [] ↔
      (session.ensureAccessToken.run custodian.handle state).1 =
          .error (.recoverable .credentialsRequired) ∧
        session.ensureAccessToken.requests custodian.handle state = [] := by
    rw [Program.requests_facing_eq_nil_iff]
    exact and_congr_left fun unsent => by rw [Program.run_facing unsent]
  rw [apart]
  obtain ⟨token, valid, run⟩ | ⟨invalid, ⟨presents, fails⟩ | ⟨none, unsent, asks⟩⟩ :=
    unsent_ensureAccessToken sound absent client unasked steady'
  · simp [valid, run]
  · refine iff_of_false ?_ fun ⟨asks, unsent⟩ => ?_
    · rcases presents with there | there <;> simp [there]
    · obtain ⟨error, failed, other⟩ := fails unsent
      exact other (Except.error.inj (failed.symm.trans asks))
  · refine iff_of_true ?_ ⟨asks, unsent⟩
    rw [not_or] at none
    simp [none, invalid]

/-- Surroundings in which the gateway gives the one error that is told apart from a rejection. -/
def asking : (effect : Effect) → Surroundings.Held → effect.Reply × Surroundings.Held :=
  facing Surroundings.grantingCustodian.handle fun _ _ _ held =>
    (.error (.recoverable .credentialsRequired), held)

/-- An access token that has expired, sealed. -/
def outdatedToken : Bytes :=
  Session.confidential.vault.blob (Vector.replicate 32 0) (Vector.replicate 12 0)
    (⟨"old", 0, none⟩ : AccessToken)

/-- Only that token is stored, with a refresh token and an identity token that nobody can read. -/
def outdated : Surroundings.Held where
  stored name :=
    if name = Session.confidential.vault.keyFor .accessToken then some outdatedToken
    else if name = Session.confidential.vault.keyFor .refreshToken then some []
    else if name = Session.confidential.vault.keyFor .idToken then some []
    else none
  user := none
  connection := none

/-- The clock stands still. -/
theorem steady_granting (program : Program α) (held : Surroundings.Held) :
    Surroundings.grantingCustodian.Steady held 0
      (program.readings Surroundings.grantingCustodian.handle held) := by
  have still : ∀ time ∈ program.readings Surroundings.grantingCustodian.handle held,
      time = ⟨0, 0⟩ := by
    intro time told
    obtain ⟨moment, mem, tells⟩ := List.mem_filterMap.1 told
    have answered := Program.answered_of_mem_trace ((List.takeWhile_sublist _).subset mem)
    obtain ⟨⟨effect, reply⟩, before, after⟩ := moment
    cases effect with
    | time => exact (Option.some.inj tells).symm.trans (congrArg Prod.fst answered).symm
    | _ => cases tells
  exact ⟨fun told _ => by rw [still _ told]; rfl, fun told _ => by rw [still _ told]; rfl⟩

/-- With nothing but these, the user is not logged in, and their credential is asked for. -/
theorem isLoggedIn_agrees_outdated :
    Surroundings.grantingCustodian.content outdated .accessToken = some ⟨"old", 0, none⟩ ∧
      Surroundings.grantingCustodian.inSlot outdated .refreshToken = some [] ∧
      Surroundings.grantingCustodian.content outdated .refreshToken = none ∧
      Surroundings.grantingCustodian.inSlot outdated .idToken = some [] ∧
      Surroundings.grantingCustodian.content outdated .idToken = none ∧
      (Session.confidential.isLoggedIn.run asking outdated).1 = .ok false ∧
      ∃ loggedIn, (Session.confidential.isLoggedIn.run asking outdated).1 = .ok loggedIn ∧
        (loggedIn = false ↔
          (Session.confidential.ensureAccessToken.run asking outdated).1 =
              .error (.recoverable .credentialsRequired) ∧
            Session.confidential.ensureAccessToken.requests asking outdated = []) := by
  have sound : Surroundings.grantingCustodian.IsSound outdated := trivial
  have token : Surroundings.grantingCustodian.content outdated .accessToken =
      some ⟨"old", 0, none⟩ := by
    have stored : outdated.stored (Session.confidential.vault.keyFor .accessToken) =
        some outdatedToken := by simp only [outdated, if_true]
    change (outdated.stored (Session.confidential.vault.keyFor .accessToken)).bind _ = _
    rw [stored, Option.bind_some]
    exact Vault.content?_blob (Record.faithful_accessToken _) _
  have out : (Session.confidential.isLoggedIn.run asking outdated).1 = .ok false := by
    obtain ⟨_, look⟩ := comes_isLoggedIn sound (steady_granting _ outdated)
    have silent : Session.confidential.isLoggedIn.requests
        Surroundings.grantingCustodian.handle outdated = [] :=
      Program.requests_eq_nil writes_isLoggedIn outdated
    have none : Surroundings.grantingCustodian.validToken outdated 0 = none := by
      rw [validToken, token]
      rfl
    rw [none] at look
    exact congrArg Prod.fst ((Program.run_facing silent).trans look.1)
  have unasked : Surroundings.grantingCustodian.ConnectsUnasked := by
    intro state registration _ failed
    have opened : (Surroundings.grantingCustodian.handle (.connect registration) state).1 =
        .ok () := rfl
    rw [opened] at failed
    cases failed
  exact ⟨token, rfl, rfl, rfl, rfl, out, isLoggedIn_agrees sound rfl (.inl rfl) unasked
    (steady_granting _ _) (steady_granting _ _) _⟩

end Custodian

end GatewaySession
