import GatewaySession.Engine
import GatewaySession.Proofs.Exchange.Asking
import GatewaySession.Proofs.Program.Watch

/-!
# What holds of the parts holds of the whole

The programs of a session are put together from few parts. A property of programs that sequencing,
catching errors and plain effects keep is a property of every program whose parts have it, so what
remains to be said of such a property is what it says of the parts: of emptying and filling a slot,
of the requests of each purpose, and of the few programs that a particular property is about.

A few collections of parts are enough, each put together from the one before. The *elements* are
single slots, the connection, single requests and the acceptance of an identity token; registering
and granting are put together from them. With the three *ways to a token* there is a token for a
request, and with registering and the removal of a registration these are the *parts of an attempt*:
preparing a request and reacting to a failure are put together from them. With an attempt as a whole
and the few operations that empty or take out, these make up everything an engine does but storing a
registration by itself.

Where what a request says depends on what led to it, nothing can be said of the request alone. A
property of this kind is one of *stages* taken whole: of each way to a token, of registering, of an
attempt. What is put together from stages asks for no more than that, and the stages have every
property that the parts have.

Caching a connection is kept apart from the plain effects, and a registration from the other
records, because some properties are about the two together.

The properties are those of a watch: that it is met, from every mark of some kind, and that it
leaves a mark of that kind again, which stands in some relation to the first.

## Main definitions

* `Program.Formed`, `Program.Closed` — properties that the ways of building programs keep
* `Session.Ways`, `Session.Stages`, `Session.Affairs` — the collections of stages
* `Session.Elements`, `Session.Granting`, `Session.Parts`, `Session.Workings`, `Session.Whole` — the
  collections of parts
* `Watch.Keeps` — a watch is met, and marks of a kind lead to marks of that kind

## Main results

* `Program.Formed.round`, `Program.Formed.execute` — an attempt from its steps, and executing a
  request from attempts
* `Session.Elements.register`, `Session.Elements.grant` — from the elements
* `Session.Stages.prepare`, `Session.Stages.react`, `Session.Stages.round` — an attempt, from stages
* `Session.Affairs.execute`, `Session.Affairs.deregister` — executing requests, and the engine
* `Session.Parts.stages`, `Session.Workings.affairs` — from the parts
* `Watch.closed_keeps` — what a watch says is closed
* `Watch.Keeps.withDeviceHeaders` — the device headers leave the body of a request alone
-/

namespace GatewaySession

/-- Whether an effect leaves what is stored and whoever holds it alone, and sends nothing. -/
def Effect.IsPlain : Effect → Prop
  | .write _ _ | .remove _ | .list _ | .hold | .release | .send _ _ _ => False
  | _ => True

/-- Whether a plain effect caches no connection either. -/
def Effect.IsNeutral : Effect → Prop
  | .cacheConnection (some _) => False
  | effect => effect.IsPlain

theorem Effect.IsNeutral.isPlain {effect : Effect} (neutral : effect.IsNeutral) :
    effect.IsPlain := by
  cases effect with
  | cacheConnection connection => exact trivial
  | _ => exact neutral

/-- Whether a property of programs is kept by the ways of building programs, and by neutral
effects. -/
structure Program.Formed (P : (α : Type) → Program α → Prop) : Prop where
  /-- Programs that have ended have it. -/
  done {α : Type} (result : Except Error α) : P α (.done result)
  /-- One program after another. -/
  bind {α β : Type} {program : Program α} {f : α → Program β} :
    P α program → (∀ a, P β (f a)) → P β (program >>= f)
  /-- A program whose errors are caught. -/
  attempt {α : Type} {program : Program α} : P α program → P _ program.attempt
  /-- A neutral effect first. -/
  perform {α : Type} {effect : Effect} {next : effect.Reply → Program α} :
    effect.IsNeutral → (∀ reply, P α (next reply)) → P α (.perform effect next)

/-- Whether a property of programs is kept by the ways of building programs, and by plain
effects. -/
structure Program.Closed (P : (α : Type) → Program α → Prop) : Prop extends Formed P where
  /-- Any connection is cached. -/
  caches (connection : Connection) : P _ (.ask (.cacheConnection (some connection)))

variable {P : (α : Type) → Program α → Prop} {α β : Type}

/-! ### Rules -/

namespace Program.Formed

theorem pure (formed : Formed P) (a : α) : P α (Pure.pure a) := formed.done _

theorem ofExcept (formed : Formed P) (result : Except Error α) : P α (Program.ofExcept result) :=
  formed.done result

theorem fail (formed : Formed P) (error : Error) : P α (Program.fail error) := formed.done _

theorem rescue (formed : Formed P) {program : Program α} {f : Except Error α → Program β}
    (h : P α program) (hf : ∀ result, P β (f result)) : P β (program.attempt >>= f) :=
  formed.bind (formed.attempt h) hf

theorem ask (formed : Formed P) (effect : Effect) (neutral : effect.IsNeutral) :
    P effect.Reply (Program.ask effect) :=
  formed.perform neutral fun _ => formed.done _

theorem seconds (formed : Formed P) : P Int64 Program.seconds :=
  formed.bind (formed.ask .time trivial) fun _ => formed.pure _

theorem dropUser (formed : Formed P) : P Unit Program.dropUser :=
  formed.ask (.cacheUser none) trivial

theorem dropConnection (formed : Formed P) : P Unit Program.dropConnection :=
  formed.ask (.cacheConnection none) trivial

theorem about (formed : Formed P) {operation key : String} {program : Program α}
    (h : P α program) : P α (Vault.about operation key program) := by
  refine formed.rescue h fun result => ?_
  cases result with
  | ok a => exact formed.pure a
  | error source => exact formed.fail _

/-- **Reading a slot** is plain. -/
theorem read [Record α] (formed : Formed P) (vault : Vault) (slot : Slot) :
    P (Option α) (vault.read slot) := by
  refine formed.bind (formed.about (formed.perform trivial fun _ => formed.done _)) fun found => ?_
  cases found with
  | none => exact formed.pure none
  | some blob =>
    have unsealed : P Bytes (vault.unsealed blob) :=
      formed.bind (formed.ofExcept _) fun _ =>
        formed.bind (formed.perform trivial fun _ => formed.done _) fun _ => formed.ofExcept _
    exact formed.bind unsealed fun _ => formed.bind (formed.ofExcept _) fun _ => formed.pure _

variable {session : Session}

/-- Reading a slot, and emptying it if the record is unreadable. -/
theorem readable (formed : Formed P) {slot : Slot} {program : Program (Option α)}
    (h : P _ program) (clear : P _ (session.vault.clear slot)) :
    P _ (session.readable slot program) := by
  refine formed.rescue h fun result => ?_
  split
  · exact formed.bind (formed.attempt clear) fun _ => formed.pure none
  · exact formed.ofExcept _

theorem storedClientCredential (formed : Formed P)
    (clear : P _ (session.vault.clear .clientCredential)) : P _ session.storedClientCredential := by
  refine formed.bind (formed.readable (formed.read _ _) clear) fun credential => ?_
  cases credential with
  | none => exact formed.pure none
  | some credential => exact formed.bind formed.seconds fun _ => formed.pure _

theorem clientCredential (formed : Formed P)
    (clear : P _ (session.vault.clear .clientCredential)) : P _ session.clientCredential :=
  formed.bind (formed.storedClientCredential clear) fun _ => formed.pure _

theorem deviceIdentity (formed : Formed P) (clear : P _ (session.vault.clear .deviceIdentity)) :
    P _ session.deviceIdentity :=
  formed.readable (formed.read _ _) clear

theorem withDeviceHeaders (formed : Formed P) (identity : P _ session.deviceIdentity)
    (request : Request) : P _ (session.withDeviceHeaders request) := by
  refine formed.bind identity fun identity => ?_
  cases identity with
  | none => exact formed.pure _
  | some identity => exact formed.pure _

section

variable (formed : Formed P)

include formed

theorem isDeviceRegistered (identity : P _ session.deviceIdentity) :
    P _ session.isDeviceRegistered :=
  formed.bind identity fun _ => formed.pure _

theorem accessToken (clear : P _ (session.vault.clear .accessToken)) : P _ session.accessToken :=
  formed.readable (formed.read _ _) clear

theorem validAccessToken (clear : P _ (session.vault.clear .accessToken)) :
    P _ session.validAccessToken := by
  refine formed.bind (formed.accessToken clear) fun token => ?_
  cases token with
  | none => exact formed.pure none
  | some token => exact formed.bind formed.seconds fun _ => formed.pure _

theorem idToken (clear : P _ (session.vault.clear .idToken)) : P _ session.idToken := by
  rw [Session.idToken]
  split
  · exact formed.readable (formed.read _ _) clear
  · exact formed.pure none

end

/-! #### Touching what is stored -/

/-- Sealing is plain. -/
theorem sealed (formed : Formed P) (vault : Vault) (plaintext : Bytes) :
    P _ (vault.sealed plaintext) :=
  formed.bind (formed.perform trivial fun _ => formed.done _) fun _ =>
    formed.bind (formed.ask .nonce trivial) fun _ => formed.pure _

section

variable {vault : Vault} {slot : Slot} (held : P _ (.ask .hold)) (released : P _ (.ask .release))

include held released

theorem guarded (formed : Formed P) {program : Program α} (h : P α program) :
    P α program.guarded :=
  formed.bind held fun _ => formed.rescue h fun _ =>
    formed.bind released fun _ => formed.ofExcept _

/-- Emptying a slot is a removal. -/
theorem clear (formed : Formed P) (removed : P _ (Program.remove (vault.keyFor slot))) :
    P _ (vault.clear slot) :=
  formed.guarded held released (formed.about removed)

/-- Filling a slot is a write. -/
theorem store [Record α] (formed : Formed P)
    (written : ∀ blob, P _ (Program.write (vault.keyFor slot) blob)) (value : α) :
    P _ (vault.store slot value) :=
  formed.guarded held released
    (formed.bind (formed.sealed _ _) fun _ => formed.about (written _))

/-- Emptying every slot removes what is listed. -/
theorem clearAll (formed : Formed P) (listed : P _ (Program.list vault.keyStart))
    (removed : ∀ name, P _ (Program.remove name)) : P _ vault.clearAll := by
  have all (names : List String) : P _ (Vault.removeKeys names) := by
    induction names with
    | nil => exact formed.pure ()
    | cons name names ih => exact formed.bind (formed.about (removed name)) fun _ => ih
  exact formed.guarded held released (formed.bind (formed.about listed) fun _ => all _)

/-- Taking the refresh token out is a removal at most. -/
theorem takeRefreshToken (formed : Formed P)
    (removed : P _ (Program.remove (session.vault.keyFor .refreshToken))) :
    P _ session.takeRefreshToken := by
  have taken : P (Option String) session.vault.takeRefreshToken := by
    refine formed.guarded held released (formed.rescue (formed.read _ _) fun result => ?_)
    split
    · exact formed.pure none
    · exact formed.bind (formed.about removed) fun _ => formed.pure _
    · exact formed.bind (formed.about removed) fun _ => formed.fail _
    · exact formed.fail _
  refine formed.rescue taken fun result => ?_
  split
  · exact formed.pure none
  · exact formed.ofExcept _

end

/-- An identity token that validates is stored, and the user's credential dropped. -/
theorem acceptIdToken (formed : Formed P) (clear : P _ (session.vault.clear .clientCredential))
    (kept : ∀ token, P _ (session.vault.setIdToken token)) (value : String)
    (type : Option String) : P _ (session.acceptIdToken value type) := by
  rw [Session.acceptIdToken]
  split
  · refine formed.bind (formed.clientCredential clear) fun client =>
      formed.bind formed.seconds fun now => ?_
    split
    · exact formed.fail _
    · exact formed.bind (kept _) fun _ => formed.dropUser
  · exact formed.pure ()

/-! #### Executing a request -/

section

variable (formed : Formed P)

include formed

section

variable (delivered : ∀ channel, P _ (session.deliverOtp channel))

include delivered

/-- **Asking the user** has the property if having a passcode sent has it. -/
theorem recover (obstacle : Obstacle) (need : Need) (ctx : Context) :
    P _ (session.recover obstacle need ctx) := by
  induction need, ctx using session.recover_induction obstacle with
  | exhausted need ctx _ eq =>
    rw [eq]
    exact formed.pure _
  | asks need ctx more eq again =>
    rw [eq]
    refine formed.bind (formed.ask (.ask ctx.id need) trivial) fun answer => ?_
    cases answer with
    | credentials credential =>
      exact formed.bind (formed.ask (.cacheUser (some credential)) trivial) fun _ => formed.pure _
    | otpChannel channel =>
      refine formed.rescue (delivered channel) fun result => ?_
      cases result with
      | error error => exact formed.pure _
      | ok _ => exact formed.bind (again channel) fun _ => formed.pure _
    | _ => exact formed.pure _

variable (reacted : ∀ error, P _ (session.react error))

include reacted

/-- What follows a request that was not sent. -/
theorem afterUnsent (ctx : Context) (error : Error) : P _ (session.afterUnsent ctx error) := by
  refine formed.rescue (reacted error) fun result => ?_
  split
  · exact formed.pure _
  · exact formed.pure _
  · simp only
    split
    · exact formed.pure _
    · exact formed.pure _
  · exact formed.recover delivered _ _ _

/-- What follows a refusal. -/
theorem afterRefusal (ctx : Context) (response : Response) :
    P _ (session.afterRefusal ctx response) := by
  refine formed.rescue (reacted _) fun result => ?_
  split
  · exact formed.pure _
  · exact formed.pure _
  · split
    · split
      · exact formed.bind (formed.recover delivered _ _ _) fun _ => formed.pure _
      · exact formed.pure _
    · exact formed.pure _

/-- **An attempt** has the property if its steps have it. -/
theorem round (prepared : ∀ ctx, P _ (session.prepare ctx))
    (sent : ∀ id request, P _ (session.send (.caller id) request)) (ctx : Context) :
    P _ (session.round ctx) := by
  refine formed.rescue (prepared ctx) fun result => ?_
  split
  · exact formed.afterUnsent delivered reacted _ _
  · refine formed.rescue (sent _ _) fun result => ?_
    split
    · exact formed.pure _
    · split
      · exact formed.pure _
      · exact formed.afterRefusal delivered reacted _ _

end

/-- **Executing a request** has the property if an attempt has it. -/
theorem execute (attempted : ∀ ctx, P _ (session.round ctx)) (ctx : Context) :
    P _ (session.execute ctx) := by
  induction ctx using Context.allowance_induction with
  | step ctx ih =>
    rw [Session.execute]
    refine formed.bind (attempted ctx) fun round => ?_
    cases round with
    | finished result last => exact formed.pure _
    | again next less => exact ih _ less

end

end Program.Formed

/-- The connection that is found or made is cached. -/
theorem Program.Closed.connection {session : Session} (closed : Closed P)
    (identity : P _ session.deviceIdentity) : P _ session.connection := by
  refine closed.bind (closed.ask .connection trivial) fun cached => ?_
  split
  · exact closed.pure _
  · exact closed.bind identity fun registration =>
      closed.bind (closed.perform trivial fun _ => closed.done _) fun _ =>
        closed.bind (closed.caches _) fun _ => closed.pure _

open Program (Closed Formed)

/-- The purposes of requests that neither a caller makes nor an identity or refresh token is needed
for. -/
def Purpose.isHousekeeping : Purpose → Bool
  | .asIs | .provisioning | .registration | .otpDelivery | .removal => true
  | .caller _ | .grant _ | .revocation => false

namespace Session

/-! ### Elements -/

/-- A property of single slots, the connection, single requests, and the acceptance of an identity
token. What an access token and a registration are kept for is left to what is put together. -/
structure Elements (session : Session) (P : (α : Type) → Program α → Prop) : Prop
    extends Formed P where
  /-- A slot other than that of the registration is emptied. -/
  clear (slot : Slot) : slot ≠ .deviceIdentity → P _ (session.vault.clear slot)
  /-- The registration is looked up. -/
  deviceIdentity : P _ session.deviceIdentity
  /-- There is a connection. -/
  connection : P _ session.connection
  /-- A client credential is kept. -/
  setClientCredential (credential : ClientCredential) : P _ (session.setClientCredential credential)
  /-- A refresh token is kept. -/
  setRefreshToken (token : String) : P _ (session.setRefreshToken token)
  /-- An identity token is accepted, or not. -/
  acceptIdToken (value : String) (type : Option String) : P _ (session.acceptIdToken value type)
  /-- A request that nothing special is needed for. -/
  housekeeping {purpose : Purpose} (connection : Connection) (request : Request) :
    purpose.isHousekeeping = true → P _ (Program.send connection purpose request)

namespace Elements

variable {session : Session} (elements : session.Elements P)

include elements

theorem acceptIssuedIdToken (value : String) (type : Option String) :
    P _ (session.acceptIssuedIdToken value type) := by
  refine elements.rescue (elements.acceptIdToken value type) fun result => ?_
  split
  · exact elements.pure ()
  · exact elements.ofExcept _

theorem send {purpose : Purpose} {request : Request}
    (sent : ∀ connection, P _ (Program.send connection purpose request)) :
    P _ (session.send purpose request) :=
  elements.bind elements.connection sent

theorem sendChecked {purpose : Purpose} {request : Request}
    (sent : ∀ connection, P _ (Program.send connection purpose request)) :
    P _ (session.sendChecked purpose request) :=
  elements.bind (elements.send sent) fun _ => elements.ofExcept _

theorem deviceHeaders (request : Request) : P _ (session.withDeviceHeaders request) :=
  elements.withDeviceHeaders elements.deviceIdentity request

theorem deliverOtp (channel : String) : P _ (session.deliverOtp channel) :=
  elements.bind (elements.deviceHeaders _) fun _ =>
    elements.bind (elements.sendChecked fun connection => elements.housekeeping connection _ rfl)
      fun _ => elements.pure _

theorem sendOwn {purpose : Purpose} {request : Request}
    (sent : ∀ connection request, P _ (Program.send connection purpose request)) :
    P _ (Engine.sendOwn session purpose request) :=
  elements.bind (elements.deviceHeaders _) fun _ =>
    elements.bind (elements.sendChecked fun connection => sent connection _) fun _ =>
      elements.pure _

theorem credential : P _ session.clientCredential :=
  elements.clientCredential (elements.clear _ (by decide))

theorem provision : P _ session.provision :=
  elements.bind (elements.ask .identifier trivial) fun _ =>
    elements.bind (elements.sendChecked
      fun connection => elements.housekeeping connection _ rfl) fun _ =>
    elements.bind (elements.ofExcept _) fun _ =>
    elements.bind (elements.setClientCredential _) fun _ => elements.pure _

theorem ensureClientCredential : P _ session.ensureClientCredential := by
  rw [Session.ensureClientCredential]
  split
  · exact elements.credential
  · refine elements.bind (elements.storedClientCredential (elements.clear _ (by decide)))
      fun credential => ?_
    cases credential with
    | none => exact elements.provision
    | some credential => exact elements.pure credential

theorem revokeIdToken
    (sent : ∀ connection request, P _ (Program.send connection .revocation request)) :
    P _ (Engine.revokeIdToken session) := by
  refine elements.bind (elements.idToken (elements.clear _ (by decide))) fun token => ?_
  split
  · exact elements.pure ()
  · exact elements.bind elements.credential fun _ => elements.sendOwn sent

/-- **Registering** has the property if the elements have it, and keeping the registration and
dropping the connection with whatever follows. -/
theorem registerAnew (kept : ∀ identity {rest : Program Unit}, P _ rest → P _ (do
      session.setDeviceIdentity identity
      Program.dropConnection
      rest))
    (credential : Option UserCredential) : P _ (session.register credential) := by
  refine elements.bind elements.ensureClientCredential fun client =>
    elements.bind (elements.sendChecked
      fun connection => elements.housekeeping connection _ rfl) fun response =>
    elements.bind (elements.ofExcept _) fun identifier =>
    elements.bind (elements.ask .time trivial) fun now => kept _ ?_
  split
  · exact elements.acceptIssuedIdToken _ _
  · exact elements.pure ()

/-- Registering has the property if keeping the registration has it by itself. -/
theorem register (kept : ∀ identity, P _ (session.setDeviceIdentity identity))
    (credential : Option UserCredential) : P _ (session.register credential) :=
  elements.registerAnew (fun identity _ rest => elements.bind (kept identity) fun _ =>
    elements.bind elements.dropConnection fun _ => rest) credential

theorem acceptGrant {grant : TokenGrant} (kept : ∀ now, P _ (session.setAccessToken
      (.expiringIn grant.accessToken now grant.expiresIn grant.scope))) :
    P _ (session.acceptGrant grant) := by
  rw [Session.acceptGrant]
  split
  -- An identity token is accepted first, and the rest is the same.
  case' h_1 => refine elements.bind (elements.acceptIssuedIdToken _ _) fun _ => ?_
  all_goals
    refine elements.bind elements.seconds fun now =>
      elements.bind (kept _) fun _ => ?_
    split
    · exact elements.bind (elements.setRefreshToken _) fun _ =>
        elements.bind elements.dropConnection fun _ => elements.pure _
    · exact elements.bind elements.dropConnection fun _ => elements.pure _

section

variable (kept : ∀ token, P _ (session.setAccessToken token))

include kept

variable {presented : Presented}
  (sent : ∀ connection request, P _ (Program.send connection (.grant presented) request))

include sent

/-- **A grant** has the property if the elements have it, and the request, and keeping the token. -/
theorem grant (client : ClientCredential) (params : Form.Params) :
    P _ (session.grant client presented params) :=
  elements.bind (elements.deviceHeaders _) fun _ =>
    elements.bind (elements.sendChecked fun connection => sent connection _) fun _ =>
    elements.bind (elements.ofExcept _) fun _ => elements.acceptGrant fun _ => kept _

theorem tryGrant (client : ClientCredential) (params : Form.Params) :
    P _ (session.tryGrant client presented params) := by
  refine elements.rescue (elements.grant kept sent client params) fun result => ?_
  split
  · exact elements.pure _
  · split
    · exact elements.pure none
    · exact elements.fail _

omit sent

theorem grantByRefreshToken (taken : P _ session.takeRefreshToken)
    (sent : ∀ connection request, P _ (Program.send connection (.grant .refreshToken) request))
    (client : ClientCredential) : P _ (session.grantByRefreshToken client) := by
  refine elements.bind taken fun token => ?_
  split
  · exact elements.pure none
  · exact elements.tryGrant kept sent _ _

theorem grantByIdToken
    (sent : ∀ connection request, P _ (Program.send connection (.grant .idToken) request))
    (client : ClientCredential) : P _ (session.grantByIdToken client) := by
  refine elements.bind (elements.idToken (elements.clear _ (by decide))) fun token => ?_
  split
  · exact elements.pure none
  · refine elements.bind (elements.tryGrant kept sent _ _) fun granted => ?_
    split
    · exact elements.pure _
    · exact elements.bind (elements.clear _ (by decide)) fun _ => elements.pure none

theorem grantByUser
    (sent : ∀ connection request, P _ (Program.send connection (.grant .userCredential) request))
    (client : ClientCredential) : P _ (session.grantByUser client) := by
  refine elements.bind (elements.ask .user trivial) fun credential => ?_
  split
  · exact elements.grant kept sent _ _
  · exact elements.fail _

end

end Elements

/-! ### Stages -/

/-- A property of looking for a valid access token, of the client credential, and of the three ways
to a token. -/
structure Ways (session : Session) (P : (α : Type) → Program α → Prop) : Prop
    extends Formed P where
  /-- A valid access token is looked for. -/
  validAccessToken : P _ session.validAccessToken
  /-- There is a client credential. -/
  ensureClientCredential : P _ session.ensureClientCredential
  /-- The refresh token is presented. -/
  grantByRefreshToken (client : ClientCredential) : P _ (session.grantByRefreshToken client)
  /-- The identity token is presented. -/
  grantByIdToken (client : ClientCredential) : P _ (session.grantByIdToken client)
  /-- The user's credential is presented. -/
  grantByUser (client : ClientCredential) : P _ (session.grantByUser client)

namespace Ways

variable {session : Session} (ways : session.Ways P)

include ways

theorem ensureAccessToken : P _ session.ensureAccessToken := by
  refine ways.bind ways.validAccessToken fun token => ?_
  split
  · exact ways.pure _
  refine ways.bind ways.ensureClientCredential fun client =>
    ways.bind (ways.grantByRefreshToken client) fun token => ?_
  split
  · exact ways.pure _
  refine ways.bind (ways.grantByIdToken client) fun token => ?_
  split
  · exact ways.pure _
  · exact ways.grantByUser client

/-- **A token for a request** has the property if the ways to a token have it. -/
theorem tokenFor (request : Request) : P _ (session.tokenFor request) := by
  rw [Session.tokenFor]
  split
  · exact ways.pure none
  · exact ways.bind ways.ensureAccessToken fun _ => ways.pure _

end Ways

/-- A property of the ways to a token, of registering if need be, and of emptying any slot. -/
structure Stages (session : Session) (P : (α : Type) → Program α → Prop) : Prop
    extends Ways session P where
  /-- A slot is emptied. -/
  clear (slot : Slot) : P _ (session.vault.clear slot)
  /-- The device is registered, unless it is. -/
  ensureRegistered : P _ session.ensureRegistered

namespace Stages

variable {session : Session} (stages : session.Stages P)

include stages

/-- **Preparing a request** has the property if the stages have it. -/
theorem prepare (ctx : Context) : P _ (session.prepare ctx) :=
  stages.bind stages.ensureRegistered fun _ =>
    stages.bind stages.ensureClientCredential fun _ => stages.bind (stages.tokenFor _) fun _ =>
      stages.bind (stages.withDeviceHeaders (stages.deviceIdentity (stages.clear _)) _) fun _ =>
        stages.pure _

theorem clearUserTokens : P _ session.clearUserTokens :=
  stages.bind (stages.clear _) fun _ => stages.bind (stages.clear _) fun _ =>
    stages.bind (stages.clear _) fun _ => stages.dropUser

theorem reactTo (refusal : Refusal) : P _ (session.reactTo refusal) := by
  cases refusal with
  | invalidAccessToken => exact stages.bind (stages.clear _) fun _ => stages.pure _
  | accessTokenExpired => exact stages.bind (stages.clear _) fun _ => stages.pure _
  | clientCertificateExpired =>
    exact stages.bind (stages.clear _) fun _ =>
      stages.bind stages.dropConnection fun _ => stages.pure _
  | invalidResourceOwner => exact stages.bind stages.clearUserTokens fun _ => stages.pure _
  | invalidClientCredential =>
    exact stages.bind (stages.clear _) fun _ =>
      stages.bind stages.dropConnection fun _ => stages.pure _
  | _ => exact stages.pure _

/-- **Reacting to a failure** has the property if the stages have it. -/
theorem react (error : Error) : P _ (session.react error) := by
  unfold Session.react
  split
  · exact stages.pure _
  · split
    · exact stages.pure _
    · exact stages.reactTo _
    · exact stages.pure _

/-- **An attempt** has the property if the stages have it, having a passcode sent, and the request
of the caller. -/
theorem round (delivered : ∀ channel, P _ (session.deliverOtp channel))
    (sent : ∀ id request, P _ (session.send (.caller id) request)) (ctx : Context) :
    P _ (session.round ctx) :=
  stages.toFormed.round delivered stages.react stages.prepare sent ctx

end Stages

/-- A property of the stages, of an attempt, and of what else is done with a session, except that a
registration is stored by itself. -/
structure Affairs (session : Session) (P : (α : Type) → Program α → Prop) : Prop
    extends Stages session P where
  /-- An attempt is made. -/
  round (ctx : Context) : P _ (session.round ctx)
  /-- A one-time passcode is sent. -/
  deliverOtp (channel : String) : P _ (session.deliverOtp channel)
  /-- The gateway is asked to revoke the identity token. -/
  revokeIdToken : P _ (Engine.revokeIdToken session)
  /-- The gateway is asked to remove the device. -/
  removeDevice : P _ (Engine.removeDevice session)
  /-- A request is sent as it is. -/
  sendAsIs (request : Request) : P _ (session.send .asIs request)
  /-- An access token is accepted. -/
  setAccessToken (token : AccessToken) : P _ (session.setAccessToken token)
  /-- A refresh token is kept. -/
  setRefreshToken (token : String) : P _ (session.setRefreshToken token)
  /-- The refresh token is taken out. -/
  takeRefreshToken : P _ session.takeRefreshToken
  /-- An identity token is accepted, or not. -/
  acceptIdToken (value : String) (type : Option String) : P _ (session.acceptIdToken value type)
  /-- A client credential is kept. -/
  setClientCredential (credential : ClientCredential) : P _ (session.setClientCredential credential)
  /-- The client id is recorded. -/
  setConfiguredClientId (clientId : String) : P _ (session.vault.setConfiguredClientId clientId)
  /-- Every slot is emptied. -/
  clearAll : P _ session.vault.clearAll

namespace Affairs

variable {session : Session} (affairs : session.Affairs P)

include affairs

theorem hasRefreshToken : P _ session.hasRefreshToken :=
  affairs.bind (affairs.readable (affairs.read _ _) (affairs.clear _)) fun _ => affairs.pure _

theorem isLoggedIn : P _ session.isLoggedIn := by
  refine affairs.bind (affairs.idToken (affairs.clear _)) fun token => ?_
  split
  · exact affairs.pure true
  · refine affairs.bind affairs.hasRefreshToken fun present => ?_
    split
    · exact affairs.pure true
    · exact affairs.bind affairs.validAccessToken fun _ => affairs.pure _

theorem isAccessTokenExpired : P _ session.isAccessTokenExpired :=
  affairs.bind affairs.validAccessToken fun _ => affairs.pure _

/-- **Executing a request** has the property. -/
theorem execute (ctx : Context) : P _ (session.execute ctx) :=
  affairs.toFormed.execute affairs.round ctx

/-! #### The engine -/

theorem destroyAll : P _ session.destroyAll :=
  affairs.bind affairs.dropUser fun _ => affairs.clearAll

theorem recordedClientId : P _ session.recordedClientId := by
  refine affairs.rescue (affairs.read _ _) fun result => ?_
  split
  · exact affairs.pure _
  · exact affairs.fail _
  · exact affairs.pure _

theorem reconcile : P _ session.reconcile := by
  have record (foreign : Bool) : P _ (do
      session.vault.setConfiguredClientId session.settings.clientId
      return foreign) :=
    affairs.bind (affairs.setConfiguredClientId _) fun _ => affairs.pure _
  have settle (foreign : Bool) : P _ (if foreign then do
        session.destroyAll
        session.vault.setConfiguredClientId session.settings.clientId
        return foreign
      else do
        session.vault.setConfiguredClientId session.settings.clientId
        return foreign) := by
    split
    · exact affairs.bind affairs.destroyAll fun _ => record _
    · exact record _
  exact affairs.bind affairs.recordedClientId fun _ => settle _

theorem thenAlways {tell clear : Program Unit} (told : P _ tell) (cleared : P _ clear) :
    P _ (Engine.thenAlways tell clear) :=
  affairs.rescue told fun _ => affairs.bind cleared fun _ => affairs.ofExcept _

theorem logout (contactServer : Bool) : P _ (Engine.logout session contactServer) := by
  refine affairs.thenAlways ?_
    (affairs.bind affairs.clearUserTokens fun _ => affairs.dropConnection)
  split
  · exact affairs.revokeIdToken
  · exact affairs.pure ()

theorem forgetAll : P _ (Engine.destroyAll session) :=
  affairs.bind affairs.destroyAll fun _ => affairs.bind affairs.dropConnection fun _ =>
    affairs.bind affairs.reconcile fun _ => affairs.pure ()

theorem deregister : P _ (Engine.deregister session) :=
  affairs.thenAlways affairs.removeDevice affairs.forgetAll

end Affairs

/-! ### The ways to a token -/

/-- A property of the elements and of the three ways to a token. -/
structure Granting (session : Session) (P : (α : Type) → Program α → Prop) : Prop
    extends Elements session P where
  /-- The refresh token is presented. -/
  grantByRefreshToken (client : ClientCredential) : P _ (session.grantByRefreshToken client)
  /-- The identity token is presented. -/
  grantByIdToken (client : ClientCredential) : P _ (session.grantByIdToken client)
  /-- The user's credential is presented. -/
  grantByUser (client : ClientCredential) : P _ (session.grantByUser client)

theorem Granting.ways {session : Session} (granting : session.Granting P) : session.Ways P where
  toFormed := granting.toFormed
  validAccessToken := granting.validAccessToken (granting.clear _ (by decide))
  ensureClientCredential := granting.ensureClientCredential
  grantByRefreshToken := granting.grantByRefreshToken
  grantByIdToken := granting.grantByIdToken
  grantByUser := granting.grantByUser

/-! ### Parts of an attempt -/

/-- A property of the ways to a token, of registering, and of removing the registration. -/
structure Parts (session : Session) (P : (α : Type) → Program α → Prop) : Prop
    extends Granting session P where
  /-- The registration is removed. -/
  clearDeviceIdentity : P _ session.clearDeviceIdentity
  /-- The device is registered. -/
  register (credential : Option UserCredential) : P _ (session.register credential)

namespace Parts

variable {session : Session} (parts : session.Parts P)

include parts

/-- **The stages** have the property if the parts have it. -/
theorem stages : session.Stages P where
  toWays := parts.ways
  clear slot := by
    by_cases device : slot = .deviceIdentity
    · exact device ▸ parts.clearDeviceIdentity
    · exact parts.clear slot device
  ensureRegistered := by
    refine parts.bind (parts.isDeviceRegistered parts.deviceIdentity) fun registered => ?_
    split
    · exact parts.pure ()
    · refine parts.bind (parts.ask .user trivial) fun credential => ?_
      split
      · exact parts.fail _
      · exact parts.register credential

theorem afterUnsent (ctx : Context) (error : Error) : P _ (session.afterUnsent ctx error) :=
  parts.toFormed.afterUnsent parts.deliverOtp parts.stages.react ctx error

theorem afterRefusal (ctx : Context) (response : Response) :
    P _ (session.afterRefusal ctx response) :=
  parts.toFormed.afterRefusal parts.deliverOtp parts.stages.react ctx response

/-- **An attempt** has the property if the parts have it, and the request of the caller. -/
theorem round (sent : ∀ id connection request, P _ (Program.send connection (.caller id) request))
    (ctx : Context) : P _ (session.round ctx) :=
  parts.stages.round parts.deliverOtp
    (fun id request => parts.send fun connection => sent id connection request) ctx

end Parts

/-! ### Everything an engine does -/

/-- A property of the parts, of an attempt, and of what else an engine does with a session. -/
structure Workings (session : Session) (P : (α : Type) → Program α → Prop) : Prop
    extends Parts session P where
  /-- An access token is accepted. -/
  setAccessToken (token : AccessToken) : P _ (session.setAccessToken token)
  /-- The client id is recorded. -/
  setConfiguredClientId (clientId : String) : P _ (session.vault.setConfiguredClientId clientId)
  /-- An attempt is made. -/
  round (ctx : Context) : P _ (session.round ctx)
  /-- Every slot is emptied. -/
  clearAll : P _ session.vault.clearAll
  /-- The refresh token is taken out. -/
  takeRefreshToken : P _ session.takeRefreshToken
  /-- The gateway is asked to revoke the identity token. -/
  revokeIdToken : P _ (Engine.revokeIdToken session)

/-- **The affairs of a session** have the property if everything an engine does has it. -/
theorem Workings.affairs {session : Session} (workings : session.Workings P) :
    session.Affairs P where
  toStages := workings.stages
  round := workings.round
  deliverOtp := workings.deliverOtp
  revokeIdToken := workings.revokeIdToken
  removeDevice := by
    refine workings.bind (workings.isDeviceRegistered workings.deviceIdentity) fun registered => ?_
    split
    · exact workings.sendOwn fun connection request => workings.housekeeping connection request rfl
    · exact workings.pure ()
  sendAsIs request := workings.send fun connection => workings.housekeeping connection request rfl
  setAccessToken := workings.setAccessToken
  setRefreshToken := workings.setRefreshToken
  takeRefreshToken := workings.takeRefreshToken
  acceptIdToken := workings.acceptIdToken
  setClientCredential := workings.setClientCredential
  setConfiguredClientId := workings.setConfiguredClientId
  clearAll := workings.clearAll

/-- A property of everything an engine does, and of storing a registration by itself. -/
structure Whole (session : Session) (P : (α : Type) → Program α → Prop) : Prop
    extends Workings session P where
  /-- A registration is kept. -/
  setDeviceIdentity (identity : DeviceIdentity) : P _ (session.setDeviceIdentity identity)

end Session

/-! ### Watches -/

/-- Whether a watch is met from every mark of a kind, and leaves a mark of that kind which stands in
a relation to the first. -/
def Watch.Keeps {γ : Type} (watch : Watch γ) (kind : γ → Prop) (leads : γ → γ → Prop)
    (α : Type) (program : Program α) : Prop :=
  ∀ mark, kind mark → program.Meets watch (fun last _ => kind last ∧ leads mark last) mark

/-- **What a watch says is closed**, if it permits plain effects and they keep what is to be
kept. -/
theorem Watch.closed_keeps {γ : Type} {watch : Watch γ} {kind : γ → Prop} {leads : γ → γ → Prop}
    (refl : ∀ mark, leads mark mark)
    (trans : ∀ {first second third}, leads first second → leads second third → leads first third)
    (plain : ∀ {mark effect}, effect.IsPlain → kind mark → watch.permits mark effect ∧
      ∀ reply, kind (watch.next mark effect reply) ∧ leads mark (watch.next mark effect reply)) :
    Program.Closed (watch.Keeps kind leads) where
  done _ mark h := ⟨h, refl mark⟩
  bind := by
    intro α β program f h hf mark start
    refine Program.Meets.bind ((h mark start).mono ?_)
    rintro between (error | a) ⟨kept, reached⟩
    · exact ⟨kept, reached⟩
    · exact (hf a between kept).mono fun _ _ ⟨kept, more⟩ => ⟨kept, trans reached more⟩
  attempt := by
    intro α program h mark start
    exact Program.Meets.attempt (h mark start)
  perform := by
    intro α effect next neutral h mark start
    obtain ⟨permitted, kept⟩ := plain neutral.isPlain start
    refine ⟨permitted, fun reply _ => ?_⟩
    obtain ⟨same, reached⟩ := kept reply
    exact (h reply _ same).mono fun _ _ ⟨kept, more⟩ => ⟨kept, trans reached more⟩
  caches := by
    intro connection mark start
    have isPlain : (Effect.cacheConnection (some connection)).IsPlain := trivial
    obtain ⟨permitted, kept⟩ := plain isPlain start
    exact ⟨permitted, fun reply _ => kept reply⟩

/-- A program of a kind, and another after it. -/
theorem Watch.Keeps.bind {γ : Type} {watch : Watch γ} {kind : γ → Prop} {leads : γ → γ → Prop}
    {post : γ → Except Error β → Prop} {program : Program α} {f : α → Program β} {mark : γ}
    (h : watch.Keeps kind leads α program) (start : kind mark)
    (failed : ∀ last error, kind last → leads mark last → post last (.error error))
    (hf : ∀ last a, kind last → leads mark last → (f a).Meets watch post last) :
    (program >>= f).Meets watch post mark := by
  refine Program.Meets.bind ((h mark start).mono ?_)
  rintro last (error | a) ⟨kept, reached⟩
  · exact failed last error kept reached
  · exact hf last a kept reached

/-- The device headers leave the body alone. -/
theorem Watch.Keeps.withDeviceHeaders {γ : Type} {watch : Watch γ} {kind : γ → Prop}
    {leads : γ → γ → Prop} {session : Session} {mark : γ} (closed : Closed (watch.Keeps kind leads))
    (clear : watch.Keeps kind leads _ (session.vault.clear .deviceIdentity)) (start : kind mark)
    (request : Request) :
    (session.withDeviceHeaders request).Meets watch (fun last result =>
      (kind last ∧ leads mark last) ∧ ∀ decorated, result = .ok decorated →
        decorated.body = request.body) mark := by
  refine Watch.Keeps.bind (closed.deviceIdentity clear) start
    (fun _ _ kept led => ⟨⟨kept, led⟩, nofun⟩) fun last identity kept led => ?_
  cases identity with
  | none => exact ⟨⟨kept, led⟩, fun _ done => Except.ok.inj done ▸ rfl⟩
  | some identity => exact ⟨⟨kept, led⟩, fun _ done => Except.ok.inj done ▸ rfl⟩

end GatewaySession
