import GatewaySession.Proofs.Exchange.Retry
import GatewaySession.Proofs.Vault.Moments

/-!
# Between two requests of an execution

Executing a request follows the rule of renewal, which is about answers. Here the surroundings keep
what is stored, so the answers tell what is stored: a record that is found after a removal was
written in between, and what was written followed the rule at that moment. So where a request that
was refused is sent again, the moments in between show the renewal of what was refused. A token was
granted and then stored, a registration was accepted and then stored, or the user was asked; and
what was presented to the gateway after it had refused the user is not what was there before.

The surroundings may do anything else: fail at any effect, lock the key store, refuse again, or
cache another credential of the user.

## Main definitions

* `Session.Afresh` — a grant presents what came to be there at one of some moments
* `Session.RenewedBetween` — what has happened between a refusal and the next request

## Main results

* `Session.ruled_of_trace` — what follows a request of a caller follows the rule
* `Session.execute_renews` — what was refused has been renewed
-/

namespace GatewaySession

open Program (Meets)

/-! ### Runs of a keeper -/

theorem Event.eq_callerSend {event : Event} (h : event.effect.isCallerSend = true) :
    ∃ connection id request reply,
      event = ⟨.send connection (.caller id) request, reply⟩ := by
  obtain ⟨effect, reply⟩ := event
  cases effect with
  | send connection purpose request =>
    cases purpose with
    | caller id => exact ⟨connection, id, request, reply, rfl⟩
    | _ => cases h
  | _ => cases h

namespace Session

/-! ### Between two requests -/

section

variable {σ : Type} {session : Session} {key : Aes256.Key} (keeper : Keeper σ session.vault key)
  (cached : σ → Option UserCredential)

/-- Whether what a grant presents came to be there at one of some moments. -/
def Afresh (since : List (Moment σ)) (request : Request) : Presented → Prop
  | .refreshToken => ∃ token blob, session.Carries request (refreshParams token) ∧
      session.vault.content? key blob = some token ∧
        ∃ moment ∈ since, keeper.Stores .refreshToken blob moment
  | .idToken => ∃ token blob, session.Carries request (assertionParams token) ∧
      session.vault.content? key blob = some token ∧
        ∃ moment ∈ since, keeper.Stores .idToken blob moment
  | .userCredential => ∃ credential : UserCredential,
      session.Carries request credential.grantParams ∧
        ∃ moment ∈ since, cached moment.before ≠ some credential ∧
          cached moment.after = some credential

/-- What has happened between a refusal and the moment at which the request is sent again. -/
structure RenewedBetween (isPublic : Bool) (refusal : Refusal) (between : List (Moment σ)) :
    Prop where
  /-- The gateway has granted an access token, and it was stored. -/
  token : refusal ∈ [.invalidAccessToken, .accessTokenExpired, .invalidResourceOwner] →
    isPublic = false → ∃ early stored late, between = early ++ stored :: late ∧
      ∃ granted ∈ early, ∃ grant now nonce, granted.toEvent.Grants grant ∧
        keeper.Stores .accessToken (session.vault.blob key nonce
          (AccessToken.expiringIn grant.accessToken now grant.expiresIn grant.scope)) stored
  /-- Whatever was presented for a token came to be there after a refusal of the user. -/
  presented : refusal = .invalidResourceOwner → ∀ early moment late connection presented request,
    between = early ++ moment :: late →
      moment.effect = .send connection (.grant presented) request →
        Afresh keeper cached early request presented
  /-- The gateway has accepted a registration, and it was stored. -/
  registration : refusal = .clientCertificateExpired →
    ∃ early stored late, between = early ++ stored :: late ∧
      ∃ accepted ∈ early, ∃ (identity : DeviceIdentity) (nonce : _),
        accepted.toEvent.Registers identity.certificatePem identity.magIdentifier ∧
          keeper.Stores .deviceIdentity (session.vault.blob key nonce identity) stored
  /-- The user was asked for a passcode, and has supplied something. -/
  passcode : refusal.isOtp = true → ∃ moment ∈ between, moment.toEvent.SuppliesOtp

end

section

variable {σ : Type} {session : Session} {key : Aes256.Key} {keeper : Keeper σ session.vault key}
  {isPublic : Bool}

/-- The chronicle after a request of a caller and what followed. -/
theorem markAfter_renewing {start : Stretch} {first since : List Event} {connection : Connection}
    {id : Nat} {request : Request} {reply : Except Error Response}
    (quiet : ∀ event ∈ since, event.effect.isCallerSend = false) :
    (session.renewing key isPublic).markAfter start
        (first ++ ⟨.send connection (.caller id) request, reply⟩ :: since) =
      ⟨some reply, since⟩ := by
  have added (known : List Event) (answer : Option (Except Error Response)) :
      (session.renewing key isPublic).markAfter ⟨answer, known⟩ since =
        ⟨answer, known ++ since⟩ := by
    induction since generalizing known with
    | nil => rw [List.append_nil]; rfl
    | cons event since ih =>
      obtain ⟨own, quiet⟩ := List.forall_mem_cons.1 quiet
      have step := ih quiet (known ++ [event])
      rw [List.append_assoc] at step
      refine Eq.trans ?_ step
      rw [Watch.markAfter, List.foldl_cons]
      exact congrArg (fun mark => (session.renewing key isPublic).markAfter mark since)
        (Stretch.add_eq _ own event.reply)
  rw [Watch.markAfter, List.foldl_append, List.foldl_cons]
  exact added [] (some reply)

/-- The moments of an event and of an earlier one. -/
theorem exists_moments {moments : List (Moment σ)} {early late : List Event} {gone event : Event}
    (h : moments.map (·.toEvent) = early ++ event :: late) (mem : gone ∈ early) :
    ∃ before removed mid found after, moments = before ++ removed :: (mid ++ found :: after) ∧
      removed.toEvent = gone ∧ found.toEvent = event := by
  obtain ⟨earlier, later, rfl, rfl, split⟩ := List.map_eq_append_iff.1 h
  obtain ⟨found, after, rfl, rfl, -⟩ := List.map_eq_cons_iff.1 split
  obtain ⟨removed, within, rfl⟩ := List.mem_map.1 mem
  obtain ⟨before, mid, rfl⟩ := List.append_of_mem within
  exact ⟨before, removed, mid, found, after, by simp, rfl, rfl⟩

section

variable {moments : List (Moment σ)} {answer : Option (Except Error Response)} {slot : Slot}
  (answered : ∀ moment ∈ moments, keeper.Answered moment)

include answered

/-- What is read after a removal was stored in between. -/
theorem stores_of_found {first last : String → Option Bytes} {before mid after : List (Moment σ)}
    {removed found : Moment σ} {blob : Bytes} (linked : Linked keeper.stored first moments last)
    (split : moments = before ++ removed :: (mid ++ found :: after))
    (gone : removed.toEvent = session.removal slot)
    (read : found.toEvent = ⟨.read (session.vault.keyFor slot), .ok (some blob)⟩) :
    ∃ early stored late, moments = early ++ stored :: late ∧ keeper.Stores slot blob stored := by
  subst split
  have absent : keeper.stored removed.after (session.vault.keyFor slot) ≠ some blob := fun same =>
    nomatch ((answered removed (by simp)).leaves.removed gone).symm.trans same
  obtain ⟨early, stored, late, rfl, stores⟩ := Moment.exists_stores
    (fun moment mem => (answered moment (by simp [mem])).leaves) linked.between absent
    ((answered found (by simp)).read read).symm
  exact ⟨before ++ removed :: early, stored, late ++ found :: after, by simp, stores⟩

/-- A slot that was refilled was stored to. -/
theorem stores_of_refilled {first last : String → Option Bytes}
    (linked : Linked keeper.stored first moments last)
    (refilled : session.Refilled slot ⟨answer, moments.map (·.toEvent)⟩) :
    ∃ early stored late blob, moments = early ++ stored :: late ∧
      keeper.Stores slot blob stored := by
  obtain ⟨early, event, late, split, ⟨blob, read⟩ | ⟨blob, written⟩, mem⟩ := refilled
  · obtain ⟨before, removed, mid, found, after, same, gone, rfl⟩ := exists_moments split mem
    obtain ⟨early, stored, late, eq, stores⟩ := stores_of_found answered linked same gone read
    exact ⟨early, stored, late, blob, eq, stores⟩
  · obtain ⟨before, removed, mid, found, after, rfl, -, rfl⟩ := exists_moments split mem
    exact ⟨before ++ removed :: mid, found, after, blob, by simp,
      (answered found (by simp)).leaves.stores written⟩

/-- A record that was found afresh was stored. -/
theorem stores_of_fresh {α : Type} [Record α] {value : α} {first last : String → Option Bytes}
    (linked : Linked keeper.stored first moments last)
    (fresh : Fresh (session.vault.Found key slot value) (session.removal slot)
      ⟨answer, moments.map (·.toEvent)⟩)
    (refused : Stretch.refusal? ⟨answer, moments.map (·.toEvent)⟩ = some .invalidResourceOwner) :
    ∃ blob, session.vault.content? key blob = some value ∧
      ∃ stored ∈ moments, keeper.Stores slot blob stored := by
  obtain ⟨early, event, late, split, ⟨blob, read, content⟩, gone⟩ := fresh
  obtain ⟨before, removed, mid, found, after, same, gone, rfl⟩ :=
    exists_moments split (gone refused)
  obtain ⟨early, stored, late, rfl, stores⟩ := stores_of_found answered linked same gone read
  exact ⟨blob, content, stored, by simp, stores⟩

/-- A credential that was found afresh was cached. -/
theorem cached_of_fresh {cached : σ → Option UserCredential}
    (kept : ∀ state, (keeper.handle .user state).1 = cached state)
    (dropped : ∀ state, cached (keeper.handle (.cacheUser none) state).2 = none)
    {credential : UserCredential} {first last : Option UserCredential}
    (linked : Linked cached first moments last)
    (fresh : Fresh (· = ⟨.user, some credential⟩) ⟨.cacheUser none, ()⟩
      ⟨answer, moments.map (·.toEvent)⟩)
    (refused : Stretch.refusal? ⟨answer, moments.map (·.toEvent)⟩ = some .invalidResourceOwner) :
    ∃ moment ∈ moments, cached moment.before ≠ some credential ∧
      cached moment.after = some credential := by
  obtain ⟨early, event, late, split, rfl, gone⟩ := fresh
  obtain ⟨before, removed, mid, found, after, rfl, gone, read⟩ :=
    exists_moments split (gone refused)
  have absent : cached removed.after = none := by
    have here := (answered removed (by simp)).2
    obtain ⟨⟨effect, reply⟩, _, _⟩ := removed
    cases gone
    exact (congrArg (fun answer => cached answer.2) here).symm.trans (dropped _)
  have present : cached found.before = some credential := by
    have here := (answered found (by simp)).2
    obtain ⟨⟨effect, reply⟩, _, _⟩ := found
    cases read
    exact (kept _).symm.trans (congrArg Prod.fst here)
  obtain ⟨_, moment, _, rfl, turned⟩ := linked.between.exists_turn
    (· = some credential) (fun same => nomatch absent.symm.trans same) present
  exact ⟨moment, by simp, turned⟩

end

variable (keeper isPublic) in
/-- What is known of the moments after a request of a caller in an execution. -/
structure Following (reply : Except Error Response) (moments : List (Moment σ)) : Prop where
  /-- They are answers of the keeper. -/
  answered : ∀ moment ∈ moments, keeper.Answered moment
  /-- They follow one another. -/
  linked {β : Type} (view : σ → β) : ∃ first last, Linked view first moments last
  /-- They follow the rule, with what has happened since the request. -/
  ruled {early late : List (Moment σ)} {moment : Moment σ} :
    moments = early ++ moment :: late → moment.effect.isRuled = true →
      session.renewal key isPublic ⟨some reply, early.map (·.toEvent)⟩ moment.effect

section

variable {ctx : Context} {state : σ} (sound : keeper.IsSound state)
  {first since late : List (Moment σ)} {sent moment : Moment σ} {connection : Connection}
  {id : Nat} {request : Request}
  {reply : Except Error Response}
  (event : sent.toEvent = ⟨.send connection (.caller id) request, reply⟩)
  (quiet : ∀ moment ∈ since, moment.effect.isCallerSend = false)

include sound event quiet

/-- What follows a request of a caller in an execution follows the rule, with what has happened
since. -/
theorem ruled_of_trace
    (split : (session.execute ctx).trace keeper.handle state =
      first ++ sent :: (since ++ moment :: late)) (ruled : moment.effect.isRuled = true) :
    session.renewal key ctx.request.isPublic ⟨some reply, since.map (·.toEvent)⟩ moment.effect := by
  have followed : (session.execute ctx).Meets (session.renewing key ctx.request.isPublic)
      (fun _ _ => True) ⟨none, []⟩ := renewal_execute (.inl rfl) rfl
  have split' : (session.execute ctx).trace keeper.handle state =
      (first ++ sent :: since) ++ moment :: late := split.trans (by simp)
  have permitted := followed.trace (fun effect _ => keeper.isSound effect)
    (fun effect _ => keeper.keyed effect) sound split'
  rw [List.map_append, List.map_cons, event, markAfter_renewing] at permitted
  · exact permitted ruled
  · simpa using quiet

theorem following_of_trace
    (split : (session.execute ctx).trace keeper.handle state = first ++ sent :: (since ++ late)) :
    Following keeper ctx.request.isPublic reply since where
  answered moment mem := by
    have within : moment ∈ (session.execute ctx).trace keeper.handle state := by
      rw [split]
      simp [mem]
    exact Keeper.answered_of_mem_trace sound within
  linked view := by
    have whole := (session.execute ctx).linked_trace keeper.handle view state
    rw [split] at whole
    obtain ⟨_, -, -, whole⟩ := Linked.append.1 whole
    obtain ⟨last, whole, -⟩ := Linked.append.1 whole
    exact ⟨_, last, whole⟩
  ruled {early late' moment} within ruled := by
    have earlier : ∀ moment ∈ early, moment.effect.isCallerSend = false :=
      fun moment mem => quiet moment (by simp [within, mem])
    have split' : (session.execute ctx).trace keeper.handle state =
        first ++ sent :: (early ++ moment :: (late' ++ late)) := split.trans (by simp [within])
    exact ruled_of_trace sound event earlier split' ruled

end

namespace Following

variable {reply : Except Error Response} {moments : List (Moment σ)}
  (following : Following keeper isPublic reply moments)

include following

/-- A refilled slot was stored to, and what was stored there followed the rule of the slot. -/
theorem exists_stores {answer : Option (Except Error Response)} {slot : Slot}
    (refilled : session.Refilled slot ⟨answer, moments.map (·.toEvent)⟩) :
    ∃ early stored late blob, moments = early ++ stored :: late ∧
      keeper.Stores slot blob stored ∧
        session.slotRule key ⟨some reply, early.map (·.toEvent)⟩ blob slot := by
  obtain ⟨_, _, linked⟩ := following.linked keeper.stored
  obtain ⟨early, stored, late, blob, split, effect, filled⟩ :=
    stores_of_refilled following.answered linked refilled
  have followed := following.ruled split (effect ▸ rfl)
  rw [effect] at followed
  exact ⟨early, stored, late, blob, split, ⟨effect, filled⟩, followed slot rfl⟩

/-- Before a moment, everything is as it is for all. -/
theorem before {early late : List (Moment σ)} {moment : Moment σ}
    (split : moments = early ++ moment :: late) : Following keeper isPublic reply early where
  answered other mem := following.answered other (by simp [split, mem])
  linked view := by
    obtain ⟨first, last, linked⟩ := following.linked view
    rw [split] at linked
    obtain ⟨between, linked, -⟩ := Linked.append.1 linked
    exact ⟨first, between, linked⟩
  ruled within ruled := following.ruled (by rw [split, within, List.append_assoc]; rfl) ruled

/-- What is presented after a refusal of the user came to be there since. -/
theorem afresh {cached : σ → Option UserCredential}
    (kept : ∀ state, (keeper.handle .user state).1 = cached state)
    (dropped : ∀ state, cached (keeper.handle (.cacheUser none) state).2 = none)
    (refused : Stretch.refusal? ⟨some reply, []⟩ = some .invalidResourceOwner)
    {early late : List (Moment σ)} {moment : Moment σ} {connection : Connection}
    {presented : Presented} {request : Request} (split : moments = early ++ moment :: late)
    (sent : moment.effect = .send connection (.grant presented) request) :
    Afresh keeper cached early request presented := by
  have followed := following.ruled split (sent ▸ rfl)
  rw [sent] at followed
  have earlier := following.before split
  obtain ⟨_, _, stored⟩ := earlier.linked keeper.stored
  obtain ⟨_, _, user⟩ := earlier.linked cached
  cases presented with
  | refreshToken =>
    obtain ⟨token, carries, fresh⟩ := followed
    obtain ⟨blob, content, stores⟩ := stores_of_fresh earlier.answered stored fresh refused
    exact ⟨token, blob, carries, content, stores⟩
  | idToken =>
    obtain ⟨token, carries, fresh⟩ := followed
    obtain ⟨blob, content, stores⟩ := stores_of_fresh earlier.answered stored fresh refused
    exact ⟨token, blob, carries, content, stores⟩
  | userCredential =>
    obtain ⟨credential, carries, fresh⟩ := followed
    exact ⟨credential, carries,
      cached_of_fresh earlier.answered kept dropped user fresh refused⟩

/-- What has happened before a request that follows a rule has renewed what was refused. -/
theorem renewedBetween {cached : σ → Option UserCredential}
    (kept : ∀ state, (keeper.handle .user state).1 = cached state)
    (dropped : ∀ state, cached (keeper.handle (.cacheUser none) state).2 = none)
    (renewed : session.Renewed isPublic ⟨some reply, moments.map (·.toEvent)⟩) :
    ∃ refusal ∈ retried, Stretch.refusal? ⟨some reply, []⟩ = some refusal ∧
      RenewedBetween keeper cached isPublic refusal moments := by
  obtain first | ⟨refusal, mem, known, token, device, otp⟩ := renewed
  · cases first
  refine ⟨refusal, mem, known, ?token, ?presented, ?registration, ?passcode⟩
  case token =>
    intro refused isPrivate
    have drops : .accessToken ∈ Session.dropped refusal := by
      simp only [List.mem_cons, List.not_mem_nil, or_false] at refused
      rcases refused with rfl | rfl | rfl <;> simp [Session.dropped]
    obtain ⟨early, stored, late, blob, split, stores, ruled⟩ :=
      following.exists_stores (token drops isPrivate)
    obtain ⟨event, within, grant, now, nonce, grants, same⟩ := ruled
    rw [same] at stores
    obtain ⟨granted, before, rfl⟩ := List.mem_map.1 within
    exact ⟨early, stored, late, split, granted, before, grant, now, nonce, grants, stores⟩
  case presented =>
    rintro rfl early moment late connection presented request split sent
    exact following.afresh kept dropped known split sent
  case registration =>
    rintro rfl
    obtain ⟨early, stored, late, blob, split, stores, ruled⟩ :=
      following.exists_stores (device (by simp [Session.dropped]))
    obtain ⟨event, within, identity, nonce, registers, same⟩ := ruled
    rw [same] at stores
    obtain ⟨accepted, before, rfl⟩ := List.mem_map.1 within
    exact ⟨early, stored, late, split, accepted, before, identity, nonce, registers, stores⟩
  case passcode =>
    intro isOtp
    obtain ⟨event, within, supplies⟩ := otp isOtp
    obtain ⟨moment, mem, rfl⟩ := List.mem_map.1 within
    exact ⟨moment, mem, supplies⟩

end Following

/-- The refusal of a chronicle is that of a response. -/
theorem exists_response_of_refusal? {reply : Except Error Response} {since : List Event}
    {refusal : Refusal} (h : Stretch.refusal? ⟨some reply, since⟩ = some refusal) :
    ∃ response, reply = .ok response ∧ response.isSuccess = false ∧
      response.refusal.refusal? = some refusal := by
  rw [Stretch.refusal?] at h
  split at h
  next response answer =>
    cases answer
    split at h
    · cases h
    next failed => exact ⟨response, rfl, Bool.eq_false_iff.2 failed, h⟩
  · cases h

/-- **No blind retry.** Between a response that is not a success and the next request of the same
execution, what was refused has been renewed. No request follows any other failure. -/
theorem execute_renews {cached : σ → Option UserCredential}
    (kept : ∀ state, (keeper.handle .user state).1 = cached state)
    (dropped : ∀ state, cached (keeper.handle (.cacheUser none) state).2 = none)
    {ctx : Context} {state : σ} (sound : keeper.IsSound state)
    {first between rest : List (Moment σ)} {refused again : Moment σ}
    (split : (session.execute ctx).trace keeper.handle state =
      first ++ refused :: (between ++ again :: rest))
    (sent : refused.effect.isCallerSend = true) (resent : again.effect.isCallerSend = true)
    (quiet : ∀ moment ∈ between, moment.effect.isCallerSend = false) :
    ∃ connection id request response refusal,
      refused.toEvent = ⟨.send connection (.caller id) request, .ok response⟩ ∧
        response.isSuccess = false ∧ response.refusal.refusal? = some refusal ∧
          refusal ∈ retried ∧
            RenewedBetween keeper cached ctx.request.isPublic refusal between := by
  obtain ⟨connection, id, request, reply, event⟩ := Event.eq_callerSend sent
  obtain ⟨connection', id', request', reply', event'⟩ := Event.eq_callerSend resent
  have following := following_of_trace sound event quiet split
  have effect : again.effect = .send connection' (.caller id') request' :=
    congrArg Event.effect event'
  have followed := ruled_of_trace sound event quiet split (effect ▸ rfl)
  rw [effect] at followed
  obtain ⟨refusal, mem, known, renewed⟩ := following.renewedBetween kept dropped followed
  obtain ⟨response, rfl, failed, named⟩ := exists_response_of_refusal? known
  exact ⟨connection, id, request, response, refusal, event, failed, named, mem, renewed⟩

end

end Session

/-! ### A refusal that is renewed -/

section

open Surroundings (Admitted admitted_of_not_isVerdict)

/-- Preparing a request sends none of a caller. -/
theorem Session.quiet_prepare {σ : Type} {handle : (effect : Effect) → σ → effect.Reply × σ}
    {session : Session} (ctx : Context) (state : σ) :
    ∀ moment ∈ (session.prepare ctx).trace handle state, moment.effect.isCallerSend = false := by
  intro moment mem
  have ordinary : (session.prepare ctx).Ordinary session.vault (Admitted handle) :=
    ordinary_prepare admitted_of_not_isVerdict ctx
  obtain ⟨sends, -⟩ := ordinary.counts state
  rw [← Program.map_effect_trace] at sends
  exact Bool.eq_false_iff.2 (List.countP_eq_zero.1 sends _ (List.mem_map_of_mem mem))

end

/-- A session with a client secret. -/
def Session.confidential : Session :=
  ⟨{ Settings.make "gateway" "client" with clientSecret := some "secret" }, ⟨"device", "Device"⟩⟩

namespace Surroundings

/-- A registration, sealed. -/
def registration : Bytes :=
  Session.confidential.vault.blob (Vector.replicate 32 0) (Vector.replicate 12 0)
    (⟨"pem", "assigned", ⟨0, 0⟩⟩ : DeviceIdentity)

/-- A response that demands a one-time passcode. -/
def demand : Response := { status := 401, headers := Table.empty.insert "x-ca-err" "140" }

/-- The device is registered and nothing else is stored, nor can be. The gateway demands a passcode
again and again, and the user says that the key store is unlocked. -/
def demanding : (effect : Effect) → Unit → effect.Reply × Unit
  | .read name, _ =>
    (.ok (if name = "gatewarden.device_identity" then some registration else none), ())
  | .write _ _, _ => (.error .cancelled, ())
  | .remove _, _ => (.error .cancelled, ())
  | .list _, _ => (.error .cancelled, ())
  | .sealingKey _, _ => (.ok (Vector.replicate 32 0), ())
  | .nonce, _ => (Vector.replicate 12 0, ())
  | .identifier, _ => ("", ())
  | .time, _ => (⟨0, 0⟩, ())
  | .hold, _ => ((), ())
  | .release, _ => ((), ())
  | .user, _ => (none, ())
  | .cacheUser _, _ => ((), ())
  | .connection, _ => (some ⟨none⟩, ())
  | .cacheConnection _, _ => ((), ())
  | .connect _, _ => (.ok (), ())
  | .send _ _ _, _ => (.ok demand, ())
  | .ask _ _, _ => (.unlocked, ())

/-- They keep what is stored. -/
def demandingKeeper : Keeper Unit Session.confidential.vault (Vector.replicate 32 0) where
  handle := demanding
  stored _ name := if name = "gatewarden.device_identity" then some registration else none
  IsSound _ := True
  isSound _ _ := trivial
  leaves effect _ := by
    cases effect with
    | write name value => exact .inl rfl
    | remove name => exact .inl rfl
    | _ => exact rfl
  read _ _ _ found := (Except.ok.inj found).symm
  list _ _ listed := nomatch listed
  sealingKey _ _ given := (Except.ok.inj given).symm

end Surroundings

namespace Session

open Surroundings (demanding demand demandingKeeper)

/-- A request without an access token. -/
def publicContext : Context :=
  { id := 1, request := { method := .get, url := "/", isPublic := true } }

/-- The context of the next attempt, after the user was asked. -/
def afterDemand (ctx : Context) : Context := ctx.countAttempt.withoutOtp.countRecovery

/-- The request as it is sent. -/
def demandedRequest (ctx : Context) : Request :=
  decorate ctx none
    ((ctx.request.setHeader "device-id" "device").setHeader "mag-identifier" "assigned")

section

variable {σ : Type} {handle : (effect : Effect) → σ → effect.Reply × σ} {state : σ}
  (found : handle (.read "gatewarden.device_identity") state =
    (.ok (some Surroundings.registration), state))
  (keyed : handle (.sealingKey "gatewarden") state = (.ok (Vector.replicate 32 0), state))

include found keyed

/-- The registration is read where it is found and the key is at hand. -/
theorem run_deviceIdentity_registration :
    confidential.deviceIdentity.run handle state =
      (.ok (some ⟨"pem", "assigned", ⟨0, 0⟩⟩), state) := by
  have read : confidential.vault.deviceIdentity.run handle state =
      (.ok (some ⟨"pem", "assigned", ⟨0, 0⟩⟩), state) :=
    Vault.run_read_blob (Record.faithful_deviceIdentity (by decide)) found keyed
  rw [deviceIdentity, readable, Program.run_attempt_bind read]
  rfl

section

variable (absent : handle (.read "gatewarden.client_credential") state = (.ok none, state))

include absent

/-- A request is prepared where the device is registered, with the token that there is for it. -/
theorem run_prepare_of_tokenFor {ctx : Context} {token : Option AccessToken}
    (chosen : (confidential.tokenFor ctx.request).run handle state = (.ok token, state)) :
    (confidential.prepare ctx).run handle state = (.ok (decorate ctx token
      ((ctx.request.setHeader "device-id" "device").setHeader "mag-identifier" "assigned")),
        state) := by
  have identity := run_deviceIdentity_registration found keyed
  have registered : confidential.ensureRegistered.run handle state = (.ok (), state) := by
    have looked : confidential.isDeviceRegistered.run handle state = (.ok true, state) := by
      rw [isDeviceRegistered, Program.run_bind_ok identity]
      rfl
    rw [ensureRegistered, Program.run_bind_ok looked]
    rfl
  have named : confidential.ensureClientCredential.run handle state =
      (.ok confidential.configuredCredential, state) := by
    have read : confidential.vault.clientCredential.run handle state = (.ok none, state) :=
      Vault.run_read_nothing absent
    have stored : confidential.storedClientCredential.run handle state = (.ok none, state) := by
      rw [storedClientCredential, readable, bind_assoc, Program.run_attempt_bind read]
      rfl
    exact Program.run_bind_ok stored
  have decorated : (confidential.withDeviceHeaders ctx.request).run handle state =
      (.ok ((ctx.request.setHeader "device-id" "device").setHeader "mag-identifier" "assigned"),
        state) := by
    rw [withDeviceHeaders, Program.run_bind_ok identity]
    rfl
  rw [prepare, Program.run_bind_ok registered, Program.run_bind_ok named,
    Program.run_bind_ok chosen, Program.run_bind_ok decorated]
  rfl

/-- A public request is prepared without a token. -/
theorem run_prepare_registration {ctx : Context} (isPublic : ctx.request.isPublic = true) :
    (confidential.prepare ctx).run handle state = (.ok (demandedRequest ctx), state) := by
  refine run_prepare_of_tokenFor found keyed absent ?_
  rw [tokenFor, isPublic]
  rfl

end

end

/-- The connection is at hand. -/
def connected : Moment Unit := ⟨⟨.connection, some ⟨none⟩⟩, (), ()⟩

/-- The request is sent, and a passcode demanded. -/
def demanded (ctx : Context) : Moment Unit :=
  ⟨⟨.send ⟨none⟩ (.caller ctx.id) (demandedRequest ctx), .ok demand⟩, (), ()⟩

/-- The user is asked for the passcode. -/
def asked (ctx : Context) : Moment Unit := ⟨⟨.ask ctx.id (.otp [] none), .unlocked⟩, (), ()⟩

section

variable (ctx : Context) (left : ctx.countAttempt.attempts < Context.maxAttempts)
  (more : ¬Context.maxRecoveries < ctx.countRecovery.recoveries)

include left more

/-- After the demand the user is asked, and another attempt follows. -/
theorem afterRefusal_demanding :
    ∃ less, (confidential.afterRefusal ctx demand).run demanding () =
        (.ok (.again (afterDemand ctx) less), ()) ∧
      (confidential.afterRefusal ctx demand).trace demanding () =
        [asked ctx] := by
  have reacted : (confidential.react demand.refusal).run demanding () =
      (.ok (.recover .otpRequired), ()) := rfl
  have more' : ¬Context.maxRecoveries < ctx.countAttempt.withoutOtp.countRecovery.recoveries := more
  refine ⟨?less, ?run, ?trace⟩
  case run =>
    rw [afterRefusal, Program.run_attempt_bind reacted]
    simp only [left, dite_true]
    rw [recover, dif_neg more']
    rfl
  case trace =>
    rw [afterRefusal, Program.trace_attempt_bind reacted]
    simp only [left, dite_true]
    rw [recover, dif_neg more']
    rfl

theorem round_demanding (isPublic : ctx.request.isPublic = true) :
    ∃ less, (confidential.round ctx).run demanding () =
        (.ok (.again (afterDemand ctx) less), ()) ∧
      (confidential.round ctx).trace demanding () =
        (confidential.prepare ctx).trace demanding () ++ [connected, demanded ctx, asked ctx] := by
  have prepared : (confidential.prepare ctx).run demanding () = (.ok (demandedRequest ctx), ()) :=
    run_prepare_registration rfl rfl rfl isPublic
  have sent : (confidential.send (.caller ctx.id) (demandedRequest ctx)).run demanding () =
      (.ok demand, ()) := rfl
  have failed : demand.isSuccess = false := by decide
  obtain ⟨less, run, trace⟩ := afterRefusal_demanding ctx left more
  refine ⟨less, ?_, ?_⟩
  · rw [round, Program.run_attempt_bind prepared]
    simp only
    rw [Program.run_attempt_bind sent]
    simp only [failed, Bool.false_eq_true, if_false]
    exact run
  · rw [round, Program.trace_attempt_bind prepared]
    simp only
    rw [Program.trace_attempt_bind sent]
    simp only [failed, Bool.false_eq_true, if_false, trace]
    rfl

end

/-- A request that is sent again after the user was asked for a passcode. -/
theorem execute_renews_demanded :
    ∃ first refused between again rest,
      (confidential.execute publicContext).trace demanding () =
          first ++ refused :: (between ++ again :: rest) ∧
        refused.effect.isCallerSend = true ∧ again.effect.isCallerSend = true ∧
          RenewedBetween demandingKeeper (fun _ => none) true .otpRequired between := by
  obtain ⟨_, run, trace⟩ := round_demanding publicContext (by decide) (by decide) rfl
  obtain ⟨_, run', trace'⟩ :=
    round_demanding (afterDemand publicContext) (by decide) (by decide) rfl
  have split : (confidential.execute publicContext).trace demanding () =
      ((confidential.prepare publicContext).trace demanding () ++ [connected]) ++
        demanded publicContext :: ((asked publicContext ::
          ((confidential.prepare (afterDemand publicContext)).trace demanding () ++ [connected])) ++
            demanded (afterDemand publicContext) :: asked (afterDemand publicContext) ::
              (confidential.execute (afterDemand (afterDemand publicContext))).trace
                demanding ()) := by
    rw [execute, Program.trace_bind_ok run, trace]
    simp only
    rw [execute, Program.trace_bind_ok run', trace']
    simp only [List.append_assoc, List.cons_append, List.nil_append]
  have quiet : ∀ moment ∈ asked publicContext ::
      ((confidential.prepare (afterDemand publicContext)).trace demanding () ++ [connected]),
      moment.effect.isCallerSend = false := by
    intro moment mem
    rw [List.mem_cons, List.mem_append, List.mem_singleton] at mem
    obtain rfl | mem | rfl := mem
    · rfl
    · exact quiet_prepare _ _ moment mem
    · rfl
  have followed : demandingKeeper.handle = demanding := rfl
  obtain ⟨_, _, _, _, _, event, _, named, _, renewed⟩ :=
    execute_renews (fun _ => rfl) (fun _ => rfl) trivial (followed ▸ split) rfl rfl quiet
  cases event
  cases named
  exact ⟨_, _, _, _, _, split, rfl, rfl, renewed⟩

end Session

end GatewaySession
