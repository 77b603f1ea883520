import GatewaySession.Proofs.Exchange.Bounds
import GatewaySession.Proofs.Exchange.Passcode
import GatewaySession.Proofs.Exchange.Provenance
import GatewaySession.Proofs.Gateway.Headers

/-!
# How a request is decorated

A request goes out as its caller made it but for five headers. The device and its registration are
always named, and once. The access token stands there for a request that needs one, and what the
user has supplied stands there if there is any; otherwise these three are the caller's own.

What is decorated is the caller's request itself, on every attempt. So the headers of one attempt
are not found in the next, and neither is a passcode that has been dropped.

Everything may fail at any time here, and the gateway may answer anything. Only if the surroundings
tell the truth about records can it be said which registration and which token a request carries.

## Main definitions

* `Session.Decorates` — a request is another one, decorated
* `Session.Prepares` — a request is prepared, step by step
* `Keeper.Prepared` — a request is what is prepared from a context in a state
* `Round.Keeps` — an attempt is over, and is about the same request

## Main results

* `Session.decorates_decorate` — what decorating does to every header
* `Keeper.exists_prepared` — what is prepared
* `Session.execute_gives`, `Session.same_of_mem_starts` — the caller's request stays as it is
* `Keeper.execute_decorates` — every request of an execution
-/

namespace GatewaySession

open Program (Closed Meets Performs)

variable {α σ : Type} {session : Session}

/-! ### Headers -/

namespace Request

variable {request other : Request} {name : String}

theorem overridden_congr (same : request.under name = other.under name) (value : Option String) :
    request.overridden name value = other.overridden name value := by
  cases value with
  | none => exact same
  | some value => rfl

end Request

namespace Session

section

variable {request : Request} {name other : String} {value : Option String}

/-- A header that is set if it has a value. -/
theorem under_setHeaderIfSome (request : Request) (name : String) (value : Option String) :
    (setHeaderIfSome request name value).under name = request.overridden name value := by
  cases value with
  | none => rfl
  | some value => exact request.under_setHeader name value

theorem under_setHeaderIfSome_of_not_same (differs : Header.same other name = false) :
    (setHeaderIfSome request name value).under other = request.under other := by
  cases value with
  | none => rfl
  | some value => exact Request.under_setHeader_of_not_same differs

theorem besides_setHeaderIfSome {names : List String} (mem : name ∈ names) :
    (setHeaderIfSome request name value).besides names = request.besides names := by
  cases value with
  | none => rfl
  | some value => exact Request.besides_setHeader mem

@[simp] theorem bare_setHeaderIfSome :
    (setHeaderIfSome request name value).bare = request.bare := by
  cases value with
  | none => rfl
  | some value => rfl

end

/-- The headers that decorating a request is about. -/
def decorations : List String :=
  ["device-id", "mag-identifier", "authorization", "X-OTP", "X-OTP-CHANNEL"]

/-- Whether a request is that of a context, decorated for a registration and with an access token,
if there are any. -/
structure Decorates (session : Session) (ctx : Context) (registration : Option DeviceIdentity)
    (token : Option AccessToken) (request : Request) : Prop where
  /-- Method, address, body and the public mark are the caller's. -/
  bare : request.bare = ctx.request.bare
  /-- All other headers are the caller's, in order. -/
  besides : request.besides decorations = ctx.request.besides decorations
  /-- The device is named once. -/
  device : request.under "device-id" = [("device-id", session.device.identity)]
  /-- Its registration is named once. Without one, the caller's own headers of that name stay. -/
  identifier : request.under "mag-identifier" =
    ctx.request.overridden "mag-identifier" (registration.map (·.magIdentifier))
  /-- The same goes for the access token. -/
  authorization : request.under "authorization" =
    ctx.request.overridden "authorization" (token.map fun token => s!"Bearer {token.value}")
  /-- The same goes for the passcode. -/
  otp : request.under "X-OTP" = ctx.request.overridden "X-OTP" ctx.otp?
  /-- The same goes for the channel that it came over. -/
  otpChannel : request.under "X-OTP-CHANNEL" =
    ctx.request.overridden "X-OTP-CHANNEL" ctx.otpChannel?

/-- The device headers are one that is set, and one that is set if there is a registration. -/
theorem headed_eq (request : Request) (registration : Option DeviceIdentity) :
    session.headed request registration =
      setHeaderIfSome (request.setHeader "device-id" session.device.identity) "mag-identifier"
        (registration.map (·.magIdentifier)) := by
  cases registration <;> rfl

/-- **Decorating a request** sets five headers. -/
theorem decorates_decorate (ctx : Context) (registration : Option DeviceIdentity)
    (token : Option AccessToken) :
    session.Decorates ctx registration token
      (decorate ctx token (session.headed ctx.request registration)) := by
  rw [decorate, headed_eq]
  constructor
  case bare => simp
  case besides =>
    rw [besides_setHeaderIfSome (by decide), besides_setHeaderIfSome (by decide),
      besides_setHeaderIfSome (by decide), besides_setHeaderIfSome (by decide),
      Request.besides_setHeader (by decide)]
  case device =>
    rw [under_setHeaderIfSome_of_not_same (by decide),
      under_setHeaderIfSome_of_not_same (by decide), under_setHeaderIfSome_of_not_same (by decide),
      under_setHeaderIfSome_of_not_same (by decide), Request.under_setHeader]
  -- What is set before leaves the headers of a name as the caller gave them.
  case identifier =>
    rw [under_setHeaderIfSome_of_not_same (by decide),
      under_setHeaderIfSome_of_not_same (by decide), under_setHeaderIfSome_of_not_same (by decide),
      under_setHeaderIfSome]
    refine Request.overridden_congr ?_ _
    rw [Request.under_setHeader_of_not_same (by decide)]
  case authorization =>
    rw [under_setHeaderIfSome_of_not_same (by decide),
      under_setHeaderIfSome_of_not_same (by decide), under_setHeaderIfSome]
    refine Request.overridden_congr ?_ _
    rw [under_setHeaderIfSome_of_not_same (by decide),
      Request.under_setHeader_of_not_same (by decide)]
  case otp =>
    rw [under_setHeaderIfSome_of_not_same (by decide), under_setHeaderIfSome]
    refine Request.overridden_congr ?_ _
    rw [under_setHeaderIfSome_of_not_same (by decide),
      under_setHeaderIfSome_of_not_same (by decide),
      Request.under_setHeader_of_not_same (by decide)]
  case otpChannel =>
    rw [under_setHeaderIfSome]
    refine Request.overridden_congr ?_ _
    rw [under_setHeaderIfSome_of_not_same (by decide),
      under_setHeaderIfSome_of_not_same (by decide), under_setHeaderIfSome_of_not_same (by decide),
      Request.under_setHeader_of_not_same (by decide)]

/-! ### Preparing a request -/

/-- How a request is prepared from a context, through the states in between: with a registration and
an access token, if there are any. -/
structure Prepares (session : Session) (handle : (effect : Effect) → σ → effect.Reply × σ)
    (ctx : Context) (state enrolled named granted last : σ)
    (registration : Option DeviceIdentity) (token : Option AccessToken) (request : Request) :
    Prop where
  /-- The device is registered. -/
  registers : session.ensureRegistered.run handle state = (.ok (), enrolled)
  /-- There is a client credential. -/
  names : ∃ client, session.ensureClientCredential.run handle enrolled = (.ok client, named)
  /-- The access token is chosen. -/
  chooses : (session.tokenFor ctx.request).run handle named = (.ok token, granted)
  /-- The registration is looked up. -/
  looks : session.deviceIdentity.run handle granted = (.ok registration, last)
  /-- The request of the context is decorated. -/
  decorated : request = decorate ctx token (session.headed ctx.request registration)

section

variable {handle : (effect : Effect) → σ → effect.Reply × σ} {ctx : Context}
  {state enrolled named granted last : σ} {registration : Option DeviceIdentity}
  {token : Option AccessToken} {request : Request}

/-- A request that is prepared is prepared so. -/
theorem exists_prepares (run : (session.prepare ctx).run handle state = (.ok request, last)) :
    ∃ enrolled named granted registration token,
      session.Prepares handle ctx state enrolled named granted last registration token request := by
  obtain ⟨_, enrolled, registers, rest⟩ := Program.run_bind_eq_ok run
  obtain ⟨client, named, naming, rest⟩ := Program.run_bind_eq_ok rest
  obtain ⟨token, granted, chooses, rest⟩ := Program.run_bind_eq_ok rest
  rw [withDeviceHeaders_eq] at rest
  obtain ⟨headed, final, heading, rest⟩ := Program.run_bind_eq_ok rest
  obtain ⟨done, rfl⟩ := Prod.mk.inj rest
  obtain ⟨registration, _, looks, headers⟩ := Program.run_bind_eq_ok heading
  obtain ⟨same, rfl⟩ := Prod.mk.inj headers
  obtain rfl := Except.ok.inj same
  exact ⟨enrolled, named, granted, registration, token, registers, ⟨client, naming⟩, chooses, looks,
    (Except.ok.inj done).symm⟩

namespace Prepares

variable (h : session.Prepares handle ctx state enrolled named granted last registration token
  request)

include h

/-- No token is asked for but where one is chosen. -/
theorem events : ∃ early late, (session.prepare ctx).events handle state =
    early ++ ((session.tokenFor ctx.request).events handle named ++ late) ∧
      attemptsAmong early = [] ∧ attemptsAmong late = [] := by
  obtain ⟨client, naming⟩ := h.names
  have tends : session.ensureRegistered.Performs (session.vault.Tends (fun _ => True) True) :=
    tends_ensureRegistered trivial trivial trivial
  have tends' : session.ensureClientCredential.Performs
      (session.vault.Tends (fun _ => True) True) :=
    tends_ensureClientCredential trivial trivial
  have tends'' : (session.withDeviceHeaders ctx.request).Performs
      (session.vault.Tends (fun _ => True) True) := tends_withDeviceHeaders trivial _
  have heading : (session.withDeviceHeaders ctx.request).run handle granted =
      (.ok (session.headed ctx.request registration), last) := by
    rw [withDeviceHeaders_eq, Program.run_bind_ok h.looks, Program.run_pure]
  refine ⟨session.ensureRegistered.events handle state ++
    session.ensureClientCredential.events handle enrolled,
    (session.withDeviceHeaders ctx.request).events handle granted, ?_, ?_, ?_⟩
  · unfold prepare
    rw [Program.events_bind_ok h.registers, Program.events_bind_ok naming,
      Program.events_bind_ok h.chooses, Program.events_bind_ok heading, List.append_assoc]
    exact congrArg _ (congrArg _ (congrArg _ (List.append_nil _)))
  · rw [attemptsAmong_append, Vault.attemptsAmong_eq_nil tends (Program.ends_of_run h.registers),
      Vault.attemptsAmong_eq_nil tends' (Program.ends_of_run naming), List.append_nil]
  · exact Vault.attemptsAmong_eq_nil tends'' (Program.ends_of_run heading)

/-- **A public request** gets no token, and none is asked for. -/
theorem unasked (isPublic : ctx.request.isPublic = true) :
    token = none ∧ attemptsAmong ((session.prepare ctx).events handle state) = [] := by
  have none : session.tokenFor ctx.request = pure none := by
    rw [tokenFor, isPublic]
    rfl
  have chooses := h.chooses
  obtain ⟨early, late, events, before, after⟩ := h.events
  rw [none] at chooses events
  obtain ⟨chosen, -⟩ := Prod.mk.inj chooses
  refine ⟨(Except.ok.inj chosen).symm, ?_⟩
  rw [events, attemptsAmong_append, attemptsAmong_append, before, after]
  rfl

end Prepares

end

end Session

/-! ### What a prepared request bears -/

namespace Keeper

variable {key : Aes256.Key}

section

variable (keeper : Keeper σ session.vault key)

/-- Whether a request is what is prepared from a context in a state, for a registration and with an
access token, if there are any. -/
structure Prepared (ctx : Context) (state : σ) (request : Request)
    (registration : Option DeviceIdentity) (token : Option AccessToken) : Prop
    extends session.Decorates ctx registration token request where
  /-- It is what is prepared. -/
  returned : ((session.prepare ctx).run keeper.handle state).1 = .ok request
  /-- There is a registration, which is stored now. If there was one before, it is the same. -/
  registered : keeper.IsCandid → keeper.IsSound state → ∃ identity,
    registration = some identity ∧
      keeper.content ((session.prepare ctx).run keeper.handle state).2 .deviceIdentity =
        some identity ∧
      ∀ before, keeper.content state .deviceIdentity = some before → identity = before
  /-- A public request gets no token, and none is asked for. -/
  unasked : ctx.request.isPublic = true →
    token = none ∧ attemptsAmong ((session.prepare ctx).events keeper.handle state) = []
  /-- Any other gets one, which was stored and is valid, or was granted meanwhile. -/
  bears : ctx.request.isPublic = false → ∃ access, token = some access ∧
    (keeper.IsCandid → keeper.IsSound state →
      keeper.Bears state ((session.prepare ctx).events keeper.handle state) access)

end

variable {keeper : Keeper σ session.vault key} {state last : σ} {ctx : Context}

/-- Whatever is aside leaves the registration where it is. -/
theorem asides_retaining : session.Asides (keeper.Retaining .deviceIdentity) where
  toFormed := (closed_retaining keeper _).toFormed
  aside {effect} aside state := by
    refine (keeper.spares_of effect state ?_ ?_).retains
    · rintro value rfl
      exact aside rfl
    · rintro rfl
      exact aside rfl

/-- **Looking up, provisioning and granting** retain the registration. -/
theorem granting_retaining (candid : keeper.IsCandid) :
    session.Granting (keeper.Retaining .deviceIdentity) := by
  have looking : keeper.Retaining .deviceIdentity _ session.deviceIdentity :=
    retaining_readable session candid .deviceIdentity
  exact asides_retaining.granting looking ((closed_retaining keeper _).connection looking)

/-- **Registering** stores a registration. -/
theorem registered_of_register (candid : keeper.IsCandid) (sound : keeper.IsSound state)
    {credential : Option UserCredential}
    (run : (session.register credential).run keeper.handle state = (.ok (), last)) :
    ∃ identity, keeper.content last .deviceIdentity = some identity := by
  have granting := granting_retaining candid
  obtain ⟨client, named, naming, run⟩ := Program.run_bind_eq_ok run
  obtain ⟨response, answered, asking, run⟩ := Program.run_bind_eq_ok run
  obtain ⟨identifier, assigned, assigning, run⟩ := Program.run_bind_eq_ok run
  obtain ⟨now, timed, clock, run⟩ := Program.run_bind_eq_ok run
  obtain ⟨_, stored, storing, run⟩ := Program.run_bind_eq_ok run
  have sound₁ := isSound_run (isSound_run (isSound_run sound naming) asking) assigning
  have plain : now.IsPlain := by
    obtain ⟨told, -⟩ := Prod.mk.inj clock
    exact Except.ok.inj told ▸ candid.plain sound₁
  have sound₂ := isSound_run sound₁ clock
  have present : keeper.content stored .deviceIdentity =
      some ⟨response.text, identifier, now⟩ :=
    content_of_store (Record.faithful_deviceIdentity plain) sound₂ storing
  -- What follows looks after other slots.
  refine ⟨_, content_of_run (granting.bind granting.dropConnection fun _ => ?_)
    (isSound_run sound₂ storing) run present⟩
  split
  · exact granting.acceptIssuedIdToken _ _
  · exact granting.pure ()

/-- **A device that is registered now** has a registration: the one it had, if it had one. -/
theorem registered_of_ensureRegistered (candid : keeper.IsCandid) (sound : keeper.IsSound state)
    (run : session.ensureRegistered.run keeper.handle state = (.ok (), last)) :
    ∃ identity, keeper.content last .deviceIdentity = some identity ∧
      ∀ before, keeper.content state .deviceIdentity = some before → identity = before := by
  obtain ⟨isRegistered, looked, looking, run⟩ := Program.run_bind_eq_ok run
  obtain ⟨found, _, look, done⟩ := Program.run_bind_eq_ok looking
  have there : found = keeper.content state .deviceIdentity :=
    content_of_readable candid sound look
  obtain ⟨present, rfl⟩ := Prod.mk.inj done
  obtain rfl := Except.ok.inj present
  cases found with
  | some identity =>
    obtain ⟨-, rfl⟩ := Prod.mk.inj run
    refine ⟨identity, ?_, fun before stored => ?_⟩
    · exact content_of_run (granting_retaining candid).deviceIdentity sound look there.symm
    · exact Option.some.inj (there.trans stored)
  | none =>
    obtain ⟨credential, asked, asking, run⟩ := Program.run_bind_eq_ok run
    have sound₁ := isSound_run (isSound_run sound looking) asking
    split at run
    · cases run
    · obtain ⟨identity, stored⟩ := registered_of_register candid sound₁ run
      exact ⟨identity, stored, fun before present => absurd (there.trans present) nofun⟩

/-- **The token of a request** that needs one was stored and is valid, or it was granted. -/
theorem bears_of_tokenFor {request : Request} (isPrivate : request.isPublic = false)
    {token : Option AccessToken}
    (run : (session.tokenFor request).run keeper.handle state = (.ok token, last)) :
    ∃ access, token = some access ∧ (keeper.IsCandid → keeper.IsSound state →
      keeper.Bears state ((session.tokenFor request).events keeper.handle state) access) := by
  have way : session.tokenFor request = session.ensureAccessToken >>= fun access =>
      pure (some access) := by
    rw [Session.tokenFor, isPrivate]
    rfl
  rw [way] at run ⊢
  obtain ⟨access, granted, ensuring, done⟩ := Program.run_bind_eq_ok run
  obtain ⟨same, -⟩ := Prod.mk.inj done
  refine ⟨access, (Except.ok.inj same).symm, fun candid sound => ?_⟩
  rw [Program.events_bind_ok ensuring]
  show keeper.Bears state (_ ++ []) access
  rw [List.append_nil]
  exact bears_of_ensureAccessToken candid sound ensuring

section

variable {enrolled named granted : σ} {registration : Option DeviceIdentity}
  {token : Option AccessToken} {request : Request}
  (h : session.Prepares keeper.handle ctx state enrolled named granted last registration token
    request)

include h

/-- **The registration** of a prepared request is stored, and stays if there is one. -/
theorem registered_of_prepares (candid : keeper.IsCandid) (sound : keeper.IsSound state) :
    ∃ identity, registration = some identity ∧
      keeper.content last .deviceIdentity = some identity ∧
      ∀ before, keeper.content state .deviceIdentity = some before → identity = before := by
  have granting := granting_retaining candid
  obtain ⟨client, naming⟩ := h.names
  have sound₁ := isSound_run sound h.registers
  have sound₂ := isSound_run sound₁ naming
  have sound₃ := isSound_run sound₂ h.chooses
  obtain ⟨identity, present, same⟩ := registered_of_ensureRegistered candid sound h.registers
  have present := content_of_run granting.ensureClientCredential sound₁ naming present
  have present := content_of_run (granting.ways.tokenFor _) sound₂ h.chooses present
  have found := content_of_readable candid sound₃ h.looks
  exact ⟨identity, found.trans present,
    content_of_run granting.deviceIdentity sound₃ h.looks present, same⟩

/-- **The token** of a prepared request that is not public was stored and is valid, or it was
granted. -/
theorem bears_of_prepares (isPrivate : ctx.request.isPublic = false) :
    ∃ access, token = some access ∧ (keeper.IsCandid → keeper.IsSound state →
      keeper.Bears state ((session.prepare ctx).events keeper.handle state) access) := by
  obtain ⟨access, chosen, bears⟩ := bears_of_tokenFor isPrivate h.chooses
  refine ⟨access, chosen, fun candid sound => ?_⟩
  -- Its slot is left alone before it is looked up.
  have tends : session.ensureRegistered.Performs
      (session.vault.Tends (· ≠ .accessToken) True) :=
    Session.tends_ensureRegistered Slot.noConfusion Slot.noConfusion Slot.noConfusion
  have tends' : session.ensureClientCredential.Performs
      (session.vault.Tends (· ≠ .accessToken) True) :=
    Session.tends_ensureClientCredential Slot.noConfusion Slot.noConfusion
  obtain ⟨client, naming⟩ := h.names
  obtain ⟨early, late, events, before, after⟩ := h.events
  have sound₁ := isSound_run sound h.registers
  rw [events]
  refine (bears candid (isSound_run sound₁ naming)).within ?_ before after
  exact (content_eq_of_run tends' (by simp) sound₁ naming).trans
    (content_eq_of_run tends (by simp) sound h.registers)

end

/-- **What is prepared** is the caller's request, decorated for the registration that is stored, and
with a token that was stored and is valid, or that was granted. -/
theorem exists_prepared {request : Request}
    (run : (session.prepare ctx).run keeper.handle state = (.ok request, last)) :
    ∃ registration token, keeper.Prepared ctx state request registration token := by
  obtain ⟨enrolled, named, granted, registration, token, prepares⟩ := Session.exists_prepares run
  refine ⟨registration, token, ?_, ?_, ?_, prepares.unasked, bears_of_prepares prepares⟩
  · rw [prepares.decorated]
    exact session.decorates_decorate ctx registration token
  · rw [run]
  · rw [run]
    exact registered_of_prepares prepares

end Keeper

/-! ### The caller's request stays as it is -/

/-- Whether an attempt has come to an end, and the context is for the same request. -/
def Round.Keeps (first : Context) {ctx : Context} : Except Error (Round ctx) → Prop
  | .ok (.finished _ last) => last.Same first
  | .ok (.again next _) => next.Same first
  | .error _ => False

/-- An attempt ends as a later part of it does. -/
theorem Round.keeps_earlier {first later start : Context} {program : Program (Round later)}
    (le : later.allowance ≤ start.allowance) (h : program.Gives (Round.Keeps first)) :
    Program.Gives (Round.Keeps first)
      (program >>= fun round => pure (round.earlier le) : Program (Round start)) := by
  refine Meets.bind (h.mono ?_)
  rintro _ (error | round) kept
  · exact kept
  · cases round with
    | finished result last => exact kept
    | again next less => exact kept

namespace Session

variable {ctx first : Context}

/-- **Asking the user** is about the same request. -/
theorem recover_gives (obstacle : Obstacle) (need : Need) (h : ctx.Same first) :
    (session.recover obstacle need ctx).Gives (Round.Keeps first) := by
  induction need, ctx using session.recover_induction obstacle with
  | exhausted need ctx _ eq =>
    rw [eq]
    exact ⟨h.id, h.request⟩
  | asks need ctx more eq again =>
    have same : ctx.countRecovery.Same first := ⟨h.id, h.request⟩
    rw [eq]
    refine ⟨trivial, fun answer _ => ?_⟩
    cases answer with
    | credentials credential => exact ⟨trivial, fun _ _ => same⟩
    | otpChannel channel =>
      refine Program.Gives.rescue fun delivered => ?_
      cases delivered with
      | error error => exact same
      | ok _ =>
        exact Round.keeps_earlier _ (again channel ⟨same.id, same.request⟩)
    | otp passcode => exact ⟨same.id, same.request⟩
    | unlocked => exact same
    | deferred => exact same
    | cancelled => exact same

/-- What follows a failure before the request is sent. -/
theorem afterUnsent_gives (ctx : Context) (error : Error) :
    (session.afterUnsent ctx error).Gives (Round.Keeps ctx) := by
  refine .rescue fun reacted => ?_
  split
  · exact ⟨rfl, rfl⟩
  · exact ⟨rfl, rfl⟩
  · simp only
    split
    · exact ⟨rfl, rfl⟩
    · exact ⟨rfl, rfl⟩
  · exact recover_gives _ _ ⟨rfl, rfl⟩

/-- What follows a response that is not a success. -/
theorem afterRefusal_gives (ctx : Context) (response : Response) :
    (session.afterRefusal ctx response).Gives (Round.Keeps ctx) := by
  refine .rescue fun reacted => ?_
  split
  · exact ⟨rfl, rfl⟩
  · exact ⟨rfl, rfl⟩
  · split
    · split
      · exact Round.keeps_earlier _ (recover_gives _ _ ⟨rfl, rfl⟩)
      · exact ⟨rfl, rfl⟩
    · exact ⟨rfl, rfl⟩

/-- **One attempt** is about the same request. -/
theorem round_gives (ctx : Context) : (session.round ctx).Gives (Round.Keeps ctx) := by
  refine .rescue fun prepared => ?_
  split
  · exact afterUnsent_gives _ _
  · refine .rescue fun answered => ?_
    split
    · exact ⟨rfl, rfl⟩
    · split
      · exact ⟨rfl, rfl⟩
      · exact afterRefusal_gives _ _

/-- **A whole execution** comes to an end, with a context for the same request. -/
theorem execute_gives (ctx : Context) : (session.execute ctx).Gives fun result =>
    ∃ outcome last, result = .ok (outcome, last) ∧ last.Same ctx := by
  induction ctx using Context.allowance_induction with
  | step ctx ih =>
  rw [execute]
  refine Meets.bind ((round_gives ctx).mono ?_)
  rintro _ (error | round) kept
  · exact kept.elim
  · cases round with
    | finished result last => exact ⟨result, last, rfl, kept⟩
    | again next less =>
      refine (ih _ less).mono ?_
      rintro _ _ ⟨outcome, last, rfl, same⟩
      exact ⟨outcome, last, rfl, same.trans kept⟩

/-- **Every attempt** starts from a context for the same request. -/
theorem same_of_mem_starts {handle : (effect : Effect) → σ → effect.Reply × σ} {state : σ}
    {start : Context × σ} (mem : start ∈ session.starts handle ctx state) : start.1.Same ctx := by
  refine forall_mem_starts (P := fun next _ => next.Same ctx) (fun same run => ?_) ⟨rfl, rfl⟩ _ mem
  have kept := (round_gives _).ends (Program.ends_of_run run)
  exact kept.trans same

end Session

/-! ### Requests of a caller -/

/-- Whether a program sends no request of a caller. -/
abbrev Program.Uncalled (α : Type) (program : Program α) : Prop :=
  program.Performs fun effect => effect.isCallerSend = false

theorem closed_uncalled : Closed Program.Uncalled := by
  refine Program.closed_performs (fun {effect} neutral => ?_) fun _ => rfl
  cases effect with
  | send => exact neutral.elim
  | _ => rfl

namespace Session

variable {ctx : Context} {state : σ}

theorem uncalled_clear (slot : Slot) : Program.Uncalled _ (session.vault.clear slot) :=
  closed_uncalled.clear (.ask rfl) (.ask rfl) ⟨rfl, fun _ _ => trivial⟩

theorem asides_uncalled : session.Asides Program.Uncalled where
  toFormed := closed_uncalled.toFormed
  aside {effect} aside := by
    refine .ask ?_
    cases effect with
    | send connection purpose request =>
      cases purpose with
      | caller id => exact absurd rfl (aside id)
      | _ => rfl
    | _ => rfl

/-- **The parts of an attempt** send no request of a caller. -/
theorem parts_uncalled : session.Parts Program.Uncalled := by
  have cleared : Program.Uncalled _ (session.vault.clear .deviceIdentity) := uncalled_clear _
  have looking := closed_uncalled.deviceIdentity cleared
  have granting := asides_uncalled.granting looking (closed_uncalled.connection looking)
  exact {
    toGranting := granting
    clearDeviceIdentity := cleared
    register := granting.register fun identity =>
      closed_uncalled.store (.ask rfl) (.ask rfl) (fun _ => ⟨rfl, fun _ _ => trivial⟩) identity }

/-- No request of a caller is sent in the run of such a program. -/
theorem not_mem_trace_of_uncalled {handle : (effect : Effect) → σ → effect.Reply × σ}
    {program : Program α} (uncalled : Program.Uncalled _ program) {moment : Moment σ}
    (mem : moment ∈ program.trace handle state) {connection : Connection} {id : Nat}
    {request : Request} : moment.effect ≠ .send connection (.caller id) request := by
  intro sent
  have own := uncalled.ends (Program.ends_trace handle program state) moment.toEvent
    (List.mem_map_of_mem mem)
  rw [sent] at own
  cases own

/-- **The request of a caller** that is sent in an attempt is what is prepared from its context. -/
theorem prepared_of_mem_trace {handle : (effect : Effect) → σ → effect.Reply × σ}
    {moment : Moment σ} (mem : moment ∈ (session.round ctx).trace handle state)
    {connection : Connection} {id : Nat} {request : Request}
    (sent : moment.effect = .send connection (.caller id) request) :
    id = ctx.id ∧ ∃ last, (session.prepare ctx).run handle state = (.ok request, last) := by
  have parts : session.Parts Program.Uncalled := parts_uncalled
  cases prepared : (session.prepare ctx).run handle state with
  | mk result last =>
  rw [round, Program.trace_attempt_bind prepared] at mem
  obtain mem | mem := List.mem_append.1 mem
  · exact absurd sent (not_mem_trace_of_uncalled (parts.stages.prepare ctx) mem)
  cases result with
  | error error => exact absurd sent (not_mem_trace_of_uncalled (parts.afterUnsent ctx error) mem)
  | ok made =>
  simp only at mem
  cases answered : (session.send (.caller ctx.id) made).run handle last with
  | mk answer after =>
  rw [Program.trace_attempt_bind answered] at mem
  obtain mem | mem := List.mem_append.1 mem
  · unfold send at mem
    cases connected : session.connection.run handle last with
    | mk found between =>
    cases found with
    | error error =>
      rw [Program.trace_bind_error connected] at mem
      exact absurd sent (not_mem_trace_of_uncalled parts.connection mem)
    | ok found =>
      rw [Program.trace_bind_ok connected] at mem
      obtain mem | mem := List.mem_append.1 mem
      · exact absurd sent (not_mem_trace_of_uncalled parts.connection mem)
      · -- This is the only one.
        obtain rfl := List.mem_singleton.1 mem
        obtain ⟨-, same, rfl⟩ := Effect.send.inj sent
        exact ⟨(Purpose.caller.inj same).symm, last, rfl⟩
  · refine absurd sent (not_mem_trace_of_uncalled ?_ mem)
    split
    · exact parts.pure _
    · split
      · exact parts.pure _
      · exact parts.afterRefusal _ _

end Session

/-! ### Every request of an execution -/

namespace Keeper

variable {key : Aes256.Key} {keeper : Keeper σ session.vault key} {ctx : Context} {state : σ}

/-- The surroundings are as they should be before every attempt. -/
theorem isSound_of_mem_starts (sound : keeper.IsSound state) {start : Context × σ}
    (mem : start ∈ session.starts keeper.handle ctx state) : keeper.IsSound start.2 :=
  Session.forall_mem_starts (P := fun _ state => keeper.IsSound state) isSound_run sound _ mem

/-- **Headers are decorated exactly, and do not accumulate.** What is prepared from a context is its
request with five headers set; the registration that it names is stored, and the token that it
carries was stored and is valid, or was granted meanwhile; a public request gets none, and none is
asked for. An execution is a row of attempts, each of which starts from a context for the same
request, and sends what is prepared from that context and nothing else. When it is over, the context
still has the caller's request. -/
theorem execute_decorates (keeper : Keeper σ session.vault key) (ctx : Context) (state : σ) :
    (∀ request last, (session.prepare ctx).run keeper.handle state = (.ok request, last) →
      ∃ registration token, keeper.Prepared ctx state request registration token) ∧
    (∃ outcome after last, (session.execute ctx).run keeper.handle state =
      (.ok (outcome, after), last) ∧ after.Same ctx) ∧
    (session.execute ctx).trace keeper.handle state =
      ((session.starts keeper.handle ctx state).flatMap fun start =>
        (session.round start.1).trace keeper.handle start.2) ∧
    ∀ start ∈ session.starts keeper.handle ctx state, start.1.Same ctx ∧
      (keeper.IsSound state → keeper.IsSound start.2) ∧
      ∀ moment ∈ (session.round start.1).trace keeper.handle start.2,
        ∀ connection id request, moment.effect = .send connection (.caller id) request →
          id = ctx.id ∧
            ∃ registration token, keeper.Prepared start.1 start.2 request registration token := by
  refine ⟨fun request last => exists_prepared, ?ends, session.trace_execute _ ctx state, ?attempts⟩
  case ends =>
    obtain ⟨outcome, after, done, same⟩ :=
      (Session.execute_gives ctx).ends
        (Program.ends_trace keeper.handle (session.execute ctx) state)
    exact ⟨outcome, after, _, Prod.ext done rfl, same⟩
  case attempts =>
    intro start mem
    have same := Session.same_of_mem_starts mem
    refine ⟨same, fun sound => isSound_of_mem_starts sound mem, ?_⟩
    intro moment within connection id request sent
    obtain ⟨own, last, prepared⟩ := Session.prepared_of_mem_trace within sent
    exact ⟨own.trans same.id, exists_prepared prepared⟩

end Keeper

/-! ### A request with a stored token -/

namespace Surroundings

/-- An access token that expires after a second, sealed. -/
def sealedToken : Bytes :=
  Session.confidential.vault.blob (Vector.replicate 32 0) (Vector.replicate 12 0)
    (⟨"access", 1, none⟩ : AccessToken)

/-- An access token and a registration. -/
def enrolled (name : String) : Option Bytes :=
  if name = "gatewarden.access_token" then some sealedToken
  else if name = "gatewarden.device_identity" then some registration
  else none

/-- The device is registered and an access token stored. Otherwise these demand passcodes. -/
def enrolling : (effect : Effect) → Unit → effect.Reply × Unit
  | .read name, _ => (.ok (enrolled name), ())
  | effect, state => demanding effect state

/-- They keep what is stored. -/
def enrollingKeeper : Keeper Unit Session.confidential.vault (Vector.replicate 32 0) where
  handle := enrolling
  stored _ name := enrolled name
  IsSound _ := True
  isSound _ _ := trivial
  leaves effect _ := by
    cases effect with
    | write name value => exact .inl rfl
    | remove name => exact .inl rfl
    | _ => exact rfl
  read _ _ _ found := (Except.ok.inj found).symm
  list _ _ listed := nomatch listed
  sealingKey _ _ given := (Except.ok.inj given).symm

end Surroundings

namespace Session

open Surroundings (enrolling enrollingKeeper)

/-- A request that needs an access token, and has headers in several spellings. A passcode has been
supplied for it. -/
def spelledContext : Context :=
  { id := 1
    request :=
      { method := .get
        url := "/"
        headers := [("Authorization", "mine"), ("Accept", "text"), ("MAG-identifier", "other"),
          ("AUTHORIZATION", "yours"), ("x-otp", "0000"), ("accept", "image"),
          ("x-otp-channel", "sms")] }
    extra := Table.empty.insert Context.otpName "1234" }

/-- The request as it is sent. -/
def spelledRequest : Request :=
  { spelledContext.request with
    headers := [("Accept", "text"), ("accept", "image"), ("x-otp-channel", "sms"),
      ("device-id", "device"), ("mag-identifier", "assigned"), ("authorization", "Bearer access"),
      ("X-OTP", "1234")] }

/-- The token is found. -/
theorem run_tokenFor_enrolling :
    (confidential.tokenFor spelledContext.request).run enrolling () =
      (.ok (some ⟨"access", 1, none⟩), ()) := by
  have read : confidential.vault.accessToken.run enrolling () =
      (.ok (some ⟨"access", 1, none⟩), ()) :=
    Vault.run_read_blob (Record.faithful_accessToken _) rfl rfl
  have stored : confidential.accessToken.run enrolling () =
      (.ok (some ⟨"access", 1, none⟩), ()) := by
    rw [accessToken, readable, Program.run_attempt_bind read]
    rfl
  have valid : confidential.validAccessToken.run enrolling () =
      (.ok (some ⟨"access", 1, none⟩), ()) := by
    rw [validAccessToken, Program.run_bind_ok stored]
    rfl
  have ensured : confidential.ensureAccessToken.run enrolling () =
      (.ok ⟨"access", 1, none⟩, ()) := by
    rw [ensureAccessToken, Program.run_bind_ok valid]
    rfl
  exact Program.run_bind_ok ensured

end Session

namespace Keeper

open Surroundings (enrolling enrollingKeeper)

/-- Headers of a caller in several spellings. -/
theorem execute_decorates_spelled :
    enrollingKeeper.IsCandid ∧ enrollingKeeper.IsSound () ∧
      (∃ identity access,
        enrollingKeeper.Prepared Session.spelledContext () Session.spelledRequest (some identity)
          (some access) ∧
        enrollingKeeper.Bears ()
          ((Session.confidential.prepare Session.spelledContext).events enrolling ()) access) ∧
      ∃ outcome after last,
        (Session.confidential.execute Session.spelledContext).run enrolling () =
          (.ok (outcome, after), last) ∧ after.request = Session.spelledContext.request := by
  have plain : (⟨0, 0⟩ : Timestamp).IsPlain := by decide
  have candid : enrollingKeeper.IsCandid := ⟨fun _ => nofun, fun _ => plain⟩
  have spelled : Session.decorate Session.spelledContext (some ⟨"access", 1, none⟩)
      ((Session.spelledContext.request.setHeader "device-id" "device").setHeader
        "mag-identifier" "assigned") = Session.spelledRequest := by decide
  have run : (Session.confidential.prepare Session.spelledContext).run enrolling () =
      (.ok Session.spelledRequest, ()) := by
    rw [Session.run_prepare_of_tokenFor rfl rfl rfl Session.run_tokenFor_enrolling, spelled]
  obtain ⟨decorated, ⟨outcome, after, last, ended, same⟩, -⟩ :=
    execute_decorates enrollingKeeper Session.spelledContext ()
  obtain ⟨registration, token, prepared⟩ := decorated _ _ run
  obtain ⟨identity, rfl, -⟩ := prepared.registered candid trivial
  obtain ⟨access, rfl, bears⟩ := prepared.bears rfl
  exact ⟨candid, trivial, ⟨identity, access, prepared, bears candid trivial⟩, outcome, after, last,
    ended, same.request⟩

end Keeper

end GatewaySession
