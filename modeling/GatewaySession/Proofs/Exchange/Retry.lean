import GatewaySession.Proofs.Exchange.Renewal

/-!
# Executing requests by the rule of renewal

Reacting to a refusal drops what it makes useless. Whatever happens until another attempt has been
prepared only adds to the chronicle, and an attempt finds or stores what it needs; so by the time
the request is sent again, what was dropped has been renewed. Asking the user is the other way to
another attempt, and he has supplied something then.

The step is one attempt: from a chronicle that has what the refusal calls for it follows the rule,
and another attempt starts from such a chronicle again. An execution is attempts one after the
other.

## Main definitions

* `Round.Then` — what holds of the context that another attempt starts from
* `Session.Reacted` — what is known when the reaction to a refusal is not to give up

## Main results

* `Session.renewal_reactTo`, `Session.renewal_recover` — reacting, and asking the user
* `Session.renewal_round`, `Session.renewal_execute` — one attempt, and an execution
-/

namespace GatewaySession

open Program (Meets Closed)
open Stretch (Leads Gains)

/-- Whether something holds of the context that another attempt starts from, if there is one. -/
def Round.Then {start : Context} (holds : Context → Prop) : Round start → Prop
  | finished _ _ => True
  | again next _ => holds next

theorem Round.Then.earlier {start later : Context} {holds : Context → Prop} {round : Round later}
    (h : round.Then holds) (le : later.allowance ≤ start.allowance) :
    (round.earlier le).Then holds := by
  cases round with
  | finished result last => trivial
  | again next less => exact h

theorem Round.Then.mono {start : Context} {holds holds' : Context → Prop} {round : Round start}
    (h : round.Then holds) (weaker : ∀ next, holds next → holds' next) : round.Then holds' := by
  cases round with
  | finished result last => trivial
  | again next less => exact weaker next h

namespace Session

variable {session : Session} {key : Aes256.Key} {isPublic : Bool} {stretch : Stretch}

/-! ### Reacting -/

/-- What is known when the reaction to a refusal is not to give up: everything is dropped that is to
be dropped, and a passcode is asked for if one was refused. -/
structure Reacted (session : Session) (refusal : Refusal) (last : Stretch) (reaction : Reaction) :
    Prop where
  /-- The refusal is one that another attempt may follow. -/
  retried : refusal ∈ retried
  /-- The slots are empty. -/
  removed : ∀ slot ∈ dropped refusal, session.removal slot ∈ last.since
  /-- The user's credential is dropped. -/
  user : refusal = .invalidResourceOwner → ⟨.cacheUser none, ()⟩ ∈ last.since
  /-- The passcode is asked for. -/
  otp : refusal.isOtp = true → reaction = .recover .otpRequired

/-- Emptying a slot shows. -/
theorem removal_mem_of_clear (slot : Slot) (stretch : Stretch) :
    (session.vault.clear slot).Meets (session.renewing key isPublic) (fun last result =>
      stretch.Leads last ∧ (result = .ok () → session.removal slot ∈ last.since)) stretch := by
  refine (Vault.gains_clear slot stretch).mono fun last result ⟨led, gained⟩ =>
    ⟨led, fun done => ?_⟩
  obtain ⟨_, mem, rfl⟩ := (gained done).mem
  exact mem

/-- Dropping what belongs to the user drops all of it. -/
theorem renewal_clearUserTokens (stretch : Stretch) :
    session.clearUserTokens.Meets (session.renewing key isPublic) (fun last result =>
      stretch.Leads last ∧ (result = .ok () →
        (∀ slot ∈ dropped .invalidResourceOwner, session.removal slot ∈ last.since) ∧
          ⟨.cacheUser none, ()⟩ ∈ last.since)) stretch := by
  refine Meets.bind ((removal_mem_of_clear .accessToken stretch).mono ?_)
  rintro first (error | _) ⟨led, access⟩
  · exact ⟨led, nofun⟩
  refine Meets.bind ((removal_mem_of_clear .refreshToken first).mono ?_)
  rintro second (error | _) ⟨led', refresh⟩
  · exact ⟨led.trans led', nofun⟩
  refine Meets.bind ((removal_mem_of_clear .idToken second).mono ?_)
  rintro third (error | _) ⟨led'', id⟩
  · exact ⟨(led.trans led').trans led'', nofun⟩
  refine ⟨nofun, fun _ _ => ?_⟩
  have dropping := third.leads_add (.cacheUser none) rfl ()
  refine ⟨((led.trans led').trans led'').trans dropping, fun _ => ⟨?_, ?_⟩⟩
  · intro slot mem
    rw [dropped, List.mem_cons, List.mem_cons, List.mem_singleton] at mem
    obtain rfl | rfl | rfl := mem
    · exact dropping.mem (led''.mem (led'.mem (access rfl)))
    · exact dropping.mem (led''.mem (refresh rfl))
    · exact dropping.mem (id rfl)
  · exact List.mem_append_right _ (List.mem_singleton_self _)

/-- **Reacting to a refusal** drops what it makes useless. -/
theorem renewal_reactTo (refusal : Refusal) (stretch : Stretch) :
    (session.reactTo refusal).Meets (session.renewing key isPublic) (fun last result =>
      stretch.Leads last ∧ ∀ reaction, result = .ok reaction →
        reaction ≠ .giveUp → session.Reacted refusal last reaction) stretch := by
  have token (refusal : Refusal) (one : dropped refusal = [.accessToken])
      (mem : refusal ∈ retried) (other : refusal.isOtp = false)
      (user : refusal ≠ .invalidResourceOwner) :
      (do session.clearAccessToken; return .retry : Program Reaction).Meets
        (session.renewing key isPublic) (fun last result => stretch.Leads last ∧
          ∀ reaction, result = .ok reaction →
            reaction ≠ .giveUp → session.Reacted refusal last reaction) stretch := by
    refine Meets.bind ((removal_mem_of_clear .accessToken stretch).mono ?_)
    rintro last (error | _) ⟨led, gone⟩
    · exact ⟨led, nofun⟩
    · refine ⟨led, ?_⟩
      rintro reaction ⟨⟩ -
      exact ⟨mem, by simpa [one] using gone rfl, fun owner => absurd owner user,
        fun otp => nomatch other.symm.trans otp⟩
  cases refusal with
  | invalidAccessToken => exact token _ rfl (by decide) rfl nofun
  | accessTokenExpired => exact token _ rfl (by decide) rfl nofun
  | clientCertificateExpired =>
    refine Meets.bind ((removal_mem_of_clear .deviceIdentity stretch).mono ?_)
    rintro last (error | _) ⟨led, gone⟩
    · exact ⟨led, nofun⟩
    refine Meets.ask nofun fun _ _ => ?_
    have dropping := last.leads_add (.cacheConnection none) rfl ()
    refine ⟨led.trans dropping, ?_⟩
    rintro reaction ⟨⟩ -
    have kept := dropping.mem (gone rfl)
    exact ⟨by decide, List.forall_mem_singleton.2 kept, nofun, nofun⟩
  | invalidResourceOwner =>
    refine Meets.bind ((renewal_clearUserTokens stretch).mono ?_)
    rintro last (error | _) ⟨led, gone⟩
    · exact ⟨led, nofun⟩
    refine ⟨led, ?_⟩
    rintro reaction ⟨⟩ -
    exact ⟨by decide, (gone rfl).1, fun _ => (gone rfl).2, nofun⟩
  | invalidClientCredential =>
    refine Meets.bind ((removal_mem_of_clear .clientCredential stretch).mono ?_)
    rintro last (error | _) ⟨led, -⟩
    · exact ⟨led, nofun⟩
    refine Meets.ask nofun fun _ _ => ?_
    refine ⟨led.trans (last.leads_add (.cacheConnection none) rfl ()), ?_⟩
    rintro reaction ⟨⟩ more
    exact absurd rfl more
  | unknown =>
    refine ⟨.refl stretch, ?_⟩
    rintro reaction ⟨⟩ more
    exact absurd rfl more
  | _ =>
    refine ⟨.refl stretch, ?_⟩
    rintro reaction ⟨⟩ -
    exact ⟨by decide, fun _ mem => absurd mem List.not_mem_nil, nofun, fun _ => rfl⟩

/-! ### Asking the user -/

/-- **Asking the user** leads to another attempt at the same request only if he has supplied
something. -/
theorem renewal_recover (obstacle : Obstacle) (need : Need) (ctx : Context) (stretch : Stretch) :
    (session.recover obstacle need ctx).Meets (session.renewing key isPublic) (fun last result =>
      stretch.Leads last ∧ ∀ round, result = .ok round → round.Then fun next =>
        next.request = ctx.request ∧ ((∃ channels selected, need = .otp channels selected) →
          Gains Event.SuppliesOtp stretch last)) stretch := by
  have elements : session.Elements
      ((session.renewing key isPublic).Keeps (fun _ => True) Leads) :=
    renewal_elements fun _ _ => trivial
  induction need, ctx using session.recover_induction obstacle generalizing stretch with
  | exhausted need ctx _ eq =>
    rw [eq]
    exact ⟨.refl stretch, fun _ done => Except.ok.inj done ▸ trivial⟩
  | asks need ctx more eq again =>
    rw [eq]
    refine Meets.ask nofun fun answer _ => ?_
    have asked := stretch.leads_add (.ask ctx.id need) rfl answer
    have supplied (useful : (∃ credential, answer = .credentials credential) ∨
        (∃ otp, answer = .otp otp) ∨ answer = .unlocked)
        (otp : ∃ channels selected, need = .otp channels selected) :
        Gains Event.SuppliesOtp stretch (stretch.add (.ask ctx.id need) answer) := by
      obtain ⟨channels, selected, rfl⟩ := otp
      exact stretch.gains_add _ rfl ⟨ctx.id, channels, selected, answer, rfl, useful⟩
    cases answer with
    | credentials credential =>
      refine Meets.ask nofun fun _ _ => ?_
      have cached := Stretch.leads_add (stretch.add (.ask ctx.id need) (.credentials credential))
        (.cacheUser (some credential)) rfl ()
      refine ⟨asked.trans cached, ?_⟩
      rintro round ⟨⟩
      exact ⟨rfl, fun otp => (supplied (.inl ⟨credential, rfl⟩) otp).before cached⟩
    | otp passcode =>
      refine ⟨asked, ?_⟩
      rintro round ⟨⟩
      exact ⟨rfl, supplied (.inr (.inl ⟨passcode, rfl⟩))⟩
    | unlocked =>
      refine ⟨asked, ?_⟩
      rintro round ⟨⟩
      exact ⟨rfl, supplied (.inr (.inr rfl))⟩
    | deferred => exact ⟨asked, fun _ done => Except.ok.inj done ▸ trivial⟩
    | cancelled => exact ⟨asked, fun _ done => Except.ok.inj done ▸ trivial⟩
    | otpChannel channel =>
      refine Meets.rescue ((elements.deliverOtp channel _ trivial).mono
        fun sent result ⟨_, led⟩ => ?_)
      have reached := asked.trans led
      cases result with
      | error error => exact ⟨reached, fun _ done => Except.ok.inj done ▸ trivial⟩
      | ok _ =>
      refine Meets.bind ((again channel sent).mono ?_)
      rintro last (error | round) ⟨led', asked⟩
      · exact ⟨reached.trans led', nofun⟩
      refine ⟨reached.trans led', ?_⟩
      rintro earlier ⟨⟩
      refine ((asked round rfl).mono fun next ⟨same, supplies⟩ => ⟨same, ?_⟩).earlier _
      rintro ⟨channels, selected, rfl⟩
      exact (supplies ⟨channels, some channel, rfl⟩).after reached

/-! ### Attempts -/

/-- **The parts of an attempt** keep what the refusal calls for. -/
theorem renewal_parts :
    session.Parts ((session.renewing key isPublic).Keeps session.Ready Leads) where
  toElements := renewal_elements Ready.leads
  clearDeviceIdentity := Vault.keeps_clear Ready.leads _
  register credential _ ready := (renewal_register ready credential).mono
    fun _ _ ⟨led, _⟩ => ⟨ready.leads led, led⟩
  grantByRefreshToken client _ ready := (renewal_grantByRefreshToken ready client).mono
    fun _ _ ⟨led, _⟩ => ⟨ready.leads led, led⟩
  grantByIdToken client _ ready := (renewal_grantByIdToken ready client).mono
    fun _ _ ⟨led, _⟩ => ⟨ready.leads led, led⟩
  grantByUser client _ ready := (renewal_grantByUser ready client).mono
    fun _ _ ⟨led, _⟩ => ⟨ready.leads led, led⟩

/-- An attempt that failed before anything was sent leaves what the refusal calls for. -/
theorem renewal_afterUnsent (ready : session.Ready stretch) (ctx : Context) (error : Error) :
    (session.afterUnsent ctx error).Meets (session.renewing key isPublic) (fun last result =>
      stretch.Leads last ∧ ∀ round, result = .ok round → round.Then fun next =>
        next.request = ctx.request) stretch := by
  refine Meets.rescue ((renewal_parts.stages.react error stretch ready).mono
    fun last result ⟨_, led⟩ => ?_)
  split
  · exact ⟨led, fun _ done => Except.ok.inj done ▸ trivial⟩
  · exact ⟨led, fun _ done => Except.ok.inj done ▸ trivial⟩
  · simp only
    split
    · exact ⟨led, fun _ done => Except.ok.inj done ▸ rfl⟩
    · exact ⟨led, fun _ done => Except.ok.inj done ▸ trivial⟩
  · exact (renewal_recover _ _ ctx last).mono fun _ _ ⟨more, again⟩ =>
      ⟨led.trans more, fun round done => (again round done).mono fun _ ⟨same, _⟩ => same⟩

/-- **After a refusal**, another attempt is made only with what the refusal calls for. -/
theorem renewal_afterRefusal (ctx : Context) {response : Response}
    (refused : response.isSuccess = false) :
    (session.afterRefusal ctx response).Meets (session.renewing key isPublic) (fun last result =>
      ∀ round, result = .ok round → round.Then fun next =>
        session.Ready last ∧ next.request = ctx.request) ⟨some (.ok response), []⟩ := by
  obtain ⟨refusal, status, code, text, same⟩ : ∃ refusal status code text,
      response.refusal = .server refusal status code text := ⟨_, _, _, _, rfl⟩
  have known {last : Stretch} (led : Leads ⟨some (.ok response), []⟩ last) :
      last.refusal? = some refusal := by
    rw [Stretch.refusal?_eq led]
    unfold Stretch.refusal?
    simp only [refused, same]
    rfl
  have reacted : (session.react response.refusal).Meets (session.renewing key isPublic)
      (fun last result => Leads ⟨some (.ok response), []⟩ last ∧
        ∀ reaction, result = .ok reaction →
          reaction ≠ .giveUp → session.Reacted refusal last reaction)
      ⟨some (.ok response), []⟩ := by
    rw [same]
    exact renewal_reactTo refusal _
  refine Meets.rescue (reacted.mono ?_)
  rintro last result ⟨led, known'⟩
  split
  · exact fun _ done => Except.ok.inj done ▸ trivial
  · exact fun _ done => Except.ok.inj done ▸ trivial
  next reaction' more =>
  have reacted := known' _ rfl more
  split
  · split
    · refine Meets.bind ((renewal_recover _ _ _ last).mono ?_)
      rintro asked (error | round) ⟨led', again⟩
      · exact nofun
      rintro earlier ⟨⟩
      refine ((again round rfl).mono fun next ⟨same, supplies⟩ => ⟨.inr ?_, same⟩).earlier _
      refine ⟨refusal, reacted.retried, known (led.trans led'),
        fun slot dropped => led'.mem (reacted.removed slot dropped),
        fun owner => led'.mem (reacted.user owner), fun otp => ?_⟩
      cases reacted.otp otp
      exact (supplies ⟨_, none, rfl⟩).mem
    next other =>
      rintro round ⟨⟩
      exact ⟨.inr ⟨refusal, reacted.retried, known led, reacted.removed, reacted.user,
        fun otp => absurd (reacted.otp otp) (other _)⟩, rfl⟩
  · exact fun _ done => Except.ok.inj done ▸ trivial

/-- What an attempt obtains is a renewal of what was refused. -/
theorem renewed_of_gains {last : Stretch} (ready : session.Ready stretch)
    (device : Gains (session.Fills .deviceIdentity) stretch last)
    (token : isPublic = false → Gains (session.Fills .accessToken) stretch last) :
    session.Renewed isPublic last := by
  have ready' := ready.leads device.leads
  obtain first | ⟨refusal, mem, refused, gone, -, asked⟩ := ready
  · obtain ⟨new, rfl, -⟩ := device
    exact .inl first
  obtain first | ⟨refusal', -, refused', -, -, asked'⟩ := ready'
  · exact .inl first
  have same := (Stretch.refusal?_eq device.leads).trans refused
  obtain rfl := Option.some.inj (same.symm.trans refused')
  exact .inr ⟨refusal, mem, same,
    fun dropped isPrivate => refilled_of_gains (gone _ dropped) (token isPrivate),
    fun dropped => refilled_of_gains (gone _ dropped) device, asked'⟩

/-- **An attempt** follows the rule, and another one starts with what the refusal calls for. -/
theorem renewal_round (ready : session.Ready stretch) {ctx : Context}
    (same : ctx.request.isPublic = isPublic) :
    (session.round ctx).Meets (session.renewing key isPublic) (fun last result =>
      ∀ round, result = .ok round → round.Then fun next =>
        session.Ready last ∧ next.request = ctx.request) stretch := by
  refine Meets.rescue ((renewal_prepare ready ctx).mono fun prepared result ⟨led, obtained⟩ => ?_)
  cases result with
  | error error =>
    exact (renewal_afterUnsent (ready.leads led) ctx error).mono fun _ _ ⟨more, again⟩ round done =>
      (again round done).mono fun _ same => ⟨(ready.leads led).leads more, same⟩
  | ok request =>
  obtain ⟨device, token⟩ := obtained request rfl
  rw [same] at token
  refine Meets.rescue (Watch.Keeps.bind (renewal_parts.connection)
    (ready.leads led) (fun _ _ _ _ _ done => Except.ok.inj done ▸ trivial)
    fun connected connection _ more => ?_)
  refine ⟨fun _ => renewed_of_gains ready (device.before more)
    fun isPrivate => (token isPrivate).before more, fun reply _ => ?_⟩
  cases reply with
  | error error => exact fun _ done => Except.ok.inj done ▸ trivial
  | ok response =>
    show Meets _ _ _ (if response.isSuccess then _ else _)
    split
    · exact fun _ done => Except.ok.inj done ▸ trivial
    next refused => exact renewal_afterRefusal ctx (Bool.eq_false_iff.2 refused)

/-- **Executing a request** follows the rule. -/
theorem renewal_execute (ready : session.Ready stretch) {ctx : Context}
    (same : ctx.request.isPublic = isPublic) :
    (session.execute ctx).Meets (session.renewing key isPublic) (fun _ _ => True) stretch := by
  induction ctx using Context.allowance_induction generalizing stretch with
  | step ctx ih =>
    rw [execute]
    refine Meets.bind ((renewal_round ready same).mono ?_)
    rintro last (error | round) again
    · trivial
    cases round with
    | finished result context => trivial
    | again next less =>
      obtain ⟨ready, request⟩ := again _ rfl
      exact ih _ less ready (request ▸ same)

end Session

end GatewaySession
