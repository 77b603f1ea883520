import GatewaySession.Proofs.Exchange.Asking
import GatewaySession.Proofs.Program.Run
import GatewaySession.Proofs.Session.Ordinary

/-!
# What one attempt costs

An attempt spends from three accounts: it may send the caller's request, it may ask the user, and it
may fail before anything was sent and be counted all the same. The counts of the context go up by
what was spent, except where the attempt is the last one and its result says nothing about them.

Everything else that an attempt does is ordinary, so it neither sends for the caller nor asks, and
the verdicts on an execution are the attempt's own. The one exception are surroundings that have
such verdicts themselves: a key store, a connection or a gateway that answers that input is awaited,
or that there were too many attempts, is passed on, and nothing is known of the counts then.

## Main definitions

* `Effect.sends`, `Effect.asks` — how often effects send for the caller, and ask the user
* `Surroundings.Raises` — whether a key store, connection or gateway answers with an error
* `Session.retriesUnsent` — whether an attempt fails before sending and is counted
* `Session.Spends` — the costs of an attempt, or of asking, by how it ends

## Main results

* `Session.recover_spends`, `Session.round_spends`
-/

namespace GatewaySession

/-! ### Counting effects -/

namespace Effect

/-- Whether an effect sends the request of a caller. -/
def isCallerSend : Effect → Bool
  | send _ (.caller _) _ => true
  | _ => false

/-- Whether an effect asks the user. -/
def isAsk : Effect → Bool
  | ask _ _ => true
  | _ => false

/-- How often effects send the request of a caller. -/
def sends (effects : List Effect) : Nat := effects.countP isCallerSend

/-- How often effects ask the user. -/
def asks (effects : List Effect) : Nat := effects.countP isAsk

@[simp] theorem sends_append (first second : List Effect) :
    sends (first ++ second) = sends first + sends second := List.countP_append

@[simp] theorem asks_append (first second : List Effect) :
    asks (first ++ second) = asks first + asks second := List.countP_append

@[simp] theorem asks_nil : asks [] = 0 := rfl

theorem not_isCallerSend_of_permits {vault : Vault} {effect : Effect}
    (permitted : vault.Permits effect) : isCallerSend effect ≠ true := by
  intro h
  rw [isCallerSend.eq_def] at h
  split at h
  · exact permitted
  · cases h

theorem not_isAsk_of_permits {vault : Vault} {effect : Effect} (permitted : vault.Permits effect) :
    isAsk effect ≠ true := by
  intro h
  rw [isAsk.eq_def] at h
  split at h
  · exact permitted
  · cases h

end Effect

/-! ### Verdicts of the surroundings -/

section

variable {σ : Type} {handle : (effect : Effect) → σ → effect.Reply × σ}

namespace Surroundings

/-- Whether a key store, a connection or a gateway may answer with an error, which is passed on. -/
def Raises (handle : (effect : Effect) → σ → effect.Reply × σ) (error : Error) : Prop :=
  ∃ (effect : Effect) (state : σ), ¬effect.Admits (· ≠ error) (handle effect state).1

/-- Whether a result is such an error. -/
def Raised (handle : (effect : Effect) → σ → effect.Reply × σ) (result : Except Error Response) :
    Prop :=
  ∃ error, result = .error error ∧ Raises handle error

/-- What an ordinary program may fail with. -/
def Admitted (handle : (effect : Effect) → σ → effect.Reply × σ) (error : Error) : Prop :=
  ¬error.IsVerdict ∨ Raises handle error

theorem admitted_of_not_isVerdict (error : Error) (h : ¬error.IsVerdict) :
    Admitted handle error := .inl h

/-- What the surroundings answer with, they raise. -/
theorem admits (handle : (effect : Effect) → σ → effect.Reply × σ) (effect : Effect) (state : σ) :
    effect.Admits (Admitted handle) (handle effect state).1 := by
  cases effect with
  | sealingKey name =>
    exact fun error eq => .inr ⟨.sealingKey name, state, fun other => other error eq rfl⟩
  | connect registration =>
    exact fun error eq => .inr ⟨.connect registration, state, fun other => other error eq rfl⟩
  | send connection purpose request =>
    exact fun error eq =>
      .inr ⟨.send connection purpose request, state, fun other => other error eq rfl⟩
  | _ => trivial

end Surroundings

open Surroundings (Raised Admitted admitted_of_not_isVerdict)

variable {α : Type} {vault : Vault}

/-- An ordinary program fails with no verdict but one of the surroundings. -/
theorem Program.Ordinary.run_error {program : Program α}
    (h : program.Ordinary vault (Admitted handle)) {state last : σ} {error : Error}
    (run : program.run handle state = (.error error, last)) : Admitted handle error := by
  have kept := h.run (fun _ _ => True)
    (fun {_ state effect} _ _ => ⟨Surroundings.admits handle effect state, trivial⟩) state trivial
  obtain ⟨-, -, admitted⟩ := kept
  rw [run] at admitted
  exact admitted error rfl

/-- An ordinary program neither sends for the caller nor asks the user. -/
theorem Program.Ordinary.counts {program : Program α}
    (h : program.Ordinary vault (Admitted handle)) (state : σ) :
    Effect.sends (program.effects handle state) = 0 ∧
      Effect.asks (program.effects handle state) = 0 := by
  have permitted := Meets.effects
    (fun {effect state} _ => Surroundings.admits handle effect state) h state
  exact ⟨List.countP_eq_zero.2 fun effect mem => Effect.not_isCallerSend_of_permits
      (permitted effect mem),
    List.countP_eq_zero.2 fun effect mem => Effect.not_isAsk_of_permits (permitted effect mem)⟩

namespace Session

variable {session : Session}

/-! ### Costs -/

/-- Whether an attempt fails before anything is sent, and another one is counted. -/
def retriesUnsent (session : Session) (handle : (effect : Effect) → σ → effect.Reply × σ)
    (ctx : Context) (state : σ) : Bool :=
  match (session.prepare ctx).run handle state with
  | (.error error, state) =>
    match (session.react error).run handle state with
    | (.ok .retry, _) => true
    | _ => false
  | _ => false

/-- The refusals after which a request is tried again, with or without the user's help. -/
def retried : List Refusal :=
  [.invalidAccessToken, .accessTokenExpired, .clientCertificateExpired, .invalidResourceOwner,
    .otpRequired, .invalidOtp, .otpExpired]

/-- What is known of a result: how many times it says the request was tried, and for what cause. -/
def IsExhausted (attempts : Nat) (source : Option Error) : Prop :=
  attempts = Context.maxAttempts ∧ ∃ refusal status code text,
    source = some (.server refusal status code text) ∧ refusal ∈ retried

/-- The counts of a context after sending, asking and counting. -/
structure Counts (start last : Context) (sends asks unsent : Nat) : Prop where
  /-- What was sent, or was counted as if it had been. -/
  attempts : last.attempts = start.attempts + sends + unsent
  /-- What was asked. -/
  recoveries : last.recoveries = start.recoveries + asks
  /-- There are attempts left. -/
  left : last.attempts < Context.maxAttempts
  /-- There may be questions left. -/
  within : last.recoveries ≤ Context.maxRecoveries
  /-- Something was spent. -/
  spent : 0 < sends + asks + unsent

/-- What a result says about the counts of the last context. -/
def Accounts (start last : Context) (sends asks unsent : Nat) : Except Error Response → Prop
  | .ok _ => last.attempts = start.attempts + sends + unsent
  | .error (.awaitingInput _) => Counts start last sends asks unsent
  | .error (.tooManyAttempts attempts source) =>
    IsExhausted attempts source ∧ last.attempts = start.attempts + sends + unsent
  | .error _ => True

/-- The costs of an attempt or of asking, by how it ends. -/
structure Spends (handle : (effect : Effect) → σ → effect.Reply × σ) {start : Context}
    (round : Round start) (sends asks unsent : Nat) : Prop where
  /-- No more is sent than there are attempts left. -/
  sent : start.attempts + sends ≤ Context.maxAttempts
  /-- No more is asked than there are questions left. -/
  asked : start.recoveries + asks ≤ Context.maxRecoveries
  /-- What is known of the counts. -/
  counts : match round with
    | .finished result last =>
      Raised handle result ∨ Accounts start last sends asks unsent result
    | .again next _ => Counts start next sends asks unsent

/-- Counts from a later context, which the first one led to. -/
theorem Counts.earlier {start later last : Context} {sends asks unsent sent asked counted : Nat}
    (counts : Counts later last sends asks unsent)
    (attempts : later.attempts = start.attempts + sent + counted)
    (recoveries : later.recoveries = start.recoveries + asked) :
    Counts start last (sent + sends) (asked + asks) (counted + unsent) :=
  ⟨by rw [counts.attempts, attempts]; omega, by rw [counts.recoveries, recoveries]; omega,
    counts.left, counts.within, by have := counts.spent; omega⟩

theorem Accounts.earlier {start later last : Context} {sends asks unsent sent asked counted : Nat}
    {result : Except Error Response} (accounts : Accounts later last sends asks unsent result)
    (attempts : later.attempts = start.attempts + sent + counted)
    (recoveries : later.recoveries = start.recoveries + asked) :
    Accounts start last (sent + sends) (asked + asks) (counted + unsent) result := by
  rw [Accounts.eq_def] at accounts ⊢
  split at accounts
  · rw [accounts, attempts]
    omega
  · exact accounts.earlier attempts recoveries
  · refine ⟨accounts.1, ?_⟩
    rw [accounts.2, attempts]
    omega
  · trivial

theorem Spends.earlier {start later : Context} {round : Round later}
    {sends asks unsent sent asked : Nat} (spends : Spends handle round sends asks unsent)
    (less : later.allowance ≤ start.allowance) (attempts : later.attempts = start.attempts + sent)
    (recoveries : later.recoveries = start.recoveries + asked) :
    Spends handle (round.earlier less) (sent + sends) (asked + asks) unsent := by
  refine ⟨by have := spends.sent; omega, by have := spends.asked; omega, ?_⟩
  rw [← Nat.zero_add unsent]
  have counts := spends.counts
  cases round with
  | finished result last =>
    exact counts.imp_right fun accounts => Accounts.earlier accounts attempts recoveries
  | again next _ => exact Counts.earlier counts attempts recoveries

/-- An error that is no verdict says nothing about the counts. -/
theorem accounts_of_not_isVerdict {start last : Context} {sends asks unsent : Nat} {error : Error}
    (h : ¬error.IsVerdict) : Accounts start last sends asks unsent (.error error) := by
  cases error with
  | awaitingInput => exact absurd trivial h
  | tooManyAttempts => exact absurd trivial h
  | _ => trivial

/-- An attempt that ends with an error that is no verdict of the attempt's own. -/
theorem spends_of_admitted {start last : Context} {sends asks unsent : Nat} {error : Error}
    (sent : start.attempts + sends ≤ Context.maxAttempts)
    (asked : start.recoveries + asks ≤ Context.maxRecoveries) (h : Admitted handle error) :
    Spends handle (.finished (.error error) last : Round start) sends asks unsent :=
  ⟨sent, asked, h.symm.imp (fun raised => ⟨error, rfl, raised⟩) accounts_of_not_isVerdict⟩

/-! ### Asking -/

/-- **Asking the user** sends nothing for the caller and counts every question. -/
theorem recover_spends (obstacle : Obstacle) (need : Need)
    (ctx : Context) (left : ctx.attempts < Context.maxAttempts)
    (within : ctx.recoveries ≤ Context.maxRecoveries) (state : σ) :
    ∃ round last, (session.recover obstacle need ctx).run handle state = (.ok round, last) ∧
      Effect.sends ((session.recover obstacle need ctx).effects handle state) = 0 ∧
      Spends handle round 0
        (Effect.asks ((session.recover obstacle need ctx).effects handle state)) 0 := by
  induction need, ctx using session.recover_induction obstacle generalizing state with
  | exhausted need ctx _ eq =>
    rw [eq]
    exact ⟨_, state, rfl, rfl, spends_of_admitted (by omega) (by simpa using within) (.inl id)⟩
  | asks need ctx more eq again =>
    rw [eq]
    have within' : ctx.countRecovery.recoveries ≤ Context.maxRecoveries := Nat.not_lt.1 more
    have counts {next : Context} (attempts : next.attempts = ctx.attempts)
        (recoveries : next.recoveries = ctx.recoveries + 1) : Counts ctx next 0 1 0 :=
      ⟨by omega, recoveries, by omega, recoveries ▸ within', by decide⟩
    have asked : (Program.ask (.ask ctx.id need)).run handle state =
      (.ok (handle (.ask ctx.id need) state).1, (handle (.ask ctx.id need) state).2) := rfl
    rw [Program.run_bind_ok asked, Program.effects_bind_ok asked]
    simp only [Effect.sends_append, Effect.asks_append]
    generalize handle (.ask ctx.id need) state = answered
    obtain ⟨answer, state₁⟩ := answered
    cases answer with
    | credentials credential =>
      exact ⟨_, _, rfl, rfl, ⟨by omega, within', counts rfl rfl⟩⟩
    | otp passcode => exact ⟨_, _, rfl, rfl, ⟨by omega, within', counts rfl rfl⟩⟩
    | unlocked => exact ⟨_, _, rfl, rfl, ⟨by omega, within', counts rfl rfl⟩⟩
    | deferred => exact ⟨_, _, rfl, rfl, ⟨by omega, within', .inr (counts rfl rfl)⟩⟩
    | cancelled => exact ⟨_, _, rfl, rfl, spends_of_admitted (by omega) within' (.inl id)⟩
    | otpChannel channel =>
      have ordinary : (session.deliverOtp channel).Ordinary session.vault
        (Admitted handle) := ordinary_deliverOtp admitted_of_not_isVerdict channel
      obtain ⟨sends, asks⟩ := ordinary.counts state₁
      cases delivered : (session.deliverOtp channel).run handle state₁ with
      | mk result state₂ =>
      simp only [answered]
      rw [Program.run_attempt_bind delivered, Program.effects_attempt_bind delivered,
        Effect.sends_append, Effect.asks_append, sends, asks]
      cases result with
      | error error =>
        have admitted := ordinary.run_error delivered
        exact ⟨_, _, rfl, rfl, spends_of_admitted (by omega) within' admitted⟩
      | ok _ =>
        have less : (ctx.countRecovery.withOtpChannel channel).allowance < ctx.allowance :=
          Context.allowance_countRecovery_lt more
        obtain ⟨round, last, run, none, spends⟩ := again channel left within' state₂
        refine ⟨round.earlier (Nat.le_of_lt less), last, ?_, ?_, ?_⟩
        · exact (Program.run_bind_ok run).trans (Program.run_pure _ _ _)
        · simp only
          rw [Program.effects_bind_ok run, Effect.sends_append, none]
          rfl
        · simp only
          rw [Program.effects_bind_ok run, Effect.asks_append, Nat.zero_add]
          exact spends.earlier (Nat.le_of_lt less) rfl rfl

/-! ### Reacting -/

/-- Only some refusals are followed by anything but giving up. -/
theorem mem_retried_of_reactTo {refusal : Refusal} {reaction : Reaction} {state last : σ}
    (run : (session.reactTo refusal).run handle state = (.ok reaction, last))
    (more : reaction ≠ .giveUp) : refusal ∈ retried := by
  cases refusal with
  | unknown =>
    cases run
    exact absurd rfl more
  | invalidClientCredential =>
    rw [reactTo, Program.run_bind] at run
    split at run
    · cases run
      exact absurd rfl more
    · cases run
  | _ => simp [retried]

/-- Only a refusal of the gateway is followed by another attempt that asks nobody. -/
theorem server_of_react_retry {error : Error} {state last : σ}
    (run : (session.react error).run handle state = (.ok .retry, last)) :
    ∃ refusal status code text, error = .server refusal status code text ∧
      refusal ∈ retried := by
  unfold react at run
  split at run
  · cases run
  · split at run
    · cases run
    · exact ⟨_, _, _, _, rfl, mem_retried_of_reactTo run (by nofun)⟩
    · cases run

/-- A response is refused by the gateway, and what follows depends on the refusal. -/
theorem server_of_react_refusal {response : Response} {reaction : Reaction} {state last : σ}
    (run : (session.react response.refusal).run handle state = (.ok reaction, last))
    (more : reaction ≠ .giveUp) :
    ∃ refusal status code text, response.refusal = .server refusal status code text ∧
      refusal ∈ retried :=
  ⟨_, _, _, _, rfl, mem_retried_of_reactTo run more⟩

/-! ### Attempts -/

/-- What follows a failure before the request was sent. -/
theorem afterUnsent_spends (ctx : Context)
    (left : ctx.attempts < Context.maxAttempts) (within : ctx.recoveries ≤ Context.maxRecoveries)
    {state unsent : σ} {error : Error}
    (prepared : (session.prepare ctx).run handle state = (.error error, unsent)) :
    ∃ round last, (session.afterUnsent ctx error).run handle unsent = (.ok round, last) ∧
      Effect.sends ((session.afterUnsent ctx error).effects handle unsent) = 0 ∧
      Spends handle round 0 (Effect.asks ((session.afterUnsent ctx error).effects handle unsent))
        (session.retriesUnsent handle ctx state).toNat := by
  have ordinary : (session.react error).Ordinary session.vault (Admitted handle) :=
    ordinary_react admitted_of_not_isVerdict error
  obtain ⟨sends, asks⟩ := ordinary.counts unsent
  rw [retriesUnsent, prepared]
  simp only
  cases reacted : (session.react error).run handle unsent with
  | mk result state₁ =>
  rw [afterUnsent, Program.run_attempt_bind reacted, Program.effects_attempt_bind reacted,
    Effect.sends_append, Effect.asks_append, sends, asks]
  match result with
  | .error failure =>
    exact ⟨_, _, rfl, rfl, spends_of_admitted (Nat.le_of_lt left) within
      (ordinary.run_error reacted)⟩
  | .ok .giveUp =>
    have admitted := (ordinary_prepare admitted_of_not_isVerdict ctx).run_error prepared
    exact ⟨_, _, rfl, rfl, spends_of_admitted (Nat.le_of_lt left) within admitted⟩
  | .ok .retry =>
    obtain ⟨refusal, status, code, text, rfl, retried⟩ := server_of_react_retry reacted
    simp only
    split
    · next more =>
      exact ⟨_, _, rfl, rfl, Nat.le_of_lt left, within, rfl, rfl, more, within, Nat.one_pos⟩
    · next exhausted =>
      have attempts : ctx.countAttempt.attempts = Context.maxAttempts :=
        Nat.le_antisymm left (Nat.not_lt.1 exhausted)
      exact ⟨_, _, rfl, rfl, Nat.le_of_lt left, within,
        .inr ⟨⟨attempts, refusal, status, code, text, rfl, retried⟩, rfl⟩⟩
  | .ok (.recover obstacle) =>
    obtain ⟨round, last, run, none, spends⟩ :=
      recover_spends obstacle (needFor [] obstacle) ctx left within state₁
    refine ⟨round, last, run, ?_, ?_⟩
    · rw [Nat.zero_add]
      exact none
    · rw [Nat.zero_add]
      exact spends

/-- The last attempt was sent, and its refusal is one after which there would be another. -/
theorem exhausted_spends {ctx : Context} (left : ctx.attempts < Context.maxAttempts)
    (within : ctx.recoveries ≤ Context.maxRecoveries) {response : Response} {state last : σ}
    {reaction : Reaction}
    (reacted : (session.react response.refusal).run handle state = (.ok reaction, last))
    (more : reaction ≠ .giveUp) (exhausted : ¬ctx.countAttempt.attempts < Context.maxAttempts) :
    Spends handle (.finished (.error (.tooManyAttempts ctx.countAttempt.withoutOtp.attempts
      (some response.refusal))) ctx.countAttempt.withoutOtp : Round ctx) 1 0 0 := by
  obtain ⟨refusal, status, code, text, eq, retried⟩ := server_of_react_refusal reacted more
  have attempts : ctx.countAttempt.attempts = Context.maxAttempts :=
    Nat.le_antisymm left (Nat.not_lt.1 exhausted)
  exact ⟨left, within,
    .inr ⟨⟨attempts, refusal, status, code, text, congrArg some eq, retried⟩, rfl⟩⟩

/-- What follows a refusal: the request was sent once. -/
theorem afterRefusal_spends (ctx : Context)
    (left : ctx.attempts < Context.maxAttempts) (within : ctx.recoveries ≤ Context.maxRecoveries)
    (response : Response) (state : σ) :
    ∃ round last, (session.afterRefusal ctx response).run handle state = (.ok round, last) ∧
      Effect.sends ((session.afterRefusal ctx response).effects handle state) = 0 ∧
      Spends handle round 1
        (Effect.asks ((session.afterRefusal ctx response).effects handle state)) 0 := by
  have ordinary : (session.react response.refusal).Ordinary session.vault
    (Admitted handle) := ordinary_react admitted_of_not_isVerdict _
  obtain ⟨sends, asks⟩ := ordinary.counts state
  cases reacted : (session.react response.refusal).run handle state with
  | mk result state₁ =>
  rw [afterRefusal, Program.run_attempt_bind reacted, Program.effects_attempt_bind reacted,
    Effect.sends_append, Effect.asks_append, sends, asks, Nat.zero_add, Nat.zero_add]
  match result with
  | .error failure =>
    exact ⟨_, _, rfl, rfl, spends_of_admitted left within
      (ordinary.run_error reacted)⟩
  | .ok .giveUp => exact ⟨_, _, rfl, rfl, spends_of_admitted left within (.inl id)⟩
  | .ok .retry =>
    simp only
    split
    · next more => exact ⟨_, _, rfl, rfl, left, within, rfl, rfl, more, within, Nat.one_pos⟩
    · next exhausted =>
      exact ⟨_, _, rfl, rfl, exhausted_spends left within reacted (by nofun) exhausted⟩
  | .ok (.recover obstacle) =>
    simp only
    split
    · next more =>
      obtain ⟨round, last, run, none, spends⟩ := recover_spends obstacle
        (needFor (otpChannels response) obstacle) ctx.countAttempt.withoutOtp more within state₁
      refine ⟨round.earlier _, last, (Program.run_bind_ok run).trans (Program.run_pure _ _ _),
        ?_, ?_⟩
      · rw [Program.effects_bind_ok run, Effect.sends_append, none]
        rfl
      · rw [Program.effects_bind_ok run, Effect.asks_append]
        have earlier := spends.earlier (Context.allowance_countAttempt_le ctx) rfl
          (Nat.add_zero _).symm
        rw [Nat.zero_add] at earlier
        exact earlier
    · next exhausted =>
      exact ⟨_, _, rfl, rfl, exhausted_spends left within reacted (by nofun) exhausted⟩

/-- Sending for the caller is one effect, if it comes to it. -/
theorem send_caller (session : Session) (id : Nat) (request : Request) (state : σ) :
    Effect.asks ((session.send (.caller id) request).effects handle state) = 0 ∧
      match (session.send (.caller id) request).run handle state with
      | (.ok _, _) => Effect.sends ((session.send (.caller id) request).effects handle state) = 1
      | (.error error, _) => Admitted handle error ∧
        Effect.sends ((session.send (.caller id) request).effects handle state) ≤ 1 := by
  have ordinary : session.connection.Ordinary session.vault (Admitted handle) :=
    ordinary_connection admitted_of_not_isVerdict
  obtain ⟨sends, asks⟩ := ordinary.counts state
  cases connected : session.connection.run handle state with
  | mk result state₁ =>
  cases result with
  | error error =>
    rw [send, Program.run_bind_error connected, Program.effects_bind_error connected]
    exact ⟨asks, ordinary.run_error connected, by omega⟩
  | ok connection =>
    have admitted := Surroundings.admits handle (.send connection (.caller id) request) state₁
    rw [send, Program.run_bind_ok connected, Program.effects_bind_ok connected,
      Effect.sends_append, Effect.asks_append, sends, asks]
    refine ⟨rfl, ?_⟩
    rw [Program.send, Program.run_perform]
    generalize handle (.send connection (.caller id) request) state₁ = answered at admitted
    obtain ⟨result, state₂⟩ := answered
    cases result with
    | ok response => rfl
    | error error => exact ⟨admitted error rfl, Nat.le_refl 1⟩

/-- **One attempt** ends with a result or with less left, whatever the surroundings answer, and
spends what it costs. -/
theorem round_spends (ctx : Context)
    (left : ctx.attempts < Context.maxAttempts) (within : ctx.recoveries ≤ Context.maxRecoveries)
    (state : σ) :
    ∃ round last, (session.round ctx).run handle state = (.ok round, last) ∧
      Spends handle round (Effect.sends ((session.round ctx).effects handle state))
        (Effect.asks ((session.round ctx).effects handle state))
        (session.retriesUnsent handle ctx state).toNat := by
  have ordinary : (session.prepare ctx).Ordinary session.vault (Admitted handle) :=
    ordinary_prepare admitted_of_not_isVerdict ctx
  obtain ⟨sends, asks⟩ := ordinary.counts state
  cases prepared : (session.prepare ctx).run handle state with
  | mk result state₁ =>
  rw [round, Program.run_attempt_bind prepared, Program.effects_attempt_bind prepared,
    Effect.sends_append, Effect.asks_append, sends, asks, Nat.zero_add, Nat.zero_add]
  cases result with
  | error error =>
    obtain ⟨round, last, run, none, spends⟩ := afterUnsent_spends ctx left within prepared
    refine ⟨round, last, run, ?_⟩
    simp only
    rw [none]
    exact spends
  | ok request =>
    have never : session.retriesUnsent handle ctx state = false := by
      rw [retriesUnsent, prepared]
    obtain ⟨none, sent⟩ := send_caller session ctx.id request state₁
    simp only
    rw [never]
    cases answered : (session.send (.caller ctx.id) request).run handle state₁ with
    | mk result state₂ =>
    rw [answered] at sent
    rw [Program.run_attempt_bind answered, Program.effects_attempt_bind answered,
      Effect.sends_append, Effect.asks_append, none, Nat.zero_add]
    cases result with
    | error error =>
      obtain ⟨admitted, sent⟩ := sent
      exact ⟨_, _, rfl, spends_of_admitted
        (Nat.le_trans (Nat.add_le_add_left sent _) left) within admitted⟩
    | ok response =>
      simp only at sent ⊢
      rw [sent]
      split
      · exact ⟨_, _, rfl, left, within, .inr rfl⟩
      · obtain ⟨round, last, run, none, spends⟩ :=
          afterRefusal_spends ctx left within response state₂
        refine ⟨round, last, run, ?_⟩
        rw [none]
        exact spends

end Session

end

end GatewaySession
