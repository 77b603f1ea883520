import GatewaySession.Gateway.Message

/-!
# Requests on their way

A caller's request together with what has happened to it: how often it was sent, how often the user
was asked on its behalf, and what the user supplied. The request itself never changes; every attempt
decorates it anew. Both counts are bounded, and the sum of what is left of them is the measure that
every further attempt makes smaller.

## Main definitions

* `Context` — a request and its history
* `Context.allowance` — what is left of both counts
* `Round` — how one attempt ends: with a result, or with less left
-/

namespace GatewaySession

/-- A request on its way. -/
structure Context where
  /-- The number of the request. -/
  id : Nat
  /-- The request as the caller made it. -/
  request : Request
  /-- How often it was sent. -/
  attempts : Nat := 0
  /-- How often the user was asked. -/
  recoveries : Nat := 0
  /-- What the user supplied. -/
  extra : Table String := .empty

namespace Context

/-- The most often a request is sent. -/
def maxAttempts : Nat := 4

/-- The most often the user is asked on behalf of a request. -/
def maxRecoveries : Nat := 8

/-- The name under which a one-time passcode is kept. -/
def otpName : String := "otp"

/-- The name under which the channel of a one-time passcode is kept. -/
def otpChannelName : String := "otp_channel"

/-- The one-time passcode to send. -/
def otp? (ctx : Context) : Option String := ctx.extra.get? otpName

/-- The channel over which the passcode came. -/
def otpChannel? (ctx : Context) : Option String := ctx.extra.get? otpChannelName

/-- Keeps something that the user supplied. -/
def withExtra (ctx : Context) (name value : String) : Context :=
  { ctx with extra := ctx.extra.insert name value }

/-- Keeps a one-time passcode. -/
def withOtp (ctx : Context) (otp : String) : Context := ctx.withExtra otpName otp

/-- Keeps the channel of a one-time passcode. -/
def withOtpChannel (ctx : Context) (channel : String) : Context :=
  ctx.withExtra otpChannelName channel

/-- Drops the one-time passcode, which has been used. -/
def withoutOtp (ctx : Context) : Context := { ctx with extra := ctx.extra.erase otpName }

/-- Counts an attempt. -/
def countAttempt (ctx : Context) : Context := { ctx with attempts := ctx.attempts + 1 }

/-- Counts a question to the user. -/
def countRecovery (ctx : Context) : Context := { ctx with recoveries := ctx.recoveries + 1 }

/-! ### What is left -/

/-- How many more attempts and questions there can be. -/
def allowance (ctx : Context) : Nat :=
  (maxAttempts - ctx.attempts) + (maxRecoveries - ctx.recoveries)

theorem allowance_countAttempt_le (ctx : Context) : ctx.countAttempt.allowance ≤ ctx.allowance := by
  simp only [allowance, countAttempt]
  omega

theorem allowance_countAttempt_lt {ctx : Context} (h : ctx.countAttempt.attempts < maxAttempts) :
    ctx.countAttempt.allowance < ctx.allowance := by
  simp only [allowance, countAttempt] at h ⊢
  omega

theorem allowance_countRecovery_lt {ctx : Context}
    (h : ¬maxRecoveries < ctx.countRecovery.recoveries) :
    ctx.countRecovery.allowance < ctx.allowance := by
  simp only [allowance, countRecovery] at h ⊢
  omega

/-- Induction on what is left of both counts. -/
@[elab_as_elim]
theorem allowance_induction {motive : Context → Prop}
    (step : ∀ ctx, (∀ next : Context, next.allowance < ctx.allowance → motive next) → motive ctx)
    (ctx : Context) : motive ctx :=
  (measure allowance).wf.induction ctx step

end Context

/-- How one attempt on a request ends. -/
inductive Round (start : Context) where
  /-- With a result, and the context as it is then. -/
  | finished (result : Except Error Response) (last : Context)
  /-- With another attempt to be made, from a context that has less left. -/
  | again (next : Context) (less : next.allowance < start.allowance)

/-- An attempt that began later, with no more left, ends this one. -/
def Round.earlier {start later : Context} (h : later.allowance ≤ start.allowance) :
    Round later → Round start
  | finished result last => .finished result last
  | again next less => .again next (Nat.lt_of_lt_of_le less h)

end GatewaySession
