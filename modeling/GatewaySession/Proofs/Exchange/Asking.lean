import GatewaySession.Exchange.Execution

/-!
# Asking again

The user is asked once more only when he chooses a channel for a one-time passcode, after the
passcode was sent for. Any other answer is the last, and so is the question that would be one too
many. This is said once, as a principle of induction: a property of asking holds if it holds where
nobody is asked any more, and of a question and what follows its answer, given that it holds of the
question that may come next.

## Main definitions

* `Session.answered` — what follows an answer

## Main results

* `Session.recover_induction` — induction over the questions
-/

namespace GatewaySession

namespace Session

variable {session : Session} {ctx : Context}

/-- What follows an answer to a question. -/
def answered (session : Session) (obstacle : Obstacle) (need : Need)
    (more : ¬Context.maxRecoveries < ctx.countRecovery.recoveries) :
    Answer → Program (Round ctx)
  | .credentials credential => do
    Program.cacheUser credential
    return .again ctx.countRecovery (Context.allowance_countRecovery_lt more)
  | .otpChannel channel => do
    match ← (session.deliverOtp channel).attempt with
    | .error error => return .finished (.error error) ctx.countRecovery
    | .ok () =>
      let chosen := ctx.countRecovery.withOtpChannel channel
      have le : chosen.allowance ≤ ctx.allowance :=
        Nat.le_of_lt (Context.allowance_countRecovery_lt more)
      return (← session.recover obstacle (selectChannel channel need) chosen).earlier le
  | .otp otp =>
    return .again (ctx.countRecovery.withOtp otp) (Context.allowance_countRecovery_lt more)
  | .unlocked => return .again ctx.countRecovery (Context.allowance_countRecovery_lt more)
  | .deferred => return .finished (.error (.awaitingInput obstacle)) ctx.countRecovery
  | .cancelled => return .finished (.error .cancelled) ctx.countRecovery

/-- **Induction over the questions** that the user is asked. Each lowers the allowance. -/
@[elab_as_elim]
theorem recover_induction (session : Session) (obstacle : Obstacle)
    {motive : Need → Context → Prop}
    (exhausted : ∀ need ctx, Context.maxRecoveries < ctx.countRecovery.recoveries →
      session.recover obstacle need ctx =
        pure (.finished (.error (.recoverable obstacle)) ctx.countRecovery) →
      motive need ctx)
    (asks : ∀ need ctx (more : ¬Context.maxRecoveries < ctx.countRecovery.recoveries),
      session.recover obstacle need ctx =
        Program.ask (.ask ctx.id need) >>= session.answered obstacle need more →
      (∀ channel, motive (selectChannel channel need) (ctx.countRecovery.withOtpChannel channel)) →
      motive need ctx)
    (need : Need) (ctx : Context) : motive need ctx := by
  induction ctx using Context.allowance_induction generalizing need with
  | step ctx ih =>
    by_cases h : Context.maxRecoveries < ctx.countRecovery.recoveries
    · refine exhausted need ctx h ?_
      rw [recover]
      exact dif_pos h
    · refine asks need ctx h ?_ fun channel =>
        ih (ctx.countRecovery.withOtpChannel channel) (Context.allowance_countRecovery_lt h) _
      rw [recover]
      refine (dif_neg h).trans (congrArg _ (funext fun answer => ?_))
      cases answer <;> rfl

end Session

end GatewaySession
