import GatewaySession.Proofs.Exchange.Attempt
import GatewaySession.Proofs.Program.Trace

/-!
# How long a request lives

A request is executed, may be parked until input arrives, and is executed again, until there is a
result. What it costs is counted over all of this: how often it was sent, how often the user was
asked, how often it was prepared, and how often an attempt was counted although nothing was sent.
The counts of the context, which outlive the parking, are what was spent, so all four stay bounded.

The step is one attempt, and what is known of it is `Session.round_spends`. An execution adds up the
attempts it makes, and a life adds up executions.

## Main definitions

* `Cost` — what is counted
* `Session.starts` — the attempts of an execution
* `Session.Life` — a request that waits to be executed, and what it has cost so far

## Main results

* `Session.trace_execute`, `Session.effects_execute` — an execution is a row of attempts
* `Session.forall_mem_starts` — what every attempt starts from
* `Session.execute_settles` — one execution
* `Session.Life.inCredit` — a request that waits has as much left as its counts say
* `Session.Life.execute_bounded` — a whole life
-/

namespace GatewaySession

/-! ### Costs -/

/-- What executing a request costs. -/
structure Cost where
  /-- How often it was sent. -/
  sends : Nat
  /-- How often the user was asked. -/
  asks : Nat
  /-- How often it was prepared, which is how every attempt begins. -/
  prepares : Nat
  /-- How often an attempt was counted although nothing was sent. -/
  unsent : Nat

namespace Cost

/-- Nothing was done. -/
def zero : Cost := ⟨0, 0, 0, 0⟩

/-- What two things cost together. -/
def plus (first second : Cost) : Cost :=
  ⟨first.sends + second.sends, first.asks + second.asks, first.prepares + second.prepares,
    first.unsent + second.unsent⟩

@[simp] theorem plus_zero (cost : Cost) : cost.plus zero = cost := rfl

@[simp] theorem sends_plus (first second : Cost) :
    (first.plus second).sends = first.sends + second.sends := rfl

@[simp] theorem asks_plus (first second : Cost) :
    (first.plus second).asks = first.asks + second.asks := rfl

@[simp] theorem prepares_plus (first second : Cost) :
    (first.plus second).prepares = first.prepares + second.prepares := rfl

@[simp] theorem unsent_plus (first second : Cost) :
    (first.plus second).unsent = first.unsent + second.unsent := rfl

end Cost

open Surroundings (Raises Raised)

namespace Session

variable {σ : Type}

section

variable (session : Session) (handle : (effect : Effect) → σ → effect.Reply × σ)

/-! ### One execution -/

/-- The attempts of an execution: the context that each starts from, and the state it finds. -/
def starts (ctx : Context) (state : σ) : List (Context × σ) :=
  (ctx, state) :: match (session.round ctx).run handle state with
    | (.ok (.again next _), last) => starts next last
    | _ => []
termination_by ctx.allowance

/-- What an execution costs. -/
def cost (ctx : Context) (state : σ) : Cost where
  sends := Effect.sends ((session.execute ctx).effects handle state)
  asks := Effect.asks ((session.execute ctx).effects handle state)
  prepares := (session.starts handle ctx state).length
  unsent := (session.starts handle ctx state).countP fun start =>
    session.retriesUnsent handle start.1 start.2

/-- What one attempt costs. -/
def attemptCost (ctx : Context) (state : σ) : Cost where
  sends := Effect.sends ((session.round ctx).effects handle state)
  asks := Effect.asks ((session.round ctx).effects handle state)
  prepares := 1
  unsent := (session.retriesUnsent handle ctx state).toNat

/-- The moments of an execution are those of its attempts. -/
theorem trace_execute (ctx : Context) (state : σ) :
    (session.execute ctx).trace handle state =
      (session.starts handle ctx state).flatMap fun start =>
        (session.round start.1).trace handle start.2 := by
  induction ctx using Context.allowance_induction generalizing state with
  | step ctx ih =>
  rw [execute, starts, List.flatMap_cons]
  cases run : (session.round ctx).run handle state with
  | mk result last =>
  cases result with
  | error error => rw [Program.trace_bind_error run, List.flatMap_nil, List.append_nil]
  | ok round =>
    rw [Program.trace_bind_ok run]
    cases round with
    | finished result next => rfl
    | again next less => exact congrArg _ (ih _ less last)

/-- The effects of an execution are those of its attempts. -/
theorem effects_execute (ctx : Context) (state : σ) :
    (session.execute ctx).effects handle state =
      (session.starts handle ctx state).flatMap fun start =>
        (session.round start.1).effects handle start.2 := by
  rw [← Program.map_effect_trace, trace_execute, List.map_flatMap]
  simp only [Program.map_effect_trace]

end

variable {session : Session} {handle : (effect : Effect) → σ → effect.Reply × σ}

section

variable {ctx : Context} {state last : σ}

/-- **Every attempt** starts from what the first one does, if each that does passes it on. -/
theorem forall_mem_starts {P : Context → σ → Prop}
    (again : ∀ {ctx next : Context} {state last : σ} {less : next.allowance < ctx.allowance},
      P ctx state → (session.round ctx).run handle state = (.ok (.again next less), last) →
        P next last)
    (first : P ctx state) : ∀ start ∈ session.starts handle ctx state, P start.1 start.2 := by
  intro start mem
  induction ctx using Context.allowance_induction generalizing state with
  | step ctx ih =>
  rw [starts] at mem
  obtain rfl | later := List.mem_cons.1 mem
  · exact first
  split at later
  next next less last run => exact ih _ less (again first run) later
  next => cases later

/-- What an execution costs, from what its first attempt costs. -/
theorem cost_of_starts {rest : List (Context × σ)}
    (h : session.starts handle ctx state = (ctx, state) :: rest) :
    session.cost handle ctx state = (session.attemptCost handle ctx state).plus
      ⟨Effect.sends (rest.flatMap fun start => (session.round start.1).effects handle start.2),
        Effect.asks (rest.flatMap fun start => (session.round start.1).effects handle start.2),
        rest.length, rest.countP fun start => session.retriesUnsent handle start.1 start.2⟩ := by
  have unsent (unsent : Bool) (count : Nat) :
      count + (if unsent = true then 1 else 0) = unsent.toNat + count := by
    cases unsent
    · exact (Nat.zero_add count).symm
    · exact Nat.add_comm count 1
  rw [cost, effects_execute, h, List.flatMap_cons, Effect.sends_append, Effect.asks_append,
    List.length_cons, List.countP_cons, unsent, Nat.add_comm rest.length, attemptCost, Cost.plus]

/-- An execution whose first attempt has a result. -/
theorem execute_of_finished {result : Except Error Response} {next : Context}
    (h : (session.round ctx).run handle state = (.ok (.finished result next), last)) :
    (session.execute ctx).run handle state = (.ok (result, next), last) ∧
      session.cost handle ctx state = session.attemptCost handle ctx state := by
  have starts : session.starts handle ctx state = [(ctx, state)] := by rw [starts, h]
  refine ⟨?_, ?_⟩
  · rw [execute, Program.run_bind_ok h]
    rfl
  · rw [cost_of_starts starts]
    exact Cost.plus_zero _

/-- An execution whose first attempt is followed by another. -/
theorem execute_of_again {next : Context} {less : next.allowance < ctx.allowance}
    (h : (session.round ctx).run handle state = (.ok (.again next less), last)) :
    (session.execute ctx).run handle state = (session.execute next).run handle last ∧
      session.cost handle ctx state =
        (session.attemptCost handle ctx state).plus (session.cost handle next last) := by
  have starts : session.starts handle ctx state =
      (ctx, state) :: session.starts handle next last := by rw [starts, h]
  refine ⟨?_, ?_⟩
  · rw [execute, Program.run_bind_ok h]
  · rw [cost_of_starts starts, ← effects_execute]
    rfl

end

/-! ### Executions add up -/

/-- What is known when an execution ends. -/
structure Settles (handle : (effect : Effect) → σ → effect.Reply × σ) (start : Context)
    (cost : Cost) (result : Except Error Response) (last : Context) : Prop where
  /-- No more is sent than there were attempts left. -/
  sent : start.attempts + cost.sends ≤ Context.maxAttempts
  /-- No more is asked than there were questions left. -/
  asked : start.recoveries + cost.asks ≤ Context.maxRecoveries
  /-- Every attempt but the last one lowers the allowance. -/
  prepared : start.attempts + start.recoveries + cost.prepares ≤
    Context.maxAttempts + Context.maxRecoveries
  /-- What the result says, if it is not the surroundings' own. A request that is parked has spent
  something in its last attempt too. -/
  counts : Raised handle result ∨ Accounts start last cost.sends cost.asks cost.unsent result ∧
    ∀ obstacle, result = .error (.awaitingInput obstacle) →
      cost.prepares ≤ cost.sends + cost.asks + cost.unsent

section

variable {start next last : Context} {cost rest : Cost} {result : Except Error Response}

/-- The last attempt. -/
theorem Spends.settles_of_finished
    (spends : Spends handle (.finished result last : Round start) cost.sends cost.asks cost.unsent)
    (once : cost.prepares = 1) (left : start.attempts < Context.maxAttempts)
    (within : start.recoveries ≤ Context.maxRecoveries) :
    Settles handle start cost result last := by
  refine ⟨spends.sent, spends.asked, by omega, spends.counts.imp_right fun accounts => ?_⟩
  refine ⟨accounts, ?_⟩
  rintro obstacle rfl
  rw [once]
  exact Counts.spent accounts

/-- An attempt before the rest of an execution. -/
theorem Spends.settles_of_again {less : next.allowance < start.allowance}
    (spends : Spends handle (.again next less) cost.sends cost.asks cost.unsent)
    (once : cost.prepares = 1) (settles : Settles handle next rest result last) :
    Settles handle start (cost.plus rest) result last := by
  have counts : Counts start next cost.sends cost.asks cost.unsent := spends.counts
  have attempts := counts.attempts
  have recoveries := counts.recoveries
  have spent := counts.spent
  have sent := settles.sent
  have asked := settles.asked
  have prepared := settles.prepared
  refine ⟨?_, ?_, ?_, settles.counts.imp_right fun ⟨accounts, parked⟩ =>
    ⟨accounts.earlier attempts recoveries, fun obstacle eq => ?_⟩⟩
  · rw [Cost.sends_plus]
    omega
  · rw [Cost.asks_plus]
    omega
  · rw [Cost.prepares_plus]
    omega
  · have := parked obstacle eq
    simp only [Cost.prepares_plus, Cost.sends_plus, Cost.asks_plus, Cost.unsent_plus]
    omega

end

/-- **One execution** ends, whatever the surroundings answer, and spends no more than was left. -/
theorem execute_settles (ctx : Context) (left : ctx.attempts < Context.maxAttempts)
    (within : ctx.recoveries ≤ Context.maxRecoveries) (state : σ) :
    ∃ result next last, (session.execute ctx).run handle state = (.ok (result, next), last) ∧
      Settles handle ctx (session.cost handle ctx state) result next := by
  induction ctx using Context.allowance_induction generalizing state with
  | step ctx ih =>
    obtain ⟨round, state₁, run, spends⟩ : ∃ round last,
        (session.round ctx).run handle state = (.ok round, last) ∧
          Spends handle round (session.attemptCost handle ctx state).sends
            (session.attemptCost handle ctx state).asks
            (session.attemptCost handle ctx state).unsent := by
      simp only [attemptCost]
      exact round_spends ctx left within state
    cases round with
    | finished result next =>
      obtain ⟨executed, cost⟩ := execute_of_finished run
      refine ⟨result, next, state₁, executed, ?_⟩
      rw [cost]
      exact spends.settles_of_finished rfl left within
    | again next less =>
      obtain ⟨executed, cost⟩ := execute_of_again run
      have counts : Counts ctx next _ _ _ := spends.counts
      obtain ⟨result, final, last, rest, settles⟩ :=
        ih next less counts.left counts.within state₁
      refine ⟨result, final, last, executed.trans rest, ?_⟩
      rw [cost]
      exact spends.settles_of_again rfl settles

/-! ### Lives -/

/-- A request that waits to be executed, for the first time or after it was parked, and what it has
cost so far. While it waits, its extra data may be changed and anything may happen to the state. -/
inductive Life (session : Session) (handle : (effect : Effect) → σ → effect.Reply × σ) :
    Context → Cost → Prop where
  /-- A fresh request. -/
  | fresh (id : Nat) (request : Request) (extra : Table String) :
      Life session handle { id, request, extra } .zero
  /-- A request that an execution has parked. -/
  | parked {ctx next : Context} {spent : Cost} {obstacle : Obstacle} {state last : σ}
      (life : Life session handle ctx spent)
      (run : (session.execute ctx).run handle state =
        (.ok (.error (.awaitingInput obstacle), next), last))
      (own : ¬Raises handle (.awaitingInput obstacle)) (extra : Table String) :
      Life session handle { next with extra } (spent.plus (session.cost handle ctx state))

/-- The counts of a request that waits are what it has cost, and leave something. -/
structure InCredit (ctx : Context) (spent : Cost) : Prop where
  /-- There are attempts left. -/
  left : ctx.attempts < Context.maxAttempts
  /-- There may be questions left. -/
  within : ctx.recoveries ≤ Context.maxRecoveries
  /-- What was sent, or was counted as if it had been. -/
  attempts : ctx.attempts = spent.sends + spent.unsent
  /-- What was asked. -/
  recoveries : ctx.recoveries = spent.asks
  /-- Every attempt, which prepared the request once, has spent something. -/
  prepared : spent.prepares ≤ ctx.attempts + ctx.recoveries

theorem Life.inCredit {ctx : Context} {spent : Cost} (life : Life session handle ctx spent) :
    InCredit ctx spent := by
  induction life with
  | fresh id request extra => exact ⟨Nat.zero_lt_succ _, Nat.zero_le _, rfl, rfl, Nat.le_refl 0⟩
  | @parked ctx next spent obstacle state last _ run own extra ih =>
    obtain ⟨result, next', last', run', settles⟩ : ∃ result next last,
        (session.execute ctx).run handle state = (.ok (result, next), last) ∧
          Settles handle ctx (session.cost handle ctx state) result next :=
      execute_settles ctx ih.left ih.within state
    rw [run] at run'
    obtain ⟨rfl, rfl⟩ : Except.error (.awaitingInput obstacle) = result ∧ next = next' := by
      injection run' with eq
      injection eq with eq
      injection eq with result next
      exact ⟨result, next⟩
    obtain ⟨error, eq, raised⟩ | ⟨counts, parked⟩ := settles.counts
    · injection eq with eq
      exact absurd (eq ▸ raised) own
    · have counts : Counts ctx next _ _ _ := counts
      have attempts := counts.attempts
      have recoveries := counts.recoveries
      have prepared := parked obstacle rfl
      have attempts' := ih.attempts
      have recoveries' := ih.recoveries
      have prepared' := ih.prepared
      constructor
      · exact counts.left
      · exact counts.within
      · simp only [Cost.sends_plus, Cost.unsent_plus]
        omega
      · simp only [Cost.asks_plus]
        omega
      · simp only [Cost.prepares_plus]
        omega

/-- What is known whenever an execution ends, with what the request has cost over its life. -/
structure WithinBounds (handle : (effect : Effect) → σ → effect.Reply × σ) (total : Cost)
    (result : Except Error Response) (last : Context) : Prop where
  /-- The request was sent four times at most. -/
  sent : total.sends ≤ 4
  /-- The user was asked eight times at most. -/
  asked : total.asks ≤ 8
  /-- The request was prepared twelve times at most. -/
  prepared : total.prepares ≤ 12
  /-- What the result says, if it is not the surroundings' own. -/
  counts : Raised handle result ∨
    match result with
    | .ok _ => last.attempts = total.sends + total.unsent
    | .error (.awaitingInput _) => last.attempts = total.sends + total.unsent ∧ last.attempts ≤ 3
    | .error (.tooManyAttempts attempts source) => last.attempts = total.sends + total.unsent ∧
        attempts = 4 ∧ ∃ refusal status code text,
          source = some (.server refusal status code text) ∧ refusal ∈ retried
    | .error _ => True

/-- **A request's life is bounded.** Whenever it is executed, the execution ends, and until there is
a result the request is sent, the user asked and the request prepared a bounded number of times. The
count of attempts is the number of requests sent and of attempts counted without one. A request is
parked only with attempts left, and too many attempts are all of them, the last one refused. -/
theorem Life.execute_bounded {ctx : Context} {spent : Cost} (life : Life session handle ctx spent)
    (state : σ) :
    ∃ result next last, (session.execute ctx).run handle state = (.ok (result, next), last) ∧
      WithinBounds handle (spent.plus (session.cost handle ctx state)) result next := by
  have credit := life.inCredit
  have attempts := credit.attempts
  have recoveries := credit.recoveries
  have prepared := credit.prepared
  obtain ⟨result, next, last, run, settles⟩ := execute_settles ctx credit.left credit.within state
  refine ⟨result, next, last, run, ?_⟩
  generalize session.cost handle ctx state = cost at settles
  have sent' := settles.sent
  have asked' := settles.asked
  have prepared' := settles.prepared
  rw [Context.maxAttempts] at sent' prepared'
  rw [Context.maxRecoveries] at asked' prepared'
  have total (h : next.attempts = ctx.attempts + cost.sends + cost.unsent) :
      next.attempts = (spent.plus cost).sends + (spent.plus cost).unsent := by
    rw [Cost.sends_plus, Cost.unsent_plus]
    omega
  constructor
  · rw [Cost.sends_plus]
    omega
  · rw [Cost.asks_plus]
    omega
  · rw [Cost.prepares_plus]
    omega
  · refine settles.counts.imp_right ?_
    rintro ⟨accounts, -⟩
    cases result with
    | ok response => exact total accounts
    | error error =>
      cases error with
      | awaitingInput obstacle =>
        have counts : Counts ctx next cost.sends cost.asks cost.unsent := accounts
        exact ⟨total counts.attempts, Nat.le_of_lt_succ counts.left⟩
      | tooManyAttempts attempts source =>
        obtain ⟨exhausted, attempts⟩ := accounts
        exact ⟨total attempts, exhausted⟩
      | _ => trivial

end Session

/-! ### Surroundings that never change -/

/-- Surroundings that always answer the same: one value stored under every key, a sealing key or an
error, a gateway that nobody reaches, and a user who will supply everything later. -/
def Surroundings.constant (stored : Option Bytes) (key : Except Error Aes256.Key) :
    (effect : Effect) → Unit → effect.Reply × Unit
  | .read _, _ => (.ok stored, ())
  | .write _ _, _ => (.ok (), ())
  | .remove _, _ => (.ok (), ())
  | .list _, _ => (.ok [], ())
  | .sealingKey _, _ => (key, ())
  | .nonce, _ => (Vector.replicate 12 0, ())
  | .identifier, _ => ("", ())
  | .time, _ => (⟨0, 0⟩, ())
  | .hold, _ => ((), ())
  | .release, _ => ((), ())
  | .user, _ => (none, ())
  | .cacheUser _, _ => ((), ())
  | .connection, _ => (none, ())
  | .cacheConnection _, _ => ((), ())
  | .connect _, _ => (.ok (), ())
  | .send _ _ _, _ => (.error .cancelled, ())
  | .ask _ _, _ => (.deferred, ())

/-- Nothing is stored, and the key store is locked. -/
def Surroundings.empty : (effect : Effect) → Unit → effect.Reply × Unit :=
  constant none (.error .storeLocked)

/-- Something is stored, and the key store answers that there were too many attempts. -/
def Surroundings.weary : (effect : Effect) → Unit → effect.Reply × Unit :=
  constant (some (List.replicate 60 0)) (.error (.tooManyAttempts 7 none))

open Surroundings (empty weary)

namespace Session

/-- A session that lacks nothing but a registration. -/
def unregistered : Session := ⟨.make "gateway" "client", ⟨"device", "Device"⟩⟩

/-- A request nobody has tried yet. -/
def freshContext : Context := { id := 1, request := { method := .get, url := "/" } }

/-- Over an empty store, a request waits for a credential of the user to register with. -/
theorem execute_empty (ctx : Context)
    (more : ¬Context.maxRecoveries < ctx.countRecovery.recoveries) :
    (unregistered.execute ctx).run empty () =
      (.ok (.error (.awaitingInput .credentialsRequired), ctx.countRecovery), ()) := by
  have prepared : (unregistered.prepare ctx).run empty () =
      (.error (.recoverable .credentialsRequired), ()) := rfl
  have reacted : (unregistered.react (.recoverable .credentialsRequired)).run empty () =
      (.ok (.recover .credentialsRequired), ()) := rfl
  have attempted : (unregistered.round ctx).run empty () =
      (.ok (.finished (.error (.awaitingInput .credentialsRequired)) ctx.countRecovery), ()) := by
    rw [round, Program.run_attempt_bind prepared]
    simp only
    rw [afterUnsent, Program.run_attempt_bind reacted]
    simp only
    rw [recover, dif_neg more]
    rfl
  rw [execute, Program.run_bind_ok attempted]
  rfl

/-- A request that was parked for a credential and is executed again. -/
theorem execute_bounded_parked :
    ∃ spent, Life unregistered empty freshContext.countRecovery spent ∧
      ∃ result next last,
        (unregistered.execute freshContext.countRecovery).run empty () =
            (.ok (result, next), last) ∧
          WithinBounds empty
            (spent.plus (unregistered.cost empty freshContext.countRecovery ())) result next := by
  have own : ¬Raises empty (.awaitingInput .credentialsRequired) := by
    rintro ⟨effect, state, raised⟩
    refine raised ?_
    cases effect with
    | sealingKey name =>
      rintro error eq rfl
      cases eq
    | send connection purpose request =>
      rintro error eq rfl
      cases eq
    | connect registration => nofun
    | _ => trivial
  have life := Life.parked (.fresh 1 _ .empty) (execute_empty freshContext (by decide)) own .empty
  exact ⟨_, life, life.execute_bounded ()⟩

/-- A key store may itself answer that there were too many attempts, and then nobody has tried. -/
theorem not_isExhausted_of_raised :
    ¬∀ attempts source next last, (unregistered.execute freshContext).run weary () =
        (.ok (.error (.tooManyAttempts attempts source), next), last) →
      IsExhausted attempts source := by
  have attempted : (unregistered.round freshContext).run weary () =
      (.ok (.finished (.error (.tooManyAttempts 7 none)) freshContext), ()) := rfl
  have run : (unregistered.execute freshContext).run weary () =
      (.ok (.error (.tooManyAttempts 7 none), freshContext), ()) := by
    rw [execute, Program.run_bind_ok attempted]
    rfl
  intro exhausted
  obtain ⟨attempts, -⟩ := exhausted 7 none freshContext () run
  exact absurd attempts (by decide)

end Session

end GatewaySession
