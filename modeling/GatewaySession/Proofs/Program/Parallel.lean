import GatewaySession.Proofs.Program.Watch
import Mathlib.Data.List.Forall2

/-!
# Programs that differ in what is secret

The secret part of a user's credential is a password, or the values that go with another grant. Two
programs are parallel if they do the same whatever the user's secrets are: where the cached
credential is read or the user is asked they go on in parallel with answers that differ in their
secret part, and everywhere else with equal answers. What they perform may differ too, but only in a
credential that is cached, and in the body of a request in which one is confided to the gateway.
Which requests these are is a parameter.

That programs are parallel says nothing about who answers. The run theorem adds the surroundings: a
user with a list of answers, what is cached, and a machine for everything else, which does not look
at the bodies of requests. So it may be any storage, key store, clock and source of chance, and any
gateway whose replies are scripted.

## Main definitions

* `UserCredential.Alike`, `Answer.Alike`, `Request.Alike`, `Effect.Alike` — what may differ
* `Program.Parallel` — programs that do the same, but for secrets
* `Scene`, `Scene.answer` — surroundings in which two runs can be compared

## Main results

* `Program.Parallel.bind`, `Program.Parallel.rescueSame` — the rules
* `Program.Parallel.run` — what two runs have in common
-/

namespace GatewaySession

/-! ### What may differ -/

/-- Whether two credentials differ in their secret part only. -/
inductive UserCredential.Alike : UserCredential → UserCredential → Prop where
  /-- The passwords may differ. -/
  | password (username secret secret' : String) :
      Alike (.password username secret) (.password username secret')
  /-- The values of the parameters may differ. -/
  | other (grantType : String) {params params' : Form.Params} :
      params.map Prod.fst = params'.map Prod.fst →
        Alike (.other grantType params) (.other grantType params')

theorem UserCredential.Alike.refl (credential : UserCredential) : credential.Alike credential := by
  cases credential with
  | password username secret => exact .password username secret secret
  | other grantType params => exact .other grantType rfl

/-- Whether two answers of a user differ in the secret part of a credential only. -/
inductive Answer.Alike : Answer → Answer → Prop where
  /-- Answers do not differ. -/
  | same (answer : Answer) : Alike answer answer
  /-- The credentials may differ. -/
  | credentials {credential credential' : UserCredential} :
      credential.Alike credential' → Alike (.credentials credential) (.credentials credential')

section

variable (confides : Purpose → Request → Prop)

/-- Whether two requests for a purpose differ in a confidential body only. -/
inductive Request.Alike (purpose : Purpose) : Request → Request → Prop where
  /-- Requests do not differ. -/
  | same (request : Request) : Alike purpose request request
  /-- The bodies may differ. -/
  | body {request : Request} (body : Option Bytes) :
      confides purpose request → Alike purpose request { request with body }

/-- Whether two effects differ only in a credential that is cached, or in a confidential body. -/
inductive Effect.Alike : Effect → Effect → Prop where
  /-- Effects do not differ. -/
  | same (effect : Effect) : Alike effect effect
  /-- The credentials may differ. -/
  | cacheUser {credential credential' : UserCredential} :
      credential.Alike credential' → Alike (.cacheUser (some credential))
        (.cacheUser (some credential'))
  /-- The requests may differ. -/
  | send (connection : Connection) {purpose : Purpose} {request request' : Request} :
      Request.Alike confides purpose request request' →
        Alike (.send connection purpose request) (.send connection purpose request')

end

/-- Whether an effect neither answers with what a user said nor caches a credential. -/
def Effect.IsImpersonal : Effect → Prop
  | .user | .cacheUser (some _) | .ask _ _ => False
  | _ => True

namespace Program

variable {α β : Type} {confides : Purpose → Request → Prop} {R : α → α → Prop} {S : β → β → Prop}

/-- Whether two results are related, or the same error. -/
inductive Agree (R : α → α → Prop) : Except Error α → Except Error α → Prop where
  /-- Both programs ended well. -/
  | ok {a a' : α} : R a a' → Agree R (.ok a) (.ok a')
  /-- Both failed, and alike. -/
  | error (error : Error) : Agree R (.error error) (.error error)

theorem Agree.refl (result : Except Error α) : Agree Eq result result := by
  cases result with
  | ok a => exact .ok rfl
  | error error => exact .error error

theorem Agree.eq {result result' : Except Error α} (h : Agree Eq result result') :
    result = result' := by
  obtain ⟨rfl⟩ | ⟨error⟩ := h
  · rfl
  · rfl

/-! ### Parallel programs -/

/-- Whether two programs do the same but for the secrets of the user, and end in results that are
related. -/
inductive Parallel (confides : Purpose → Request → Prop) (R : α → α → Prop) :
    Program α → Program α → Prop where
  /-- Both have ended. -/
  | done {result result' : Except Error α} :
      Agree R result result' → Parallel confides R (.done result) (.done result')
  /-- An effect that has nothing to do with the user's secrets. -/
  | own {effect : Effect} {next next' : effect.Reply → Program α} : effect.IsImpersonal →
      (∀ reply, Parallel confides R (next reply) (next' reply)) →
        Parallel confides R (.perform effect next) (.perform effect next')
  /-- The cached credential is read. -/
  | user {next next' : Option UserCredential → Program α} :
      (∀ credential credential', Option.Rel UserCredential.Alike credential credential' →
        Parallel confides R (next credential) (next' credential')) →
          Parallel confides R (.perform .user next) (.perform .user next')
  /-- A credential is cached. -/
  | cacheUser {credential credential' : UserCredential} {next next' : Unit → Program α} :
      credential.Alike credential' → Parallel confides R (next ()) (next' ()) →
        Parallel confides R (.perform (.cacheUser (some credential)) next)
          (.perform (.cacheUser (some credential')) next')
  /-- The user is asked. -/
  | ask {id : Nat} {need : Need} {next next' : Answer → Program α} :
      (∀ answer answer', answer.Alike answer' →
        Parallel confides R (next answer) (next' answer')) →
          Parallel confides R (.perform (.ask id need) next) (.perform (.ask id need) next')
  /-- A request is sent. -/
  | send {connection : Connection} {purpose : Purpose} {request request' : Request}
      {next next' : Except Error Response → Program α} :
      request.Alike confides purpose request' →
        (∀ reply, Parallel confides R (next reply) (next' reply)) →
          Parallel confides R (.perform (.send connection purpose request) next)
            (.perform (.send connection purpose request') next')

namespace Parallel

variable {program program' : Program α} {f f' : α → Program β}

theorem pure (a : α) : Parallel confides Eq (Pure.pure a) (Pure.pure a) := .done (.ok rfl)

theorem fail (error : Error) :
    Parallel confides R (Program.fail error) (Program.fail error) := .done (.error error)

/-- One program after another. -/
theorem bind (h : Parallel confides R program program')
    (hf : ∀ a a', R a a' → Parallel confides S (f a) (f' a')) :
    Parallel confides S (program >>= f) (program' >>= f') := by
  induction h with
  | done agree =>
    obtain ⟨related⟩ | ⟨error⟩ := agree
    · exact hf _ _ related
    · exact .done (.error error)
  | own impersonal _ ih => exact .own impersonal ih
  | user _ ih => exact .user ih
  | cacheUser alike _ ih => exact .cacheUser alike ih
  | ask _ ih => exact .ask ih
  | send alike _ ih => exact .send alike ih

/-- A program whose errors are caught. -/
theorem attempt (h : Parallel confides R program program') :
    Parallel confides (Agree R) program.attempt program'.attempt := by
  induction h with
  | done agree => exact .done (.ok agree)
  | own impersonal _ ih => exact .own impersonal ih
  | user _ ih => exact .user ih
  | cacheUser alike _ ih => exact .cacheUser alike ih
  | ask _ ih => exact .ask ih
  | send alike _ ih => exact .send alike ih

/-- One program after another with the same result. -/
theorem bindSame (h : Parallel confides Eq program program')
    (hf : ∀ a, Parallel confides S (f a) (f' a)) :
    Parallel confides S (program >>= f) (program' >>= f') :=
  h.bind fun a _ same => same ▸ hf a

/-- A program after one with the same result whose errors are caught. -/
theorem rescueSame {f f' : Except Error α → Program β} (h : Parallel confides Eq program program')
    (hf : ∀ result, Parallel confides S (f result) (f' result)) :
    Parallel confides S (program.attempt >>= f) (program'.attempt >>= f') :=
  h.attempt.bind fun result _ agree => agree.eq ▸ hf result

end Parallel

end Program

/-! ### Two runs -/

/-- What surrounds a program: a user, what is cached, and the rest. -/
structure Scene (σ : Type) where
  /-- What is stored, the keys, the clock, chance, and what the gateway has still to say. -/
  rest : σ
  /-- The cached credential of the user. -/
  user : Option UserCredential
  /-- The cached connection. -/
  connection : Option Connection
  /-- What the user will answer, in order. When nothing is left he defers. -/
  answers : List Answer

namespace Scene

variable {σ : Type}

/-- The scene after an answer of the machine. -/
def after {ρ : Type} (scene : Scene σ) (outcome : ρ × σ) : ρ × Scene σ :=
  (outcome.1, { scene with rest := outcome.2 })

/-- Answers an effect. A machine does what neither the user nor the cache does, and is not shown the
bodies of requests. -/
def answer (machine : (effect : Effect) → σ → effect.Reply × σ) :
    (effect : Effect) → Scene σ → effect.Reply × Scene σ
  | .user, scene => (scene.user, scene)
  | .cacheUser user, scene => ((), { scene with user })
  | .connection, scene => (scene.connection, scene)
  | .cacheConnection connection, scene => ((), { scene with connection })
  | .ask _ _, scene => match scene.answers with
    | [] => (.deferred, scene)
    | answer :: answers => (answer, { scene with answers })
  | .send connection purpose request, scene =>
    scene.after (machine (.send connection purpose { request with body := none }) scene.rest)
  | effect, scene => scene.after (machine effect scene.rest)

/-- Whether two scenes differ only in the secret part of credentials, cached or still to come. -/
structure Alike (first second : Scene σ) : Prop where
  /-- The rest is the same. -/
  rest : first.rest = second.rest
  /-- The cached credential is the same but for its secret part. -/
  user : Option.Rel UserCredential.Alike first.user second.user
  /-- The cached connection is the same. -/
  connection : first.connection = second.connection
  /-- The answers to come are the same but for secrets. -/
  answers : List.Forall₂ Answer.Alike first.answers second.answers

namespace Alike

variable {machine : (effect : Effect) → σ → effect.Reply × σ} {first second : Scene σ}

theorem caching (alike : first.Alike second) {user user' : Option UserCredential}
    (h : Option.Rel UserCredential.Alike user user') :
    Alike { first with user } { second with user := user' } :=
  ⟨alike.rest, h, alike.connection, alike.answers⟩

/-- An effect that has nothing to do with the user's secrets has the same answer. -/
theorem own (alike : first.Alike second) {effect : Effect} (impersonal : effect.IsImpersonal) :
    ∃ reply first' second', answer machine effect first = (reply, first') ∧
      answer machine effect second = (reply, second') ∧ first'.Alike second' := by
  obtain ⟨rest, user, connection, answers⟩ := first
  obtain ⟨rest', user', connection', answers'⟩ := second
  obtain ⟨rfl, cached, rfl, said⟩ := alike
  cases effect with
  | user => exact impersonal.elim
  | ask id need => exact impersonal.elim
  | cacheUser credential =>
    cases credential with
    | none => exact ⟨_, _, _, rfl, rfl, rfl, .none, rfl, said⟩
    | some credential => exact impersonal.elim
  | _ => exact ⟨_, _, _, rfl, rfl, rfl, cached, rfl, said⟩

/-- A question has answers that differ in secrets only. -/
theorem ask (alike : first.Alike second) (id : Nat) (need : Need) :
    ∃ said said' first' second', answer machine (.ask id need) first = (said, first') ∧
      answer machine (.ask id need) second = (said', second') ∧ said.Alike said' ∧
      first'.Alike second' := by
  obtain ⟨rest, user, connection, answers⟩ := first
  obtain ⟨rest', user', connection', answers'⟩ := second
  obtain ⟨same, cached, connected, _ | ⟨here, later⟩⟩ := alike
  · exact ⟨_, _, _, _, rfl, rfl, .same _, same, cached, connected, .nil⟩
  · exact ⟨_, _, _, _, rfl, rfl, here, same, cached, connected, later⟩

/-- A request that differs in its body only has the same reply. -/
theorem send (alike : first.Alike second) (connection : Connection) {purpose : Purpose}
    {request request' : Request} {confides : Purpose → Request → Prop}
    (h : request.Alike confides purpose request') :
    ∃ reply first' second',
      answer machine (.send connection purpose request) first = (reply, first') ∧
      answer machine (.send connection purpose request') second = (reply, second') ∧
      first'.Alike second' := by
  have impersonal : (Effect.send connection purpose request).IsImpersonal := trivial
  obtain _ | _ := h
  · exact alike.own impersonal
  · exact alike.own impersonal

end Alike

end Scene

open Scene (answer)

/-- What two runs have in common: the results, what they perform but for what may differ, and the
scenes they leave but for secrets. -/
structure Program.Matches {α σ : Type} (confides : Purpose → Request → Prop) (R : α → α → Prop)
    (machine : (effect : Effect) → σ → effect.Reply × σ) (program program' : Program α)
    (first second : Scene σ) : Prop where
  /-- The results are related. -/
  result : Agree R (program.run (answer machine) first).1 (program'.run (answer machine) second).1
  /-- The scenes that are left differ in secrets only. -/
  last : (program.run (answer machine) first).2.Alike (program'.run (answer machine) second).2
  /-- The effects differ where they may only. -/
  effects : List.Forall₂ (Effect.Alike confides) (program.effects (answer machine) first)
    (program'.effects (answer machine) second)

namespace Program

variable {α σ : Type} {confides : Purpose → Request → Prop} {R : α → α → Prop}
  {machine : (effect : Effect) → σ → effect.Reply × σ} {first second : Scene σ}

/-- An effect first, and what follows. -/
theorem Matches.perform {effect effect' : Effect} {reply : effect.Reply} {reply' : effect'.Reply}
    {next : effect.Reply → Program α} {next' : effect'.Reply → Program α}
    {first' second' : Scene σ} (alike : effect.Alike confides effect')
    (here : answer machine effect first = (reply, first'))
    (there : answer machine effect' second = (reply', second'))
    (h : Matches confides R machine (next reply) (next' reply') first' second') :
    Matches confides R machine (.perform effect next) (.perform effect' next') first second := by
  constructor
  · simp only [run, here, there]
    exact h.result
  · simp only [run, here, there]
    exact h.last
  · simp only [Program.effects, here, there]
    exact .cons alike h.effects

variable (machine) in
/-- **Two runs** of parallel programs, in scenes that differ in secrets only. -/
theorem Parallel.run {program program' : Program α} (h : Parallel confides R program program')
    (alike : first.Alike second) : Matches confides R machine program program' first second := by
  induction h generalizing first second with
  | done agree => exact ⟨agree, alike, .nil⟩
  | own impersonal _ ih =>
    obtain ⟨reply, first', second', here, there, left⟩ := alike.own impersonal
    exact .perform (.same _) here there (ih reply left)
  | user _ ih => exact .perform (.same _) rfl rfl (ih _ _ alike.user alike)
  | cacheUser credentials _ ih =>
    exact .perform (.cacheUser credentials) rfl rfl (ih (alike.caching (.some credentials)))
  | ask _ ih =>
    obtain ⟨said, said', first', second', here, there, answers, left⟩ := alike.ask _ _
    exact .perform (.same _) here there (ih said said' answers left)
  | send requests _ ih =>
    obtain ⟨reply, first', second', here, there, left⟩ := alike.send _ requests
    exact .perform (.send _ requests) here there (ih reply left)

end Program

end GatewaySession
