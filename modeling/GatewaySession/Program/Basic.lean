import GatewaySession.Program.Effect

/-!
# Programs

A program is what a session does, as a tree: it has ended with a result or an error, or it performs
an effect and goes on with the answer. The tree says nothing about who answers. `Program.run` walks
it with a handler, which answers each effect from a state; a scheduler may instead take several
programs one effect at a time.

Programs are a monad that stops at the first error, and errors can be caught.

## Main definitions

* `Program` — the trees
* `Program.attempt`, `Program.ofExcept` — errors as values, and back
* `Program.run` — the result of a program and the last state, under a handler
* `Program.guarded` — a program during which nobody else writes to the store
-/

namespace GatewaySession

/-- What a session does. -/
inductive Program (α : Type) : Type where
  /-- The program has ended. -/
  | done (result : Except Error α)
  /-- The program performs an effect and goes on with the answer. -/
  | perform (effect : Effect) (next : effect.Reply → Program α)

namespace Program

variable {α β : Type}

/-! ### Sequencing -/

/-- Goes on with the result of a program; an error ends both. -/
def bind : Program α → (α → Program β) → Program β
  | done (.ok a), f => f a
  | done (.error e), _ => done (.error e)
  | perform effect next, f => perform effect fun reply => (next reply).bind f

instance : Monad Program where
  pure a := done (.ok a)
  bind := bind

@[simp] theorem done_bind (result : Except Error α) (f : α → Program β) :
    done result >>= f = match result with
      | .ok a => f a
      | .error e => done (.error e) := by
  cases result <;> rfl

@[simp] theorem perform_bind (effect : Effect) (next : effect.Reply → Program α)
    (f : α → Program β) :
    perform effect next >>= f = perform effect fun reply => next reply >>= f := rfl

instance : LawfulMonad Program := LawfulMonad.mk' Program
  (fun program => by
    induction program with
    | done result => cases result <;> rfl
    | perform effect next ih => exact congrArg (perform effect) (funext ih))
  (fun _ _ => rfl)
  (fun program f g => by
    induction program with
    | done result => cases result <;> rfl
    | perform effect next ih => exact congrArg (perform effect) (funext ih))

/-- Ends with an error. -/
def fail (error : Error) : Program α := done (.error error)

/-- Ends with a result that is already there. -/
def ofExcept (result : Except Error α) : Program α := done result

/-- The result of a program, error or not. -/
def attempt : Program α → Program (Except Error α)
  | done result => done (.ok result)
  | perform effect next => perform effect fun reply => (next reply).attempt

/-- Performs an effect that cannot fail. -/
def ask (effect : Effect) : Program effect.Reply := perform effect fun reply => done (.ok reply)

/-! ### Effects by name -/

/-- The stored value of a key. -/
def read (key : String) : Program (Option Bytes) := perform (.read key) done

/-- Stores a value under a key. -/
def write (key : String) (value : Bytes) : Program Unit := perform (.write key value) done

/-- Removes the value of a key. -/
def remove (key : String) : Program Unit := perform (.remove key) done

/-- The stored keys that begin with a text. -/
def list (start : String) : Program (List String) := perform (.list start) done

/-- The sealing key of a name. -/
def sealingKey (name : String) : Program Aes256.Key := perform (.sealingKey name) done

/-- The time. -/
def time : Program Timestamp := ask .time

/-- The time in whole seconds. -/
def seconds : Program Int64 := do return Int64.ofInt (← time).seconds

/-- The cached credential of the user. -/
def user : Program (Option UserCredential) := ask .user

/-- Caches a credential of the user. -/
def cacheUser (credential : UserCredential) : Program Unit := ask (.cacheUser (some credential))

/-- Drops the cached credential of the user. -/
def dropUser : Program Unit := ask (.cacheUser none)

/-- Drops the cached connection; the next request makes a new one. -/
def dropConnection : Program Unit := ask (.cacheConnection none)

/-- Sends a request over a connection. -/
def send (connection : Connection) (purpose : Purpose) (request : Request) : Program Response :=
  perform (.send connection purpose request) done

/-- Runs a program while nobody else writes to the store, and lets others in again when it ends,
with an error or without. -/
def guarded (program : Program α) : Program α := do
  ask .hold
  let result ← program.attempt
  ask .release
  ofExcept result

/-! ### Running -/

/-- The result of a program and the state it leaves, each effect answered by a handler. -/
def run {σ : Type} (handle : (effect : Effect) → σ → effect.Reply × σ) :
    Program α → σ → Except Error α × σ
  | done result, state => (result, state)
  | perform effect next, state =>
    let (reply, state) := handle effect state
    (next reply).run handle state

section Run

variable {σ : Type} (handle : (effect : Effect) → σ → effect.Reply × σ)

@[simp] theorem run_pure (a : α) (state : σ) :
    (pure a : Program α).run handle state = (.ok a, state) := rfl

@[simp] theorem run_fail (error : Error) (state : σ) :
    (fail error : Program α).run handle state = (.error error, state) := rfl

/-- Running two programs one after the other: the second starts where the first ended, and not at
all after an error. -/
theorem run_bind (program : Program α) (f : α → Program β) (state : σ) :
    (program >>= f).run handle state = match program.run handle state with
      | (.ok a, state) => (f a).run handle state
      | (.error e, state) => (.error e, state) := by
  induction program generalizing state with
  | done result => cases result <;> rfl
  | perform effect next ih => exact ih _ _

/-- Catching errors changes nothing but the result. -/
theorem run_attempt (program : Program α) (state : σ) :
    program.attempt.run handle state =
      (.ok (program.run handle state).1, (program.run handle state).2) := by
  induction program generalizing state with
  | done result => rfl
  | perform effect next ih => exact ih _ _

end Run

end Program

end GatewaySession
