import GatewaySession.Program.Basic

/-!
# Watching programs

A watch looks at a program while it runs. It keeps a mark, says which effects are permitted at a
mark and what may be taken for granted about their answers, and changes the mark with every answer.
Whether a program meets a watch is a recursion on its tree, so one rule for each way of building a
program is enough, and the rules ask for nothing about who answers.

The run theorem says what this is good for: if the surroundings give what the watch takes for
granted, whatever relation of marks and states is kept by every permitted effect is kept by the
whole run. It holds of programs that run alone, and a scheduler that takes programs one effect at a
time can use the definition directly.

## Main definitions

* `Watch` — marks, permitted effects, and what is taken for granted about answers
* `Program.Meets` — a program that performs permitted effects only and ends as it should
* `Program.effects` — the effects of a run, in order

## Main results

* `Program.Meets.bind`, `Program.Meets.rescue` — the rules
* `Program.Meets.transfer` — from one watch to another
* `Program.Meets.run` — what a run keeps
* `Program.effects_bind`, `Program.Meets.effects` — the effects of a run
-/

namespace GatewaySession

/-- What is watched while a program runs, with marks of a type. -/
structure Watch (γ : Type) where
  /-- The effects that may be performed at a mark. -/
  permits : γ → Effect → Prop
  /-- What is taken for granted about an answer. -/
  grants : (effect : Effect) → effect.Reply → Prop
  /-- The mark after an answer. -/
  next : γ → (effect : Effect) → effect.Reply → γ

namespace Program

variable {α β γ δ : Type}

/-- Whether a program performs permitted effects only, and ends in marks and results that satisfy a
condition. -/
def Meets (watch : Watch γ) (post : γ → Except Error α → Prop) : γ → Program α → Prop
  | mark, done result => post mark result
  | mark, perform effect next => watch.permits mark effect ∧
      ∀ reply, watch.grants effect reply →
        Meets watch post (watch.next mark effect reply) (next reply)

namespace Meets

variable {watch : Watch γ} {mark : γ}

/-! ### Rules -/

theorem mono {post post' : γ → Except Error α → Prop} {program : Program α}
    (h : Meets watch post mark program) (weaker : ∀ mark result, post mark result →
      post' mark result) : Meets watch post' mark program := by
  induction program generalizing mark with
  | done result => exact weaker mark result h
  | perform effect next ih => exact ⟨h.1, fun reply granted => ih reply (h.2 reply granted)⟩

/-- One program after another. -/
theorem bind {post : γ → Except Error β → Prop} {program : Program α} {f : α → Program β}
    (h : Meets watch (fun mark result => match result with
      | .ok a => Meets watch post mark (f a)
      | .error error => post mark (.error error)) mark program) :
    Meets watch post mark (program >>= f) := by
  induction program generalizing mark with
  | done result => cases result with
    | ok a => exact h
    | error error => exact h
  | perform effect next ih => exact ⟨h.1, fun reply granted => ih reply (h.2 reply granted)⟩

/-- A program whose errors are caught. -/
theorem attempt {post : γ → Except Error (Except Error α) → Prop} {program : Program α}
    (h : Meets watch (fun mark result => post mark (.ok result)) mark program) :
    Meets watch post mark program.attempt := by
  induction program generalizing mark with
  | done result => exact h
  | perform effect next ih => exact ⟨h.1, fun reply granted => ih reply (h.2 reply granted)⟩

/-- A program after one whose errors are caught. -/
theorem rescue {post : γ → Except Error β → Prop} {program : Program α}
    {f : Except Error α → Program β}
    (h : Meets watch (fun mark result => Meets watch post mark (f result)) mark program) :
    Meets watch post mark (program.attempt >>= f) :=
  bind (attempt h)

theorem ask {post : γ → Except Error α → Prop} {effect : Effect} {f : effect.Reply → Program α}
    (permitted : watch.permits mark effect)
    (h : ∀ reply, watch.grants effect reply →
      Meets watch post (watch.next mark effect reply) (f reply)) :
    Meets watch post mark (Program.ask effect >>= f) :=
  ⟨permitted, h⟩

/-- The time in seconds, and a program after it. -/
theorem seconds {post : γ → Except Error β → Prop} {f : Int64 → Program β}
    (permitted : watch.permits mark .time)
    (h : ∀ now, watch.grants .time now →
      Meets watch post (watch.next mark .time now) (f (Int64.ofInt now.seconds))) :
    Meets watch post mark (Program.seconds >>= f) :=
  bind (ask permitted h)

/-- A program met by one watch is met by another that permits what the first permits, under a
relation of marks that every permitted effect keeps. -/
theorem transfer {other : Watch δ} (relation : γ → δ → Prop)
    (permits : ∀ {mark mark' effect}, relation mark mark' → watch.permits mark effect →
      other.permits mark' effect)
    (grants : ∀ {mark effect reply}, watch.permits mark effect → other.grants effect reply →
      watch.grants effect reply)
    (next : ∀ {mark mark' effect} reply, relation mark mark' → watch.permits mark effect →
      relation (watch.next mark effect reply) (other.next mark' effect reply))
    {post : γ → Except Error α → Prop} {program : Program α} {mark' : δ}
    (related : relation mark mark') (h : Meets watch post mark program) :
    Meets other (fun mark' result => ∃ mark, relation mark mark' ∧ post mark result) mark'
      program := by
  induction program generalizing mark mark' with
  | done result => exact ⟨mark, related, h⟩
  | perform effect step ih =>
    exact ⟨permits related h.1, fun reply granted =>
      ih reply (next reply related h.1) (h.2 reply (grants h.1 granted))⟩

/-! ### Runs -/

variable {σ : Type} {handle : (effect : Effect) → σ → effect.Reply × σ}

/-- **A run keeps** what every permitted effect keeps. -/
theorem run (relation : γ → σ → Prop)
    (sound : ∀ {mark state effect}, relation mark state → watch.permits mark effect →
      watch.grants effect (handle effect state).1 ∧
        relation (watch.next mark effect (handle effect state).1) (handle effect state).2)
    {post : γ → Except Error α → Prop} {program : Program α} (state : σ)
    (related : relation mark state) (h : Meets watch post mark program) :
    ∃ last, relation last (program.run handle state).2 ∧
      post last (program.run handle state).1 := by
  induction program generalizing mark state with
  | done result => exact ⟨mark, related, h⟩
  | perform effect next ih =>
    obtain ⟨granted, related'⟩ := sound related h.1
    exact ih _ _ related' (h.2 _ granted)

end Meets

/-! ### The effects of a run -/

section Effects

variable {σ : Type} (handle : (effect : Effect) → σ → effect.Reply × σ)

/-- The effects that a program performs, in order. -/
def effects : Program α → σ → List Effect
  | done _, _ => []
  | perform effect next, state =>
    effect :: (next (handle effect state).1).effects (handle effect state).2

@[simp] theorem effects_pure (a : α) (state : σ) :
    (pure a : Program α).effects handle state = [] := rfl

/-- The effects of two programs one after the other. -/
theorem effects_bind (program : Program α) (f : α → Program β) (state : σ) :
    (program >>= f).effects handle state = program.effects handle state ++
      match program.run handle state with
      | (.ok a, state) => (f a).effects handle state
      | (.error _, _) => [] := by
  induction program generalizing state with
  | done result => cases result <;> rfl
  | perform effect next ih => exact congrArg (effect :: ·) (ih _ _)

/-- Catching errors changes nothing but the result. -/
theorem effects_attempt (program : Program α) (state : σ) :
    program.attempt.effects handle state = program.effects handle state := by
  induction program generalizing state with
  | done result => rfl
  | perform effect next ih => exact congrArg (effect :: ·) (ih _ _)

variable {handle}

theorem effects_bind_ok {program : Program α} {f : α → Program β} {state last : σ} {a : α}
    (h : program.run handle state = (.ok a, last)) :
    (program >>= f).effects handle state =
      program.effects handle state ++ (f a).effects handle last := by
  rw [effects_bind, h]

theorem effects_bind_error {program : Program α} {f : α → Program β} {state last : σ}
    {error : Error} (h : program.run handle state = (.error error, last)) :
    (program >>= f).effects handle state = program.effects handle state := by
  rw [effects_bind, h]
  exact List.append_nil _

theorem effects_attempt_bind {program : Program α} {f : Except Error α → Program β}
    {state last : σ} {result : Except Error α} (h : program.run handle state = (result, last)) :
    (program.attempt >>= f).effects handle state =
      program.effects handle state ++ (f result).effects handle last := by
  rw [effects_bind, effects_attempt, run_attempt, h]

/-- What the first of two programs does is done by both. -/
theorem mem_effects_bind {program : Program α} {f : α → Program β} {state : σ} {effect : Effect}
    (h : effect ∈ program.effects handle state) :
    effect ∈ (program >>= f).effects handle state := by
  rw [effects_bind]
  exact List.mem_append_left _ h

/-- What the second does is done if the first does not fail. -/
theorem mem_effects_bind_ok {program : Program α} {f : α → Program β} {state last : σ} {a : α}
    {effect : Effect} (run : program.run handle state = (.ok a, last))
    (h : effect ∈ (f a).effects handle last) : effect ∈ (program >>= f).effects handle state := by
  rw [effects_bind_ok run]
  exact List.mem_append_right _ h

/-- The effects of a run are permitted, if what is permitted does not depend on the mark. -/
theorem Meets.effects {watch : Watch Unit} {post : Unit → Except Error α → Prop}
    (granted : ∀ {effect state}, watch.permits () effect →
      watch.grants effect (handle effect state).1)
    {program : Program α} (h : Meets watch post () program) (state : σ) :
    ∀ effect ∈ program.effects handle state, watch.permits () effect := by
  induction program generalizing state with
  | done result => exact fun _ mem => absurd mem List.not_mem_nil
  | perform effect next ih =>
    exact List.forall_mem_cons.2 ⟨h.1, ih _ (h.2 _ (granted h.1)) _⟩

end Effects

end Program

end GatewaySession
