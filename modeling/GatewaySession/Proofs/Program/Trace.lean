import GatewaySession.Proofs.Program.Watch

/-!
# Runs moment by moment

What a run does can be written down: each effect with its answer, and the states before and after
it. A watch looks at the answers only, so its mark at any moment is known from what is written down
before, and what it permits there is what the run has done.

A view of the states is something that can be seen of them, such as what is stored. Where moments
follow one another as far as can be seen, whatever came to be seen came at one of them.

## Main definitions

* `Event`, `Moment` — an effect with its answer, and with the states around it
* `Effect.holds` — whether the store is held
* `Program.trace` — the moments of a run
* `Watch.markAfter` — the mark after events
* `Program.Ends` — the paths through a program
* `Linked` — moments that follow one another in a view

## Main results

* `Program.Meets.trace` — at every moment of a run, the watch permits what is done
* `Program.Meets.ends` — the same along every path, whoever answers
* `Linked.exists_turn` — what is seen at last but not at first came at one of the moments
-/

namespace GatewaySession

/-- An effect with its answer. -/
structure Event where
  /-- The effect. -/
  effect : Effect
  /-- Its answer. -/
  reply : effect.Reply

/-- An effect with its answer, and the states around it. -/
structure Moment (σ : Type) extends Event where
  /-- The state before. -/
  before : σ
  /-- The state after. -/
  after : σ

/-- The moment at which an effect is answered. -/
def Moment.of {σ : Type} (handle : (effect : Effect) → σ → effect.Reply × σ) (effect : Effect)
    (state : σ) : Moment σ :=
  ⟨⟨effect, (handle effect state).1⟩, state, (handle effect state).2⟩

/-- Whether the store is held after an effect. -/
def Effect.holds (held : Bool) : Effect → Bool
  | .hold => true
  | .release => false
  | _ => held

theorem Effect.holds_of_ne {effect : Effect} (noHold : effect ≠ .hold)
    (noRelease : effect ≠ .release) (held : Bool) : effect.holds held = held := by
  cases effect with
  | hold => exact absurd rfl noHold
  | release => exact absurd rfl noRelease
  | _ => rfl

variable {α β γ σ : Type}

/-! ### Moments of a run -/

namespace Program

/-- The moments of a run, in order. -/
def trace (handle : (effect : Effect) → σ → effect.Reply × σ) :
    Program α → σ → List (Moment σ)
  | done _, _ => []
  | perform effect next, state =>
    ⟨⟨effect, (handle effect state).1⟩, state, (handle effect state).2⟩ ::
      (next (handle effect state).1).trace handle (handle effect state).2

variable {handle : (effect : Effect) → σ → effect.Reply × σ}

/-- The effects of a run are those of its moments. -/
theorem map_effect_trace (program : Program α) (state : σ) :
    (program.trace handle state).map (·.effect) = program.effects handle state := by
  induction program generalizing state with
  | done result => rfl
  | perform effect next ih => exact congrArg (effect :: ·) (ih _ _)

theorem trace_write (name : String) (value : Bytes) (state : σ) :
    (write name value).trace handle state = [.of handle (.write name value) state] := rfl

/-- The moments of two programs one after the other. -/
theorem trace_bind_ok {program : Program α} {f : α → Program β} {state last : σ} {a : α}
    (h : program.run handle state = (.ok a, last)) :
    (program >>= f).trace handle state =
      program.trace handle state ++ (f a).trace handle last := by
  induction program generalizing state with
  | done result => cases h; rfl
  | perform effect next ih => exact congrArg (_ :: ·) (ih _ h)

/-- After an error, nothing more is done. -/
theorem trace_bind_error {program : Program α} {f : α → Program β} {state last : σ} {error : Error}
    (h : program.run handle state = (.error error, last)) :
    (program >>= f).trace handle state = program.trace handle state := by
  induction program generalizing state with
  | done result => cases h; rfl
  | perform effect next ih => exact congrArg (_ :: ·) (ih _ h)

/-- What the first of two programs does is done first. -/
theorem exists_trace_bind (program : Program α) (f : α → Program β) (state : σ) :
    ∃ late, (program >>= f).trace handle state = program.trace handle state ++ late := by
  cases run : program.run handle state with
  | mk result last =>
  cases result with
  | error error => exact ⟨[], by rw [trace_bind_error run, List.append_nil]⟩
  | ok a => exact ⟨_, trace_bind_ok run⟩

/-- Catching errors changes nothing but the result. -/
theorem trace_attempt (program : Program α) (state : σ) :
    program.attempt.trace handle state = program.trace handle state := by
  induction program generalizing state with
  | done result => rfl
  | perform effect next ih => exact congrArg (_ :: ·) (ih _ _)

/-- The same if errors of the first are caught. -/
theorem trace_attempt_bind {program : Program α} {f : Except Error α → Program β} {state last : σ}
    {result : Except Error α} (h : program.run handle state = (result, last)) :
    (program.attempt >>= f).trace handle state =
      program.trace handle state ++ (f result).trace handle last := by
  induction program generalizing state with
  | done result' => cases h; rfl
  | perform effect next ih => exact congrArg (_ :: ·) (ih _ h)

/-- A guarded program holds the store first and releases it last. -/
theorem trace_guarded (program : Program α) (state : σ) :
    program.guarded.trace handle state = .of handle .hold state ::
      (program.trace handle (handle .hold state).2 ++
        [.of handle .release (program.run handle (handle .hold state).2).2]) := by
  cases run : program.run handle (handle .hold state).2 with
  | mk result last =>
  have inside : (program.attempt >>= fun result => ask .release >>= fun _ => ofExcept result).trace
      handle (handle .hold state).2 = program.trace handle (handle .hold state).2 ++
        [.of handle .release last] := trace_attempt_bind run
  exact congrArg (_ :: ·) inside

/-- Every moment of a run is one answer. -/
theorem answered_of_mem_trace {program : Program α} {state : σ} {moment : Moment σ}
    (mem : moment ∈ program.trace handle state) :
    handle moment.effect moment.before = (moment.reply, moment.after) := by
  induction program generalizing state with
  | done result => exact absurd mem List.not_mem_nil
  | perform effect next ih =>
    obtain rfl | later := List.mem_cons.1 mem
    · rfl
    · exact ih _ later

/-- What the surroundings keep from moment to moment holds before every moment of a run. -/
theorem before_of_mem_trace {holds : σ → Prop}
    (kept : ∀ effect state, holds state → holds (handle effect state).2)
    {program : Program α} {state : σ} (start : holds state) {moment : Moment σ}
    (mem : moment ∈ program.trace handle state) : holds moment.before := by
  induction program generalizing state with
  | done result => exact absurd mem List.not_mem_nil
  | perform effect next ih =>
    obtain rfl | later := List.mem_cons.1 mem
    · exact start
    · exact ih _ (kept _ _ start) later

end Program

/-! ### Watches -/

/-- The mark after events. -/
def Watch.markAfter (watch : Watch γ) (mark : γ) (events : List Event) : γ :=
  events.foldl (fun mark event => watch.next mark event.effect event.reply) mark

theorem Watch.markAfter_append (watch : Watch γ) (mark : γ) (events : List Event) (event : Event) :
    watch.markAfter mark (events ++ [event]) =
      watch.next (watch.markAfter mark events) event.effect event.reply :=
  List.foldl_append

/-- **At every moment of a run**, the watch permits what is done, at the mark that what came before
has left. -/
theorem Program.Meets.trace {handle : (effect : Effect) → σ → effect.Reply × σ} {watch : Watch γ}
    {holds : σ → Prop} (kept : ∀ effect state, holds state → holds (handle effect state).2)
    (granted : ∀ effect state, holds state → watch.grants effect (handle effect state).1)
    {post : γ → Except Error α → Prop} {program : Program α} {mark : γ} {state : σ}
    (start : holds state) (h : program.Meets watch post mark) {early late : List (Moment σ)}
    {moment : Moment σ} (split : program.trace handle state = early ++ moment :: late) :
    watch.permits (watch.markAfter mark (early.map (·.toEvent))) moment.effect := by
  induction program generalizing mark state early with
  | done result => cases early <;> cases split
  | perform effect next ih =>
    cases early with
    | nil =>
      obtain ⟨rfl, -⟩ := List.cons.inj split
      exact h.1
    | cons first early =>
      obtain ⟨rfl, rest⟩ := List.cons.inj split
      exact ih _ (kept _ _ start) (h.2 _ (granted _ _ start)) rest

/-! ### Paths -/

namespace Program

/-- Whether a program ends with a result after events, whoever answered. -/
def Ends : Program α → List Event → Except Error α → Prop
  | done result, events, last => events = [] ∧ result = last
  | perform effect next, events, last =>
    ∃ reply rest, events = ⟨effect, reply⟩ :: rest ∧ (next reply).Ends rest last

variable {events : List Event}

/-- Two programs one after the other: the first fails, or the second begins where the first has
ended. -/
theorem Ends.of_bind {program : Program α} {f : α → Program β} {last : Except Error β}
    (h : (program >>= f).Ends events last) :
    (∃ error, program.Ends events (.error error) ∧ last = .error error) ∨
      ∃ a early late, events = early ++ late ∧ program.Ends early (.ok a) ∧
        (f a).Ends late last := by
  induction program generalizing events with
  | done result =>
    cases result with
    | error error =>
      obtain ⟨none, rfl⟩ := h
      exact .inl ⟨error, ⟨none, rfl⟩, rfl⟩
    | ok a => exact .inr ⟨a, [], events, rfl, ⟨rfl, rfl⟩, h⟩
  | perform effect next ih =>
    obtain ⟨reply, rest, rfl, h⟩ := h
    obtain ⟨error, failed, same⟩ | ⟨a, early, late, rfl, first, second⟩ := ih reply h
    · exact .inl ⟨error, ⟨reply, rest, rfl, failed⟩, same⟩
    · exact .inr ⟨a, _ :: early, late, rfl, ⟨reply, early, rfl, first⟩, second⟩

theorem Ends.of_attempt {program : Program α} {last : Except Error (Except Error α)}
    (h : program.attempt.Ends events last) :
    ∃ result, last = .ok result ∧ program.Ends events result := by
  induction program generalizing events with
  | done result =>
    obtain ⟨none, rfl⟩ := h
    exact ⟨result, rfl, none, rfl⟩
  | perform effect next ih =>
    obtain ⟨reply, rest, rfl, h⟩ := h
    obtain ⟨result, same, within⟩ := ih reply h
    exact ⟨result, same, reply, rest, rfl, within⟩

/-- A program after one whose errors are caught begins where that one has ended. -/
theorem Ends.of_rescue {program : Program α} {f : Except Error α → Program β}
    {last : Except Error β} (h : (program.attempt >>= f).Ends events last) :
    ∃ result early late, events = early ++ late ∧ program.Ends early result ∧
      (f result).Ends late last := by
  obtain ⟨_, failed, -⟩ | ⟨result, early, late, rfl, caught, h⟩ := Ends.of_bind h
  · obtain ⟨_, same, -⟩ := Ends.of_attempt failed
    cases same
  · obtain ⟨_, same, within⟩ := Ends.of_attempt caught
    cases same
    exact ⟨_, early, late, rfl, within, h⟩

/-- Catching errors changes nothing but the result. -/
theorem Ends.attempt {program : Program α} {result : Except Error α}
    (h : program.Ends events result) : program.attempt.Ends events (.ok result) := by
  induction program generalizing events with
  | done last =>
    obtain ⟨none, rfl⟩ := h
    exact ⟨none, rfl⟩
  | perform effect next ih =>
    obtain ⟨reply, rest, rfl, h⟩ := h
    exact ⟨reply, rest, rfl, ih reply h⟩

/-- A run is a path. -/
theorem ends_trace (handle : (effect : Effect) → σ → effect.Reply × σ) (program : Program α)
    (state : σ) :
    program.Ends ((program.trace handle state).map (·.toEvent)) (program.run handle state).1 := by
  induction program generalizing state with
  | done result => exact ⟨rfl, rfl⟩
  | perform effect next ih => exact ⟨_, _, rfl, ih _ _⟩

/-- Where the first of two programs has ended, the second begins. -/
theorem Ends.bind_iff {program : Program α} {f : α → Program β} {early late : List Event} {a : α}
    {last : Except Error β} (h : program.Ends early (.ok a)) :
    (program >>= f).Ends (early ++ late) last ↔ (f a).Ends late last := by
  induction program generalizing early with
  | done result =>
    obtain ⟨rfl, rfl⟩ := h
    exact Iff.rfl
  | perform effect next ih =>
    obtain ⟨reply, rest, rfl, h⟩ := h
    constructor
    · rintro ⟨_, _, same, within⟩
      obtain ⟨here, rfl⟩ := List.cons.inj same
      cases here
      exact (ih reply h).1 within
    · exact fun within => ⟨reply, rest ++ late, rfl, (ih reply h).2 within⟩

/-- A program that holds the store first and releases it last. -/
theorem Ends.of_guarded {program : Program α} {last : Except Error α}
    (h : program.guarded.Ends events last) :
    ∃ within, events = ⟨.hold, ()⟩ :: (within ++ [⟨.release, ()⟩]) ∧ program.Ends within last := by
  obtain ⟨_, rest, rfl, h⟩ := h
  have h : (program.attempt >>= fun result => ask .release >>= fun _ => ofExcept result).Ends rest
      last := h
  obtain ⟨result, within, late, rfl, ends, h⟩ := Ends.of_rescue h
  obtain ⟨_, _, rfl, rfl, rfl⟩ := h
  exact ⟨within, rfl, ends⟩

/-- **Along every path** on which what a watch takes for granted is answered, it permits what is
done. -/
theorem Meets.ends {watch : Watch γ} {post : γ → Except Error α → Prop} {program : Program α}
    {mark : γ} {result : Except Error α} (h : program.Meets watch post mark)
    (granted : ∀ event ∈ events, watch.grants event.effect event.reply)
    (ends : program.Ends events result) :
    post (watch.markAfter mark events) result ∧
      ∀ early event late, events = early ++ event :: late →
        watch.permits (watch.markAfter mark early) event.effect := by
  induction program generalizing mark events with
  | done last =>
    obtain ⟨rfl, rfl⟩ := ends
    exact ⟨h, fun early event late split => absurd split.symm (by simp)⟩
  | perform effect next ih =>
    obtain ⟨reply, rest, rfl, ends⟩ := ends
    obtain ⟨granted, later⟩ := List.forall_mem_cons.1 granted
    obtain ⟨met, permitted⟩ := ih reply (h.2 reply granted) later ends
    refine ⟨met, fun early event late split => ?_⟩
    cases early with
    | nil =>
      obtain ⟨rfl, -⟩ := List.cons.inj split
      exact h.1
    | cons first early =>
      obtain ⟨rfl, within⟩ := List.cons.inj split
      exact permitted early event late within

end Program

/-! ### Views -/

/-- Whether moments follow one another in a view: each begins with what is seen when the last has
ended. -/
def Linked (view : σ → β) : β → List (Moment σ) → β → Prop
  | first, [], last => first = last
  | first, moment :: rest, last =>
    view moment.before = first ∧ Linked view (view moment.after) rest last

namespace Linked

variable {view : σ → β} {first last : β}

theorem append {early late : List (Moment σ)} :
    Linked view first (early ++ late) last ↔
      ∃ between, Linked view first early between ∧ Linked view between late last := by
  induction early generalizing first with
  | nil =>
    constructor
    · exact fun h => ⟨first, rfl, h⟩
    · rintro ⟨_, rfl, h⟩
      exact h
  | cons moment early ih =>
    constructor
    · rintro ⟨here, h⟩
      obtain ⟨between, h, h'⟩ := ih.1 h
      exact ⟨between, ⟨here, h⟩, h'⟩
    · rintro ⟨between, ⟨here, h⟩, h'⟩
      exact ⟨here, ih.2 ⟨between, h, h'⟩⟩

/-- Between two moments, what is seen leads from the end of the one to the beginning of the
other. -/
theorem between {early mid late : List (Moment σ)} {moment moment' : Moment σ}
    (h : Linked view first (early ++ moment :: (mid ++ moment' :: late)) last) :
    Linked view (view moment.after) mid (view moment'.before) := by
  obtain ⟨_, -, -, h⟩ := append.1 h
  obtain ⟨_, h, rfl, -⟩ := append.1 h
  exact h

/-- What is seen at last is what the last moment has left. -/
theorem eq_foldl {moments : List (Moment σ)} (h : Linked view first moments last) :
    last = moments.foldl (fun _ moment => view moment.after) first := by
  induction moments generalizing first with
  | nil => exact h.symm
  | cons moment rest ih => exact ih h.2

/-- **What is seen at last** but was not at first came at one of the moments. -/
theorem exists_turn {moments : List (Moment σ)} (h : Linked view first moments last)
    (seen : β → Prop) (absent : ¬seen first) (present : seen last) :
    ∃ early moment late, moments = early ++ moment :: late ∧ ¬seen (view moment.before) ∧
      seen (view moment.after) := by
  induction moments generalizing first with
  | nil => exact absurd (h ▸ present) absent
  | cons moment rest ih =>
    obtain ⟨rfl, h⟩ := h
    by_cases here : seen (view moment.after)
    · exact ⟨[], moment, rest, rfl, absent, here⟩
    · obtain ⟨early, turn, late, rfl, before, after⟩ := ih h here
      exact ⟨moment :: early, turn, late, rfl, before, after⟩

end Linked

/-- The moments of a run follow one another. -/
theorem Program.linked_trace (handle : (effect : Effect) → σ → effect.Reply × σ) (view : σ → β)
    (program : Program α) (state : σ) :
    Linked view (view state) (program.trace handle state)
      (view (program.run handle state).2) := by
  induction program generalizing state with
  | done result => exact rfl
  | perform effect next ih => exact ⟨rfl, ih _ _⟩

end GatewaySession
