import GatewaySession.Proofs.Program.Run
import GatewaySession.Proofs.Session.Letters
import GatewaySession.Proofs.Session.Registry

/-!
# Runs with all that happens in them

Of a run one may know the result, the state it leaves, and the moments on the way. A *course* is the
three together. It is taken apart along the ways of building programs, so what is supposed of the
moments of a run is supposed of those of its parts, and what was sent in the parts is what was sent.

## Main definitions

* `Program.Goes` — the course of a run
* `requestsAt`, `Program.requests` — the requests that are sent at moments, and in a run

## Main results

* `Program.goes_run` — every run has a course
* `Program.Goes.of_bind`, `Program.Goes.of_rescue`, `Program.Goes.of_guarded`,
  `Vault.goes_of_about` — the rules
-/

namespace GatewaySession

/-- The request that an event sends, if it sends one. -/
def Event.request? : Event → Option Request
  | ⟨.send _ _ request, _⟩ => some request
  | _ => none

variable {α β σ : Type} {handle : (effect : Effect) → σ → effect.Reply × σ} {state last : σ}
  {moments : List (Moment σ)}

/-- The requests that are sent at moments, in order. -/
def requestsAt (moments : List (Moment σ)) : List Request :=
  moments.filterMap (·.toEvent.request?)

theorem requestsAt_append (early late : List (Moment σ)) :
    requestsAt (early ++ late) = requestsAt early ++ requestsAt late := List.filterMap_append

namespace Program

/-- The requests that are sent in a run, in order. -/
def requests (handle : (effect : Effect) → σ → effect.Reply × σ) (program : Program α)
    (state : σ) : List Request := requestsAt (program.trace handle state)

/-- Whether a run goes from a state through moments to a result and another state. -/
def Goes (handle : (effect : Effect) → σ → effect.Reply × σ) (program : Program α) (state : σ)
    (moments : List (Moment σ)) (result : Except Error α) (last : σ) : Prop :=
  program.run handle state = (result, last) ∧ program.trace handle state = moments

/-- **Every run** has a course. -/
theorem goes_run (handle : (effect : Effect) → σ → effect.Reply × σ) (program : Program α)
    (state : σ) :
    program.Goes handle state (program.trace handle state)
      (program.run handle state).1 (program.run handle state).2 := ⟨rfl, rfl⟩

namespace Goes

/-- A relation in which every run stands. -/
theorem leads {program : Program α} {result : Except Error α}
    {relation : σ → List (Moment σ) → σ → Prop}
    (h : program.Goes handle state moments result last) (leads : program.Leads handle relation) :
    relation state moments last := by
  have within := leads state
  rw [h.1, h.2] at within
  exact within

/-- What is performed in the run of a program that performs certain effects only. -/
theorem performs {program : Program α} {result : Except Error α} {permits : Effect → Prop}
    (h : program.Goes handle state moments result last) (performs : program.Performs permits) :
    ∀ moment ∈ moments, permits moment.effect := by
  intro moment mem
  refine performs.ends (ends_trace handle program state) moment.toEvent ?_
  rw [h.2]
  exact List.mem_map_of_mem mem

/-- A program that writes no requests sends none. -/
theorem requestsAt_eq_nil {program : Program α} {result : Except Error α}
    (h : program.Goes handle state moments result last)
    (writes : program.Performs (Effect.Sends fun _ _ => False)) :
    requestsAt moments = [] := by
  refine List.filterMap_eq_nil_iff.2 fun moment mem => ?_
  have unsent := h.performs writes moment mem
  obtain ⟨⟨effect, reply⟩, before, after⟩ := moment
  cases effect with
  | send => exact unsent.elim
  | _ => rfl

/-! ### Rules -/

theorem of_done {result result' : Except Error α}
    (h : (Program.done result).Goes handle state moments result' last) :
    moments = [] ∧ result' = result ∧ last = state := by
  obtain ⟨run, rfl⟩ := h
  obtain ⟨rfl, rfl⟩ := Prod.mk.inj run
  exact ⟨rfl, rfl, rfl⟩

/-- An effect comes first, with its answer. -/
theorem of_perform {effect : Effect} {next : effect.Reply → Program α} {result : Except Error α}
    (h : (Program.perform effect next).Goes handle state moments result last) :
    ∃ rest, moments = .of handle effect state :: rest ∧
      (next (handle effect state).1).Goes handle (handle effect state).2 rest result last := by
  obtain ⟨run, rfl⟩ := h
  exact ⟨_, rfl, run, rfl⟩

/-- One program after another: the first fails, or the second goes on where it has ended. -/
theorem of_bind {program : Program α} {f : α → Program β} {result : Except Error β}
    (h : (program >>= f).Goes handle state moments result last) :
    (∃ error, program.Goes handle state moments (.error error) last ∧ result = .error error) ∨
      ∃ a between early late, moments = early ++ late ∧
        program.Goes handle state early (.ok a) between ∧
        (f a).Goes handle between late result last := by
  obtain ⟨run, rfl⟩ := h
  obtain ⟨error, failed, same⟩ | ⟨a, between, first, second⟩ := run_bind_cases run
  · exact .inl ⟨error, ⟨failed, (trace_bind_error failed).symm⟩, same⟩
  · exact .inr ⟨a, between, _, _, trace_bind_ok first, ⟨first, rfl⟩, second, rfl⟩

/-- A program whose value is not used. -/
theorem of_discard {program : Program α} {result : Except Error Unit}
    (h : (program >>= fun _ => pure ()).Goes handle state moments result last) :
    ∃ used, program.Goes handle state moments used last ∧ result = used.map fun _ => () := by
  obtain ⟨error, failed, rfl⟩ | ⟨a, _, early, _, rfl, done, ended⟩ := h.of_bind
  · exact ⟨.error error, failed, rfl⟩
  · obtain ⟨rfl, rfl, rfl⟩ := ended.of_done
    exact ⟨.ok a, by rwa [List.append_nil], rfl⟩

/-- A program after one whose errors are caught goes on where that one has ended. -/
theorem of_rescue {program : Program α} {f : Except Error α → Program β}
    {result : Except Error β}
    (h : (program.attempt >>= f).Goes handle state moments result last) :
    ∃ caught between early late, moments = early ++ late ∧
      program.Goes handle state early caught between ∧
      (f caught).Goes handle between late result last := by
  obtain ⟨run, rfl⟩ := h
  cases first : program.run handle state with
  | mk caught between =>
  rw [run_attempt_bind first] at run
  exact ⟨caught, between, _, _, trace_attempt_bind first, ⟨first, rfl⟩, run, rfl⟩

/-- A guarded program holds the store first and releases it last. -/
theorem of_guarded {program : Program α} {result : Except Error α}
    (h : program.guarded.Goes handle state moments result last) :
    ∃ within between, moments = .of handle .hold state ::
        (within ++ [.of handle .release between]) ∧
      program.Goes handle (handle .hold state).2 within result between ∧
      last = (handle .release between).2 := by
  obtain ⟨run, rfl⟩ := h
  rw [run_guarded] at run
  obtain ⟨rfl, rfl⟩ := Prod.mk.inj run
  exact ⟨_, _, trace_guarded program state, goes_run handle program _, rfl⟩

end Goes

end Program

/-- A storage operation is one effect, and wraps its error. -/
theorem Vault.goes_of_about {operation key : String} {effect : Effect}
    {answer : effect.Reply → Except Error α} {result : Except Error α}
    (h : (Vault.about operation key
      (.perform effect fun reply => .done (answer reply))).Goes handle state moments result last) :
    moments = [.of handle effect state] ∧ last = (handle effect state).2 ∧
      ((∃ source, answer (handle effect state).1 = .error source ∧
          result = .error (.storageOperation operation key source)) ∨
        ∃ a, answer (handle effect state).1 = .ok a ∧ result = .ok a) := by
  obtain ⟨run, rfl⟩ := h
  rw [Vault.trace_about]
  obtain ⟨source, within, wrapped⟩ | ⟨a, within, same⟩ := Vault.run_about_cases run
  · obtain ⟨failed, rfl⟩ := Prod.mk.inj within
    exact ⟨rfl, rfl, .inl ⟨source, failed, wrapped⟩⟩
  · obtain ⟨done, rfl⟩ := Prod.mk.inj within
    exact ⟨rfl, rfl, .inr ⟨a, done, same⟩⟩

end GatewaySession
