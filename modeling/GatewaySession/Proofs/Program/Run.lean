import GatewaySession.Vault.Basic

/-!
# Running the parts that programs are made of

One equation for each way of building a program, so that a run is opened part by part.

## Main results

* `Program.run_ask`, `Program.run_ofExcept` — an effect, and a result that is there already
* `Program.run_read`, `Program.run_write`, `Program.run_remove`, `Program.run_list`,
  `Program.run_sealingKey` — effects that may fail
* `Program.run_bind_cases`, `Program.run_bind_eq_ok` — two programs one after the other, taken apart
* `Program.run_guarded` — a guarded program holds first and releases last
* `Vault.run_about`, `Vault.run_about_cases` — a storage operation wraps its errors
-/

namespace GatewaySession

variable {α : Type} {σ : Type} (handle : (effect : Effect) → σ → effect.Reply × σ)

namespace Program

@[simp] theorem run_perform (effect : Effect) (next : effect.Reply → Program α) (state : σ) :
    (perform effect next).run handle state =
      (next (handle effect state).1).run handle (handle effect state).2 := rfl

@[simp] theorem run_ask (effect : Effect) (state : σ) :
    (ask effect).run handle state = (.ok (handle effect state).1, (handle effect state).2) := rfl

@[simp] theorem run_ofExcept (result : Except Error α) (state : σ) :
    (ofExcept result).run handle state = (result, state) := rfl

@[simp] theorem run_read (name : String) (state : σ) :
    (read name).run handle state = handle (.read name) state := rfl

@[simp] theorem run_write (name : String) (value : Bytes) (state : σ) :
    (write name value).run handle state = handle (.write name value) state := rfl

@[simp] theorem run_remove (name : String) (state : σ) :
    (remove name).run handle state = handle (.remove name) state := rfl

@[simp] theorem run_list (start : String) (state : σ) :
    (list start).run handle state = handle (.list start) state := rfl

@[simp] theorem run_sealingKey (name : String) (state : σ) :
    (sealingKey name).run handle state = handle (.sealingKey name) state := rfl

variable {handle} {β : Type}

/-- After a result, a program goes on. -/
theorem run_bind_ok {program : Program α} {f : α → Program β} {state last : σ} {a : α}
    (h : program.run handle state = (.ok a, last)) :
    (program >>= f).run handle state = (f a).run handle last := by
  rw [run_bind, h]

/-- After an error, a program has ended. -/
theorem run_bind_error {program : Program α} {f : α → Program β} {state last : σ} {error : Error}
    (h : program.run handle state = (.error error, last)) :
    (program >>= f).run handle state = (.error error, last) := by
  rw [run_bind, h]

/-- Two programs one after the other: the first fails, or it has a result and the second goes on. -/
theorem run_bind_cases {program : Program α} {f : α → Program β} {state last : σ}
    {result : Except Error β} (h : (program >>= f).run handle state = (result, last)) :
    (∃ error, program.run handle state = (.error error, last) ∧ result = .error error) ∨
      ∃ a between, program.run handle state = (.ok a, between) ∧
        (f a).run handle between = (result, last) := by
  rw [run_bind] at h
  cases first : program.run handle state with
  | mk result' between =>
  rw [first] at h
  cases result' with
  | error error =>
    obtain ⟨rfl, rfl⟩ := Prod.mk.inj h
    exact .inl ⟨error, rfl, rfl⟩
  | ok a => exact .inr ⟨a, between, rfl, h⟩

/-- Two programs one after the other have a result only if both have. -/
theorem run_bind_eq_ok {program : Program α} {f : α → Program β} {state last : σ} {b : β}
    (h : (program >>= f).run handle state = (.ok b, last)) :
    ∃ a between, program.run handle state = (.ok a, between) ∧
      (f a).run handle between = (.ok b, last) := by
  obtain ⟨_, -, failed⟩ | both := run_bind_cases h
  · cases failed
  · exact both

/-- After a program whose errors are caught, a program goes on. -/
theorem run_attempt_bind {program : Program α} {f : Except Error α → Program β} {state last : σ}
    {result : Except Error α} (h : program.run handle state = (result, last)) :
    (program.attempt >>= f).run handle state = (f result).run handle last := by
  rw [run_bind, run_attempt, h]

variable (handle)

/-- A guarded program holds the store first and releases it last. -/
theorem run_guarded (program : Program α) (state : σ) :
    program.guarded.run handle state =
      ((program.run handle (handle .hold state).2).1,
        (handle .release (program.run handle (handle .hold state).2).2).2) := by
  rw [guarded, run_bind, run_ask]
  simp only
  rw [run_bind, run_attempt]
  rfl

end Program

namespace Vault

/-- A storage operation wraps its errors. -/
theorem run_about (operation key : String) (program : Program α) (state : σ) :
    (about operation key program).run handle state =
      match program.run handle state with
      | (.ok result, state) => (.ok result, state)
      | (.error source, state) => (.error (.storageOperation operation key source), state) := by
  rw [about, Program.run_bind, Program.run_attempt]
  simp only
  cases program.run handle state with
  | mk result state => cases result <;> rfl

variable {handle}

theorem run_about_ok {operation key : String} {program : Program α} {state last : σ} {a : α}
    (h : program.run handle state = (.ok a, last)) :
    (about operation key program).run handle state = (.ok a, last) := by
  rw [run_about, h]

/-- A storage operation has a result of the storage, or an error that wraps one of the storage. -/
theorem run_about_cases {operation key : String} {program : Program α} {state last : σ}
    {result : Except Error α}
    (h : (about operation key program).run handle state = (result, last)) :
    (∃ source, program.run handle state = (.error source, last) ∧
        result = .error (.storageOperation operation key source)) ∨
      ∃ a, program.run handle state = (.ok a, last) ∧ result = .ok a := by
  rw [run_about] at h
  cases run : program.run handle state with
  | mk result' between =>
  rw [run] at h
  cases result' with
  | error source =>
    obtain ⟨rfl, rfl⟩ := Prod.mk.inj h
    exact .inl ⟨source, rfl, rfl⟩
  | ok a =>
    obtain ⟨rfl, rfl⟩ := Prod.mk.inj h
    exact .inr ⟨a, rfl, rfl⟩

theorem run_about_eq_ok {operation key : String} {program : Program α} {state last : σ} {a : α}
    (h : (about operation key program).run handle state = (.ok a, last)) :
    program.run handle state = (.ok a, last) := by
  obtain ⟨_, -, failed⟩ | ⟨_, run, done⟩ := run_about_cases h
  · cases failed
  · rw [run, Except.ok.inj done]

end Vault

end GatewaySession
