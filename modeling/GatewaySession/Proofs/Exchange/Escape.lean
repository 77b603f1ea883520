import GatewaySession.Proofs.Exchange.Between

/-!
# Obstacles that escape an execution

A locked key store, a missing credential and a missing one-time passcode are obstacles: an attempt
that meets one asks the user, and the obstacle becomes the result only when the user was asked too
often. That holds of every obstacle met while a request is prepared. Three steps of an execution are
not covered: removing what a refusal makes useless, sending the prepared request, and having a
one-time passcode sent. An obstacle that one of them meets is the result at once, and the user is
not asked.

The statements are about the paths through an execution, so they hold whoever answers: any gateway,
any user, any storage, and a key store that is locked and unlocked at any moment.

## Main definitions

* `Error.isObstacle` — an error that only input from outside removes
* `Event.Reports` — an event that was answered with an error
* `Session.Escapes` — the ends of the steps that are not covered

## Main results

* `Session.Escapes.reported` — what escapes was reported by the storage, the key store, the
  connection or the gateway during the step
* `Session.recover_contained`, `Session.round_contained` — asking, and one attempt
* `Session.execute_escapes` — an execution ends with an obstacle only if the user was asked too
  often, or if its last step was one of the three
-/

namespace GatewaySession

open Program (Ends)

/-- Whether an error is an obstacle: one that only input from outside removes. A locked key store is
one also behind a storage operation. -/
def Error.isObstacle : Error → Bool
  | recoverable _ => true
  | error => error.isStoreLocked

/-! ### Who reported an obstacle -/

/-- Events that were answered with an error. The vault wraps the errors of its storage. -/
inductive Event.Reports : Error → Event → Prop where
  | read (key : String) (source : Error) :
    Reports (.storageOperation "get" key source) ⟨.read key, .error source⟩
  | remove (key : String) (source : Error) :
    Reports (.storageOperation "delete" key source) ⟨.remove key, .error source⟩
  | sealingKey (name : String) (error : Error) : Reports error ⟨.sealingKey name, .error error⟩
  | connect (registration : Option DeviceIdentity) (error : Error) :
    Reports error ⟨.connect registration, .error error⟩
  | send (connection : Connection) (purpose : Purpose) (request : Request) (error : Error) :
    Reports error ⟨.send connection purpose request, .error error⟩

variable {α β : Type}

/-- Whether every obstacle that a program ends with was reported along the way. -/
def Program.Attributed (program : Program α) : Prop :=
  ∀ events error, program.Ends events (.error error) → error.isObstacle = true →
    ∃ event ∈ events, event.Reports error

namespace Program.Attributed

theorem pure (a : α) : Attributed (Pure.pure a : Program α) := fun _ _ ends => nomatch ends.2

/-- A result that is there already, if it is no obstacle. -/
theorem ofExcept {result : Except Error α}
    (h : ∀ error, result = .error error → error.isObstacle = false) :
    Attributed (Program.ofExcept result) := by
  intro events error ends obstacle
  rw [h error ends.2] at obstacle
  cases obstacle

theorem ask (effect : Effect) : Attributed (Program.ask effect) := by
  rintro events error ⟨reply, rest, -, ends⟩
  cases ends.2

theorem bind {program : Program α} {f : α → Program β} (h : program.Attributed)
    (hf : ∀ a, (f a).Attributed) : (program >>= f).Attributed := by
  intro events error ends obstacle
  obtain ⟨_, failed, same⟩ | ⟨a, early, late, rfl, -, ends⟩ := Ends.of_bind ends
  · cases same
    exact h events error failed obstacle
  · obtain ⟨event, mem, reports⟩ := hf a late error ends obstacle
    exact ⟨event, List.mem_append_right early mem, reports⟩

theorem guarded {program : Program α} (h : program.Attributed) : program.guarded.Attributed := by
  intro events error ends obstacle
  obtain ⟨within, rfl, inner⟩ := Ends.of_guarded ends
  obtain ⟨event, mem, reports⟩ := h within error inner obstacle
  exact ⟨event, List.mem_cons_of_mem _ (List.mem_append_left _ mem), reports⟩

/-- A storage operation reports the error that it wraps. -/
theorem about {operation key : String} {effect : Effect}
    {next : effect.Reply → Except Error α}
    (reports : ∀ reply source, next reply = .error source →
      Event.Reports (.storageOperation operation key source) ⟨effect, reply⟩) :
    (Vault.about operation key (.perform effect fun reply => .done (next reply))).Attributed := by
  rintro events error ⟨reply, rest, rfl, ends⟩ -
  have ends : (Vault.about operation key (.done (next reply))).Ends rest (.error error) := ends
  cases answered : next reply with
  | ok a =>
    rw [answered] at ends
    cases ends.2
  | error source =>
    rw [answered] at ends
    obtain ⟨-, same⟩ := ends
    cases same
    exact ⟨_, List.mem_cons_self, reports reply source answered⟩

/-! #### Vaults -/

variable {vault : Vault} [Record α]

theorem clear (slot : Slot) : (vault.clear slot).Attributed :=
  guarded (about fun _ source answered => answered ▸ .remove _ source)

theorem read (slot : Slot) : (vault.read slot : Program (Option α)).Attributed := by
  refine bind (about fun _ source answered => answered ▸ .read _ source) fun found => ?_
  cases found with
  | none => exact pure _
  | some blob =>
  have opened : (vault.unsealed blob).Attributed := by
    refine bind (ofExcept fun error failed => ?_) fun _ => bind ?_ fun key => ofExcept ?_
    · obtain ⟨detail, rfl⟩ := Envelope.integrity_of_checkLength failed
      rfl
    · rintro events error ⟨reply, rest, rfl, -, rfl⟩ -
      exact ⟨_, List.mem_cons_self, .sealingKey _ _⟩
    · intro error failed
      obtain ⟨detail, rfl⟩ := Envelope.integrity_of_unwrapWith failed
      rfl
  refine opened.bind fun plaintext => bind (ofExcept fun error failed => ?_) fun _ => pure _
  rw [Vault.recordOf] at failed
  split at failed
  · cases failed
  · cases failed
    rfl

end Program.Attributed

namespace Session

open Program.Attributed

variable {session : Session}

/-- Reading a slot where what is unreadable counts as absent. -/
theorem attributed_readable {slot : Slot} {program : Program (Option α)}
    (h : program.Attributed) : (session.readable slot program).Attributed := by
  intro events error ends obstacle
  obtain ⟨result, early, late, rfl, within, ends⟩ := Ends.of_rescue ends
  split at ends
  · -- Whatever comes of the removal, the slot counts as empty.
    obtain ⟨_, _, _, -, -, ends⟩ := Ends.of_rescue ends
    cases ends.2
  · obtain ⟨rfl, rfl⟩ := ends
    obtain ⟨event, mem, reports⟩ := h early error within obstacle
    exact ⟨event, List.mem_append_left [] mem, reports⟩

theorem attributed_deviceIdentity : session.deviceIdentity.Attributed :=
  attributed_readable (read _)

theorem attributed_connection : session.connection.Attributed := by
  refine bind (ask _) fun cached => ?_
  cases cached with
  | some connection => exact pure _
  | none =>
    refine attributed_deviceIdentity.bind fun registration => bind ?_ fun _ => bind (ask _)
      fun _ => pure _
    rintro events error ⟨reply, rest, rfl, -, rfl⟩ -
    exact ⟨_, List.mem_cons_self, .connect _ _⟩

theorem attributed_send (purpose : Purpose) (request : Request) :
    (session.send purpose request).Attributed := by
  refine attributed_connection.bind fun connection => ?_
  rintro events error ⟨reply, rest, rfl, -, rfl⟩ -
  exact ⟨_, List.mem_cons_self, .send _ _ _ _⟩

theorem attributed_withDeviceHeaders (request : Request) :
    (session.withDeviceHeaders request).Attributed := by
  refine attributed_deviceIdentity.bind fun identity => ?_
  cases identity with
  | none => exact pure _
  | some identity => exact pure _

theorem attributed_deliverOtp (channel : String) : (session.deliverOtp channel).Attributed := by
  refine (attributed_withDeviceHeaders _).bind fun request => bind ?_ fun _ => pure _
  refine (attributed_send _ request).bind fun response => ofExcept fun error failed => ?_
  rw [Response.checked] at failed
  split at failed
  · cases failed
  · cases failed
    rfl

theorem attributed_reactTo (refusal : Refusal) : (session.reactTo refusal).Attributed := by
  cases refusal with
  | invalidAccessToken => exact (clear _).bind fun _ => pure _
  | accessTokenExpired => exact (clear _).bind fun _ => pure _
  | clientCertificateExpired => exact (clear _).bind fun _ => (ask _).bind fun _ => pure _
  | invalidClientCredential => exact (clear _).bind fun _ => (ask _).bind fun _ => pure _
  | invalidResourceOwner =>
    refine bind ((clear _).bind fun _ => (clear _).bind fun _ => (clear _).bind fun _ => ask _)
      fun _ => pure _
  | _ => exact pure _

/-! ### Steps that are not covered -/

/-- The ends of the steps of an execution whose errors are its result. -/
inductive Escapes (session : Session) (id : Nat) (error : Error) : List Event → Prop where
  /-- Removing what a refusal makes useless. -/
  | removal {refusal : Refusal} {events : List Event} :
    (session.reactTo refusal).Ends events (.error error) → Escapes session id error events
  /-- Sending the prepared request. -/
  | sending {request : Request} {events : List Event} :
    (session.send (.caller id) request).Ends events (.error error) →
      Escapes session id error events
  /-- Having a one-time passcode sent. -/
  | delivery {channel : String} {events : List Event} :
    (session.deliverOtp channel).Ends events (.error error) → Escapes session id error events

variable {id : Nat} {error : Error} {events : List Event}

/-- **What escapes** was reported during the step. -/
theorem Escapes.reported (escapes : session.Escapes id error events)
    (obstacle : error.isObstacle = true) : ∃ event ∈ events, event.Reports error := by
  cases escapes with
  | removal ends => exact attributed_reactTo _ _ _ ends obstacle
  | sending ends => exact attributed_send _ _ _ _ ends obstacle
  | delivery ends => exact attributed_deliverOtp _ _ _ ends obstacle

/-- What an execution that ends with an error may say: an obstacle is the result only if the user
was asked too often, or if it escaped at the end. -/
def Contained (session : Session) (id : Nat) (events : List Event) (error : Error)
    (last : Context) : Prop :=
  error.isObstacle = true →
    ((∃ obstacle, error = .recoverable obstacle) ∧ Context.maxRecoveries < last.recoveries) ∨
      ∃ early late, events = early ++ late ∧ session.Escapes id error late

theorem Contained.of_not_isObstacle {last : Context} (h : error.isObstacle = false) :
    session.Contained id events error last := by
  intro obstacle
  rw [h] at obstacle
  cases obstacle

theorem Contained.of_escapes {last : Context} (early : List Event)
    (escapes : session.Escapes id error events) :
    session.Contained id (early ++ events) error last :=
  fun _ => .inr ⟨early, events, rfl, escapes⟩

theorem Contained.after {last : Context} (early : List Event)
    (h : session.Contained id events error last) :
    session.Contained id (early ++ events) error last := by
  intro obstacle
  obtain exhausted | ⟨first, late, rfl, escapes⟩ := h obstacle
  · exact .inl exhausted
  · exact .inr ⟨early ++ first, late, (List.append_assoc _ _ _).symm, escapes⟩

/-! ### Attempts -/

/-- A round whose error, if it ends with one, is contained. Another attempt is for the same
request. -/
def Contains (session : Session) (id : Nat) (events : List Event) {ctx : Context} :
    Round ctx → Prop
  | .finished (.ok _) _ => True
  | .finished (.error error) last => session.Contained id events error last
  | .again next _ => next.id = id

theorem Contains.earlier {start later : Context} {round : Round later}
    (h : session.Contains id events round) (le : later.allowance ≤ start.allowance) :
    session.Contains id events (round.earlier le) := by
  cases round with
  | finished result last => cases result <;> exact h
  | again next less => exact h

theorem Contains.after {ctx : Context} {round : Round ctx} (early : List Event)
    (h : session.Contains id events round) : session.Contains id (early ++ events) round := by
  cases round with
  | finished result last =>
    cases result with
    | ok response => trivial
    | error error => exact Contained.after early h
  | again next less => exact h

/-- **Asking the user** ends with an obstacle only if he was asked too often, or if a passcode could
not be sent for. -/
theorem recover_contained {obstacle : Obstacle} {need : Need} {ctx : Context}
    {result : Except Error (Round ctx)}
    (ends : (session.recover obstacle need ctx).Ends events result) :
    ∃ round, result = .ok round ∧ session.Contains ctx.id events round := by
  induction need, ctx using session.recover_induction obstacle generalizing events with
  | exhausted need ctx exhausted eq =>
    rw [eq] at ends
    obtain ⟨rfl, rfl⟩ := ends
    exact ⟨_, rfl, fun _ => .inl ⟨⟨obstacle, rfl⟩, exhausted⟩⟩
  | asks need ctx more eq again =>
    rw [eq] at ends
    obtain ⟨answer, rest, rfl, ends⟩ := ends
    cases answer with
    | credentials credential =>
      obtain ⟨_, _, rfl, rfl, rfl⟩ := ends
      exact ⟨_, rfl, rfl⟩
    | otp passcode =>
      obtain ⟨rfl, rfl⟩ := ends
      exact ⟨_, rfl, rfl⟩
    | unlocked =>
      obtain ⟨rfl, rfl⟩ := ends
      exact ⟨_, rfl, rfl⟩
    | deferred =>
      obtain ⟨rfl, rfl⟩ := ends
      exact ⟨_, rfl, .of_not_isObstacle rfl⟩
    | cancelled =>
      obtain ⟨rfl, rfl⟩ := ends
      exact ⟨_, rfl, .of_not_isObstacle rfl⟩
    | otpChannel channel =>
      have ends : ((session.deliverOtp channel).attempt >>= _).Ends rest result := ends
      obtain ⟨delivered, early, late, rfl, within, ends⟩ := Ends.of_rescue ends
      cases delivered with
      | error error =>
        obtain ⟨rfl, rfl⟩ := ends
        rw [List.append_nil]
        exact ⟨_, rfl, .of_escapes [_] (.delivery within)⟩
      | ok _ =>
        obtain ⟨error, failed, -⟩ | ⟨round, early', late', rfl, asked, ends⟩ := Ends.of_bind ends
        · obtain ⟨_, same, -⟩ := again channel failed
          cases same
        obtain ⟨_, same, contains⟩ := again channel asked
        cases same
        obtain ⟨rfl, rfl⟩ := ends
        rw [List.append_nil]
        exact ⟨_, rfl, ((contains.after early).after [_]).earlier _⟩

/-- Reacting to an error fails where something cannot be removed, and an obstacle is always put to
the user. -/
theorem react_cases (id : Nat) {result : Except Error Reaction}
    (ends : (session.react error).Ends events result) :
    (∃ failure, result = .error failure ∧ session.Escapes id failure events) ∨
      ∃ reaction, result = .ok reaction ∧
        (error.isObstacle = true → ∃ obstacle, reaction = .recover obstacle) := by
  unfold react at ends
  by_cases locked : error.isStoreLocked = true
  · rw [if_pos locked] at ends
    obtain ⟨rfl, rfl⟩ := ends
    exact .inr ⟨_, rfl, fun _ => ⟨_, rfl⟩⟩
  rw [if_neg locked] at ends
  cases error with
  | recoverable obstacle =>
    obtain ⟨rfl, rfl⟩ := ends
    exact .inr ⟨_, rfl, fun _ => ⟨obstacle, rfl⟩⟩
  | server refusal status code text =>
    cases result with
    | error failure => exact .inl ⟨failure, rfl, .removal ends⟩
    | ok reaction => exact .inr ⟨reaction, rfl, nofun⟩
  | _ =>
    obtain ⟨rfl, rfl⟩ := ends
    exact .inr ⟨_, rfl, fun obstacle => absurd obstacle locked⟩

theorem afterUnsent_contained {ctx : Context} {result : Except Error (Round ctx)}
    (ends : (session.afterUnsent ctx error).Ends events result) :
    ∃ round, result = .ok round ∧ session.Contains ctx.id events round := by
  obtain ⟨reacted, early, late, rfl, reacting, ends⟩ := Ends.of_rescue ends
  obtain ⟨failure, rfl, escapes⟩ | ⟨reaction, rfl, recovers⟩ := react_cases ctx.id reacting
  · obtain ⟨rfl, rfl⟩ := ends
    rw [List.append_nil]
    exact ⟨_, rfl, .of_escapes [] escapes⟩
  cases reaction with
  | giveUp =>
    obtain ⟨rfl, rfl⟩ := ends
    refine ⟨_, rfl, fun obstacle => ?_⟩
    obtain ⟨_, same⟩ := recovers obstacle
    cases same
  | retry =>
    have ends : Ends (if h : ctx.countAttempt.attempts < Context.maxAttempts then _ else _) late
      result := ends
    split at ends
    · obtain ⟨rfl, rfl⟩ := ends
      exact ⟨_, rfl, rfl⟩
    · obtain ⟨rfl, rfl⟩ := ends
      exact ⟨_, rfl, .of_not_isObstacle rfl⟩
  | recover obstacle =>
    obtain ⟨round, same, contains⟩ := recover_contained ends
    exact ⟨round, same, contains.after early⟩

theorem afterRefusal_contained {ctx : Context} {response : Response}
    {result : Except Error (Round ctx)}
    (ends : (session.afterRefusal ctx response).Ends events result) :
    ∃ round, result = .ok round ∧ session.Contains ctx.id events round := by
  obtain ⟨reacted, early, late, rfl, reacting, ends⟩ := Ends.of_rescue ends
  obtain ⟨failure, rfl, escapes⟩ | ⟨reaction, rfl, -⟩ := react_cases ctx.id reacting
  · obtain ⟨rfl, rfl⟩ := ends
    rw [List.append_nil]
    exact ⟨_, rfl, .of_escapes [] escapes⟩
  cases reaction with
  | giveUp =>
    obtain ⟨rfl, rfl⟩ := ends
    refine ⟨_, rfl, Contained.of_not_isObstacle ?_⟩
    rfl
  | retry =>
    have ends : Ends (if h : ctx.countAttempt.attempts < Context.maxAttempts then _ else _) late
      result := ends
    split at ends
    · obtain ⟨rfl, rfl⟩ := ends
      exact ⟨_, rfl, rfl⟩
    · obtain ⟨rfl, rfl⟩ := ends
      exact ⟨_, rfl, .of_not_isObstacle rfl⟩
  | recover obstacle =>
    have ends : Ends (if h : ctx.countAttempt.attempts < Context.maxAttempts then _ else _) late
      result := ends
    split at ends
    · obtain ⟨_, failed, -⟩ | ⟨round, asking, rest, rfl, asked, ends⟩ := Ends.of_bind ends
      · obtain ⟨_, same, -⟩ := recover_contained failed
        cases same
      obtain ⟨_, same, contains⟩ := recover_contained asked
      cases same
      obtain ⟨rfl, rfl⟩ := ends
      rw [List.append_nil]
      exact ⟨_, rfl, (contains.after early).earlier _⟩
    · obtain ⟨rfl, rfl⟩ := ends
      exact ⟨_, rfl, .of_not_isObstacle rfl⟩

/-- **One attempt** ends with an obstacle only if the user was asked too often, or if it escaped. -/
theorem round_contained {ctx : Context} {result : Except Error (Round ctx)}
    (ends : (session.round ctx).Ends events result) :
    ∃ round, result = .ok round ∧ session.Contains ctx.id events round := by
  obtain ⟨prepared, early, late, rfl, -, ends⟩ := Ends.of_rescue ends
  cases prepared with
  | error error =>
    obtain ⟨round, same, contains⟩ := afterUnsent_contained ends
    exact ⟨round, same, contains.after early⟩
  | ok request =>
  obtain ⟨sent, early', late', rfl, sending, ends⟩ := Ends.of_rescue ends
  cases sent with
  | error error =>
    obtain ⟨rfl, rfl⟩ := ends
    rw [List.append_nil]
    exact ⟨_, rfl, .of_escapes early (.sending sending)⟩
  | ok response =>
    have ends : Ends (if response.isSuccess then _ else _) late' result := ends
    split at ends
    · obtain ⟨rfl, rfl⟩ := ends
      exact ⟨_, rfl, trivial⟩
    · obtain ⟨round, same, contains⟩ := afterRefusal_contained ends
      exact ⟨round, same, (contains.after early').after early⟩

/-! ### Executions -/

/-- **Which obstacles escape an execution.** An execution ends with a result. If that is an
obstacle, a locked key store among them, then either the user was asked too often and it says so, or
the last that was done was to remove what a refusal made useless, to send the prepared request, or
to have a passcode sent, and the obstacle was reported there. -/
theorem execute_escapes {ctx : Context} {result : Except Error (Except Error Response × Context)}
    (ends : (session.execute ctx).Ends events result) :
    ∃ outcome last, result = .ok (outcome, last) ∧
      ∀ error, outcome = .error error → error.isObstacle = true →
        ((∃ obstacle, error = .recoverable obstacle) ∧
            Context.maxRecoveries < last.recoveries) ∨
          ∃ early late, events = early ++ late ∧ session.Escapes ctx.id error late ∧
            ∃ event ∈ late, event.Reports error := by
  induction ctx using Context.allowance_induction generalizing events result with
  | step ctx ih =>
  rw [execute] at ends
  obtain ⟨error, failed, -⟩ | ⟨round, early, late, rfl, ran, ends⟩ := Ends.of_bind ends
  · obtain ⟨_, same, -⟩ := round_contained failed
    cases same
  obtain ⟨_, same, contains⟩ := round_contained ran
  cases same
  cases round with
  | finished outcome last =>
    obtain ⟨rfl, rfl⟩ := ends
    refine ⟨outcome, last, rfl, ?_⟩
    rintro error rfl obstacle
    obtain exhausted | ⟨first, rest, rfl, escapes⟩ := contains obstacle
    · exact .inl exhausted
    · exact .inr ⟨first, rest, List.append_nil _, escapes, escapes.reported obstacle⟩
  | again next less =>
    obtain ⟨outcome, last, rfl, escapes⟩ := ih _ less ends
    refine ⟨outcome, last, rfl, fun error failed obstacle => ?_⟩
    obtain exhausted | ⟨first, rest, rfl, escaped, reported⟩ := escapes error failed obstacle
    · exact .inl exhausted
    · have same : next.id = ctx.id := contains
      rw [same] at escaped
      exact .inr ⟨early ++ first, rest, (List.append_assoc _ _ _).symm, escaped, reported⟩

/-- As before, but the user chooses a channel for the passcode, and the key store is locked while he
is asked. -/
def locking : (effect : Effect) → Bool → effect.Reply × Bool
  | .sealingKey _, locked =>
    (if locked then .error .storeLocked else .ok (Vector.replicate 32 0), locked)
  | .ask _ _, _ => (.otpChannel "sms", true)
  | effect, locked => ((Surroundings.demanding effect ()).1, locked)

theorem run_deliverOtp_locking :
    (confidential.deliverOtp "sms").run locking true = (.error .storeLocked, true) := by
  have read : confidential.vault.deviceIdentity.run locking true = (.error .storeLocked, true) :=
    Vault.run_read_locked
      (show locking (.read "gatewarden.device_identity") true =
        (.ok (some (confidential.vault.blob (Vector.replicate 32 0) (Vector.replicate 12 0)
          (⟨"pem", "assigned", ⟨0, 0⟩⟩ : DeviceIdentity))), true) from rfl) rfl
  have identity : confidential.deviceIdentity.run locking true = (.error .storeLocked, true) := by
    rw [deviceIdentity, readable, Program.run_attempt_bind read]
    rfl
  exact Program.run_bind_error (Program.run_bind_error identity)

theorem run_recover_locking (obstacle : Obstacle) (need : Need) {ctx : Context} (locked : Bool)
    (more : ¬Context.maxRecoveries < ctx.countRecovery.recoveries) :
    (confidential.recover obstacle need ctx).run locking locked =
      (.ok (.finished (.error .storeLocked) ctx.countRecovery), true) := by
  have answered : (Program.ask (.ask ctx.id need)).run locking locked =
      (.ok (.otpChannel "sms"), true) := rfl
  rw [recover, dif_neg more, Program.run_bind_ok answered]
  simp only
  rw [Program.run_attempt_bind run_deliverOtp_locking]
  rfl

/-- The key store is locked while the user is asked for a passcode. He is not asked to unlock it,
and that it is locked is the result. -/
theorem execute_escapes_locked :
    ∃ events last, (confidential.execute publicContext).Ends events
        (.ok (.error .storeLocked, last)) ∧
      ∃ early late, events = early ++ late ∧ confidential.Escapes 1 .storeLocked late ∧
        ∃ event ∈ late, event.Reports .storeLocked := by
  have prepared : (confidential.prepare publicContext).run locking false =
      (.ok (demandedRequest publicContext), false) :=
    run_prepare_registration rfl rfl rfl rfl
  have sent : (confidential.send (.caller publicContext.id) (demandedRequest publicContext)).run
      locking false = (.ok Surroundings.demand, false) := rfl
  have refused : Surroundings.demand.isSuccess = false := by decide
  have reacted : (confidential.react Surroundings.demand.refusal).run locking false =
      (.ok (.recover .otpRequired), false) := rfl
  have left : publicContext.countAttempt.attempts < Context.maxAttempts := by decide
  have more : ¬Context.maxRecoveries <
      publicContext.countAttempt.withoutOtp.countRecovery.recoveries := by decide
  have asked := run_recover_locking .otpRequired (.otp [] none) false more
  have followed : (confidential.afterRefusal publicContext Surroundings.demand).run locking false =
      (.ok (.finished (.error .storeLocked)
        publicContext.countAttempt.withoutOtp.countRecovery), true) := by
    rw [afterRefusal, Program.run_attempt_bind reacted]
    simp only [left, dite_true]
    exact Program.run_bind_ok asked
  have tried : (confidential.round publicContext).run locking false = (.ok (.finished
      (.error .storeLocked) publicContext.countAttempt.withoutOtp.countRecovery), true) := by
    rw [round, Program.run_attempt_bind prepared]
    simp only
    rw [Program.run_attempt_bind sent]
    simp only [refused, Bool.false_eq_true, if_false]
    exact followed
  have ran : (confidential.execute publicContext).run locking false =
      (.ok (.error .storeLocked, publicContext.countAttempt.withoutOtp.countRecovery), true) := by
    rw [execute, Program.run_bind_ok tried]
    rfl
  have ends := Program.ends_trace locking (confidential.execute publicContext) false
  rw [ran] at ends
  obtain ⟨_, _, same, escapes⟩ := execute_escapes ends
  cases same
  obtain ⟨⟨_, same⟩, -⟩ | escaped := escapes _ rfl rfl
  · cases same
  · exact ⟨_, _, ends, escaped⟩

end Session

end GatewaySession
