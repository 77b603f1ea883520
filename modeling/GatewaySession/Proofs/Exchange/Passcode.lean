import GatewaySession.Proofs.Exchange.Between
import GatewaySession.Proofs.Exchange.Happenings
import GatewaySession.Proofs.Session.Letters

/-!
# One-time passcodes through an execution

A one-time passcode is collected from the user while a request is executed. It is kept through
attempts that fail before anything is sent, and through further questions; and it is dropped when
the gateway has answered the request that carried it. The channel that a passcode was sent over
stays. So a context that agrees with the log of its request does so at the end of an execution too,
whoever answers. If the request was sent and not answered, the execution is over.

## Main definitions

* `Session.Uncoded` — requests that neither carry a passcode nor have one sent
* `Happening.verdict` — what the result of an execution adds to a log
* `Round.Tracked` — an attempt after which the context agrees with the log

## Main results

* `Session.letters_uncoded` — the requests that a session makes of its own
* `Session.exists_of_prepare`, `Session.ends_deliverOtp` — what is sent on the way
* `Session.recover_tracked`, `Session.round_tracked` — asking, and one attempt
* `Session.execute_tracked` — a whole execution
-/

namespace GatewaySession

open Program (Ends Performs Ordinary)

variable {α : Type} {session : Session} {events : List Event}

/-! ### Requests -/

namespace Request

variable {name : String}

theorem header?_withForm (request : Request) (params : Form.Params)
    (differs : Header.same "content-type" name = false) :
    (request.withForm params).header? name = request.header? name :=
  request.header?_setHeader_of_not_same _ differs

end Request

namespace Session

/-- Whether a request neither carries a passcode nor has one sent. -/
def Uncoded (purpose : Purpose) (request : Request) : Prop :=
  purpose ≠ .otpDelivery ∧ request.header? "X-OTP" = none

/-- Device headers leave the others alone. -/
theorem header?_headed (request : Request) (registration : Option DeviceIdentity) {name : String}
    (device : Header.same "device-id" name = false)
    (identifier : Header.same "mag-identifier" name = false) :
    (session.headed request registration).header? name = request.header? name := by
  cases registration with
  | none => exact request.header?_setHeader_of_not_same _ device
  | some identity =>
    exact (header?_setHeader_of_not_same _ _ identifier).trans
      (request.header?_setHeader_of_not_same _ device)
where
  header?_setHeader_of_not_same := Request.header?_setHeader_of_not_same

/-- **The requests that a session makes of its own** in order to prepare another carry no
passcode. -/
theorem letters_uncoded : session.Letters Uncoded where
  provisioning nonce := by
    refine ⟨nofun, ?_⟩
    rw [provisionRequest, Request.header?_withForm _ _ (by decide),
      Request.header?_setHeader_of_not_same _ _ (by decide)]
    rfl
  registration client credential := by
    have plain : ((((session.publicRequest .post .register).setHeader "device-id"
        session.device.identity).setHeader "device-name" session.device.name).setHeader
        "client-authorization" (basicAuth client) |>.setHeader "cert-format" "pem").header?
        "X-OTP" = none := by
      repeat rw [Request.header?_setHeader_of_not_same _ _ (by decide)]
      rfl
    refine ⟨nofun, ?_⟩
    cases credential with
    | none => exact plain
    | some credential => exact (Request.header?_withForm _ _ (by decide)).trans plain
  grant presented client params registration := by
    refine ⟨nofun, ?_⟩
    rw [header?_headed _ _ (by decide) (by decide), grantRequest,
      Request.header?_withForm _ _ (by decide),
      Request.header?_setHeader_of_not_same _ _ (by decide)]
    rfl

end Session

/-! ### Happenings on the way -/

namespace Happening

theorem isAside_of_permits (vault : Vault) {event : Event}
    (permitted : vault.Permits event.effect) (uncoded : event.effect.Sends Session.Uncoded) :
    (Happening.event event).IsAside := by
  obtain ⟨effect, reply⟩ := event
  cases effect with
  | ask id need => exact permitted.elim
  | send connection purpose request =>
    cases purpose with
    | caller id => exact permitted.elim
    | otpDelivery => exact absurd rfl uncoded.1
    | _ =>
      refine ⟨rfl, rfl, fun _ _ => ?_, rfl, fun _ sent => ?_⟩
      · rintro (⟨_, ⟨⟩⟩ | ⟨⟨⟩, -⟩)
      · cases sent
        exact uncoded.2
  | _ =>
    refine ⟨rfl, rfl, fun _ _ => ?_, rfl, nofun⟩
    rintro (⟨_, ⟨⟩⟩ | ⟨⟨⟩, -⟩)

/-- Ordinary programs bring nothing. -/
theorem isAside_of_ends {program : Program α} {result : Except Error α}
    (ordinary : Ordinary session.vault (fun _ => True) program)
    (writes : program.Performs (Effect.Sends Session.Uncoded)) (ends : program.Ends events result) :
    ∀ event ∈ events, (Happening.event event).IsAside := by
  intro event mem
  refine isAside_of_permits session.vault ?_ (writes.ends ends event mem)
  obtain ⟨early, late, rfl⟩ := List.append_of_mem mem
  have granted (event : Event) : Effect.Admits (fun _ => True) event.effect event.reply := by
    obtain ⟨effect, reply⟩ := event
    cases effect <;> first | trivial | exact fun _ _ => trivial
  exact (Program.Meets.ends ordinary (fun event _ => granted event) ends).2 early event late rfl

/-- An answer of the user that is neither a passcode nor a channel for one. -/
theorem isAside_answer {id : Nat} {need : Need} {answer : Answer}
    (noPasscode : (Happening.event ⟨.ask id need, answer⟩).passcode? = none)
    (noChannel : (Happening.event ⟨.ask id need, answer⟩).chosen? = none) :
    (Happening.event ⟨.ask id need, answer⟩).IsAside where
  passcode := noPasscode
  chosen := noChannel
  settles _ _ := by rintro (⟨_, ⟨⟩⟩ | ⟨⟨⟩, -⟩)
  main := rfl
  own _ := nofun

/-- A passcode that could not be sent. -/
theorem isAside_undelivered {connection : Connection} {request : Request}
    {reply : Except Error Response} (plain : request.header? "X-OTP" = none)
    (failed : ∀ response, reply = .ok response → response.isSuccess = false) :
    (Happening.event ⟨.send connection .otpDelivery request, reply⟩).IsAside where
  passcode := rfl
  chosen := rfl
  settles _ _ := by
    rintro (⟨_, ⟨⟩⟩ | ⟨delivered, -⟩)
    cases reply with
    | error error => exact delivered
    | ok response => cases (failed response rfl).symm.trans delivered
  main := rfl
  own _ sent := by
    cases sent
    exact plain

end Happening

namespace Session

open Happening

/-- A request is sent over a connection, unless that cannot be made. -/
theorem ends_send {purpose : Purpose} {request : Request} {result : Except Error Response}
    (ends : (session.send purpose request).Ends events result) :
    (∃ error, result = .error error ∧ ∀ event ∈ events, (Happening.event event).IsAside) ∨
      ∃ early connection, events = early ++ [⟨.send connection purpose request, result⟩] ∧
        ∀ event ∈ early, (Happening.event event).IsAside := by
  have plain {events : List Event} {result : Except Error Connection}
      (ends : session.connection.Ends events result) :=
    isAside_of_ends (ordinary_connection fun _ _ => trivial) writes_connection ends
  obtain ⟨error, failed, rfl⟩ | ⟨connection, early, late, rfl, connected, ends⟩ := Ends.of_bind ends
  · exact .inl ⟨error, rfl, plain failed⟩
  · obtain ⟨reply, _, rfl, rfl, rfl⟩ := ends
    exact .inr ⟨early, connection, rfl, plain connected⟩

theorem isAside_of_prepare {ctx : Context} {result : Except Error Request}
    (ends : (session.prepare ctx).Ends events result) :
    ∀ event ∈ events, (Happening.event event).IsAside :=
  isAside_of_ends (ordinary_prepare (fun _ _ => trivial) ctx) (letters_uncoded.prepare ctx) ends

/-- **What is prepared** is the request with device headers, an access token if there is one, and
what the user supplied. -/
theorem exists_of_prepare {ctx : Context} {request : Request}
    (ends : (session.prepare ctx).Ends events (.ok request)) :
    ∃ token registration,
      request = decorate ctx token (session.headed ctx.request registration) := by
  obtain ⟨_, _, same⟩ | ⟨_, _, _, rfl, -, ends⟩ := Ends.of_bind ends
  · cases same
  obtain ⟨_, _, same⟩ | ⟨_, _, _, rfl, -, ends⟩ := Ends.of_bind ends
  · cases same
  obtain ⟨_, _, same⟩ | ⟨token, _, _, rfl, -, ends⟩ := Ends.of_bind ends
  · cases same
  rw [withDeviceHeaders_eq] at ends
  obtain ⟨_, _, same⟩ | ⟨_, _, _, rfl, found, ends⟩ := Ends.of_bind ends
  · cases same
  obtain ⟨_, _, same⟩ | ⟨registration, _, _, rfl, -, headed⟩ := Ends.of_bind found
  · cases same
  cases headed.2
  cases ends.2
  exact ⟨token, registration, rfl⟩

section

variable {ctx : Context} {token : Option AccessToken} {request : Request}

theorem header?_setHeaderIfSome {name : String} (value : Option String)
    (absent : request.header? name = none) :
    (setHeaderIfSome request name value).header? name = value := by
  cases value with
  | none => exact absent
  | some value => exact request.header?_setHeader name value

/-- A decorated request carries the passcode of the context. -/
theorem otp_decorate (absent : request.header? "X-OTP" = none) :
    (decorate ctx token request).header? "X-OTP" = ctx.otp? := by
  rw [decorate, header?_setHeaderIfSome_of_not_same _ _ (by decide), header?_setHeaderIfSome]
  rwa [header?_setHeaderIfSome_of_not_same _ _ (by decide)]

/-- A decorated request carries the channel of the context. -/
theorem otpChannel_decorate (absent : request.header? "X-OTP-CHANNEL" = none) :
    (decorate ctx token request).header? "X-OTP-CHANNEL" = ctx.otpChannel? := by
  rw [decorate, header?_setHeaderIfSome]
  rwa [header?_setHeaderIfSome_of_not_same _ _ (by decide),
    header?_setHeaderIfSome_of_not_same _ _ (by decide)]

/-- What is prepared from a context carries what is due after the log that it agrees with. -/
theorem carries_of_prepare {log : List Happening} (h : Agrees log ctx)
    (bare : ctx.request.IsBare) (ends : (session.prepare ctx).Ends events (.ok request)) :
    Happening.Carries log request := by
  obtain ⟨token, registration, rfl⟩ := exists_of_prepare ends
  constructor
  · intro value
    rw [← h.passcode, otp_decorate]
    rw [header?_headed _ _ (by decide) (by decide)]
    exact bare.1
  · intro value
    rw [← h.channel, otpChannel_decorate]
    rw [header?_headed _ _ (by decide) (by decide)]
    exact bare.2

end

/-- **Having a passcode sent** brings nothing if it fails. If not, it ends with a success of the
gateway. -/
theorem ends_deliverOtp {channel : String} {result : Except Error Unit}
    (ends : (session.deliverOtp channel).Ends events result) :
    (∃ error, result = .error error ∧ ∀ event ∈ events, (Happening.event event).IsAside) ∨
      ∃ early connection request response, result = .ok () ∧
        events = early ++ [⟨.send connection .otpDelivery request, .ok response⟩] ∧
        (∀ event ∈ early, (Happening.event event).IsAside) ∧ response.isSuccess = true ∧
        request.header? "X-OTP" = none := by
  have looked {events : List Event} {result : Except Error (Option DeviceIdentity)}
      (ends : session.deviceIdentity.Ends events result) :=
    isAside_of_ends (ordinary_deviceIdentity fun _ _ => trivial) writes_deviceIdentity ends
  rw [deliverOtp, withDeviceHeaders_eq, bind_assoc] at ends
  obtain ⟨error, failed, rfl⟩ | ⟨registration, early, late, rfl, found, ends⟩ := Ends.of_bind ends
  · exact .inl ⟨error, rfl, looked failed⟩
  rw [pure_bind, sendChecked, bind_assoc] at ends
  generalize made : session.headed _ registration = request at ends
  have plain : request.header? "X-OTP" = none := by
    rw [← made, header?_headed _ _ (by decide) (by decide),
      Request.header?_setHeader_of_not_same _ _ (by decide)]
    rfl
  obtain ⟨error, failed, rfl⟩ | ⟨response, mid, last, rfl, sent, answered⟩ :=
    Ends.of_bind ends
  · refine .inl ⟨error, rfl, fun event mem => ?_⟩
    obtain mem | mem := List.mem_append.1 mem
    · exact looked found event mem
    obtain ⟨_, -, asides⟩ | ⟨before, connection, rfl, asides⟩ := ends_send failed
    · exact asides event mem
    obtain mem | mem := List.mem_append.1 mem
    · exact asides event mem
    · obtain rfl := List.mem_singleton.1 mem
      exact isAside_undelivered plain nofun
  obtain ⟨_, same, -⟩ | ⟨before, connection, rfl, asides⟩ := ends_send sent
  · cases same
  have early' (event : Event) (mem : event ∈ early ++ before) :
      (Happening.event event).IsAside := by
    obtain mem | mem := List.mem_append.1 mem
    · exact looked found event mem
    · exact asides event mem
  rw [Response.checked] at answered
  split at answered
  next success =>
    obtain ⟨rfl, rfl⟩ := answered
    exact .inr ⟨early ++ before, connection, request, response, rfl, by simp, early', success,
      plain⟩
  next refused =>
    obtain ⟨rfl, rfl⟩ := answered
    refine .inl ⟨_, rfl, fun event mem => ?_⟩
    rw [List.append_nil, ← List.append_assoc] at mem
    obtain mem | mem := List.mem_append.1 mem
    · exact early' event mem
    · obtain rfl := List.mem_singleton.1 mem
      refine isAside_undelivered plain fun response same => ?_
      cases same
      exact Bool.eq_false_iff.2 refused

end Session

/-! ### Rounds -/

/-- What the result of an execution adds to the log: if it does not wait for input, it is over. -/
def Happening.verdict (result : Except Error Response) : List Happening :=
  if Queue.isParking result then [] else [.ended]

namespace Happening

variable {log : List Happening} {ctx : Context} {result : Except Error Response}

/-- The verdict makes no difference to the context. -/
theorem Agrees.verdict (h : Agrees log ctx) : Agrees (log ++ verdict result) ctx := by
  rw [Happening.verdict]
  split
  · rwa [List.append_nil]
  · exact h.aside isAside_ended

theorem Tracks.verdict (h : Tracks log ctx) : Tracks (log ++ verdict result) ctx := by
  rw [Happening.verdict]
  split
  · rwa [List.append_nil]
  · exact h.aside isAside_ended

/-- **The request itself is answered**, and the passcode that it carried is dropped. -/
theorem Tracks.answered (h : Tracks log ctx) {connection : Connection} {id : Nat}
    {request : Request} {response : Response}
    (carries : ctx.request.IsBare → Carries log request) :
    Tracks (log ++ [.event ⟨.send connection (.caller id) request, .ok response⟩])
      ctx.countAttempt.withoutOtp :=
  ⟨h.toAgrees.answered carries, h.heard.append_singleton fun _ => .inl trivial⟩

/-- **The request itself is not answered**, and that is the result. -/
theorem Tracks.unanswered (h : Tracks log ctx) {connection : Connection} {id : Nat}
    {request : Request} {error : Error} (carries : ctx.request.IsBare → Carries log request) :
    Tracks (log ++ [.event ⟨.send connection (.caller id) request, .error error⟩] ++
      Happening.verdict (.error error)) ctx.countAttempt := by
  refine ⟨(h.toAgrees.unanswered carries).verdict, ?_⟩
  cases error with
  | awaitingInput obstacle =>
    rw [Happening.verdict, Queue.isParking, if_pos rfl, List.append_nil]
    exact h.heard.append_singleton fun _ => .inr trivial
  | _ =>
    rw [Happening.verdict, if_neg (by simp [Queue.isParking])]
    exact h.heard.append_ended _

end Happening

open Happening

/-- Whether two contexts are for the same request. -/
structure Context.Same (first second : Context) : Prop where
  id : first.id = second.id
  request : first.request = second.request

theorem Context.Same.trans {first second third : Context} (h : first.Same second)
    (h' : second.Same third) : first.Same third :=
  ⟨h.id.trans h'.id, h.request.trans h'.request⟩

/-- Whether the context agrees with a log after an attempt. It is for the same request. -/
def Round.Tracked (log : List Happening) (first : Context) {ctx : Context} : Round ctx → Prop
  | .finished result last => last.Same first ∧ Tracks (log ++ verdict result) last
  | .again next _ => next.Same first ∧ Tracks log next

/-- Nothing more is done in an attempt. -/
theorem Round.tracked_of_pure {ctx first : Context} {round : Round ctx} {log : List Happening}
    {result : Except Error (Round ctx)}
    (ends : (pure round : Program (Round ctx)).Ends events result) (h : round.Tracked log first) :
    ∃ last, result = .ok last ∧ last.Tracked (log ++ events.map .event) first := by
  obtain ⟨rfl, rfl⟩ := ends
  rw [List.map_nil, List.append_nil]
  exact ⟨round, rfl, h⟩

theorem Round.Tracked.earlier {first later start : Context} {round : Round later}
    {log : List Happening} (h : round.Tracked log later) (same : later.Same first)
    (le : later.allowance ≤ start.allowance) : (round.earlier le).Tracked log first := by
  cases round <;> exact ⟨h.1.trans same, h.2⟩

/-- An attempt ends as a later part of it does. -/
theorem Round.tracked_of_earlier {first later start : Context} {log : List Happening}
    {program : Program (Round later)} {le : later.allowance ≤ start.allowance}
    {result : Except Error (Round start)}
    (ends : (program >>= fun round => pure (round.earlier le)).Ends events result)
    (tracked : ∀ {events : List Event} {result : Except Error (Round later)},
      program.Ends events result →
        ∃ round, result = .ok round ∧ round.Tracked (log ++ events.map .event) later)
    (same : later.Same first) :
    ∃ round, result = .ok round ∧ round.Tracked (log ++ events.map .event) first := by
  obtain ⟨_, failed, -⟩ | ⟨round, early, late, rfl, ended, rest⟩ := Ends.of_bind ends
  · obtain ⟨_, ok, -⟩ := tracked failed
    cases ok
  obtain ⟨_, ok, tracked⟩ := tracked ended
  cases ok
  obtain ⟨rfl, rfl⟩ := rest
  rw [List.append_nil]
  exact ⟨_, rfl, tracked.earlier same le⟩

namespace Session

variable {log : List Happening}

/-- **Asking the user** brings what the log says. -/
theorem recover_tracked {obstacle : Obstacle} {need : Need} {ctx : Context}
    {result : Except Error (Round ctx)} (h : Tracks log ctx)
    (ends : (session.recover obstacle need ctx).Ends events result) :
    ∃ round, result = .ok round ∧ round.Tracked (log ++ events.map .event) ctx := by
  induction need, ctx using session.recover_induction obstacle generalizing events log with
  | exhausted need ctx _ eq =>
    have counted : Tracks log ctx.countRecovery := h.recount rfl rfl
    rw [eq] at ends
    exact Round.tracked_of_pure ends ⟨⟨rfl, rfl⟩, counted.verdict⟩
  | asks need ctx more eq again =>
    have counted : Tracks log ctx.countRecovery := h.recount rfl rfl
    rw [eq] at ends
    obtain ⟨answer, rest, rfl, ends⟩ := ends
    rw [List.map_cons, List.append_cons]
    cases answer with
    | credentials credential =>
      obtain ⟨_, _, rfl, rfl, rfl⟩ := ends
      exact ⟨_, rfl, ⟨rfl, rfl⟩, (counted.aside (isAside_answer rfl rfl)).asides
        (List.forall_mem_singleton.2 (isAside_of_permits session.vault trivial trivial))⟩
    | otp passcode =>
      exact Round.tracked_of_pure ends
        ⟨⟨rfl, rfl⟩, counted.append_singleton rfl counted.toAgrees.withOtp⟩
    | unlocked =>
      exact Round.tracked_of_pure ends ⟨⟨rfl, rfl⟩, counted.aside (isAside_answer rfl rfl)⟩
    | deferred =>
      exact Round.tracked_of_pure ends
        ⟨⟨rfl, rfl⟩, (counted.aside (isAside_answer rfl rfl)).verdict⟩
    | cancelled =>
      exact Round.tracked_of_pure ends
        ⟨⟨rfl, rfl⟩, (counted.aside (isAside_answer rfl rfl)).verdict⟩
    | otpChannel channel =>
      have chose : Tracks (log ++ [.event ⟨.ask ctx.id need, .otpChannel channel⟩])
          ctx.countRecovery := counted.append_singleton rfl counted.toAgrees.choose
      have chosen :
          ChannelChosen (log ++ [.event ⟨.ask ctx.id need, .otpChannel channel⟩]) channel :=
        channelChosen_append_singleton.2 (.inl rfl)
      have ends : ((session.deliverOtp channel).attempt >>= _).Ends rest result := ends
      obtain ⟨delivered, early, late, rfl, within, further⟩ := Ends.of_rescue ends
      rw [List.map_append, ← List.append_assoc]
      obtain ⟨error, rfl, asides⟩ |
        ⟨before, connection, request, response, rfl, rfl, asides, success, plain⟩ :=
          ends_deliverOtp within
      · exact Round.tracked_of_pure further ⟨⟨rfl, rfl⟩, (chose.asides asides).verdict⟩
      have sent : Tracks (log ++ [.event ⟨.ask ctx.id need, .otpChannel channel⟩] ++
          (before ++ [(⟨.send connection .otpDelivery request, .ok response⟩ : Event)]).map .event)
          (ctx.countRecovery.withOtpChannel channel) := by
        rw [List.map_append, ← List.append_assoc]
        exact (chose.asides asides).append_singleton rfl
          ((chose.asides asides).toAgrees.withOtpChannel (chosen.asides asides) success plain)
      exact Round.tracked_of_earlier further (fun asked => again channel sent asked) ⟨rfl, rfl⟩

theorem isAside_of_react {error : Error} {result : Except Error Reaction}
    (ends : (session.react error).Ends events result) :
    ∀ event ∈ events, (Happening.event event).IsAside :=
  isAside_of_ends (ordinary_react (fun _ _ => trivial) error) (writes_react error) ends

/-- What follows a failure before the request is sent. -/
theorem afterUnsent_tracked {ctx : Context} {error : Error} {result : Except Error (Round ctx)}
    (h : Tracks log ctx) (ends : (session.afterUnsent ctx error).Ends events result) :
    ∃ round, result = .ok round ∧ round.Tracked (log ++ events.map .event) ctx := by
  obtain ⟨reacted, early, late, rfl, reacting, further⟩ := Ends.of_rescue ends
  have reached : Tracks (log ++ early.map .event) ctx := h.asides (isAside_of_react reacting)
  have counted : Tracks (log ++ early.map .event) ctx.countAttempt := reached.recount rfl rfl
  rw [List.map_append, ← List.append_assoc]
  cases reacted with
  | error failure =>
    exact Round.tracked_of_pure further ⟨⟨rfl, rfl⟩, reached.verdict⟩
  | ok reaction =>
  cases reaction with
  | giveUp =>
    exact Round.tracked_of_pure further ⟨⟨rfl, rfl⟩, reached.verdict⟩
  | retry =>
    have further : Ends (if h : ctx.countAttempt.attempts < Context.maxAttempts then _ else _) late
      result := further
    split at further
    · exact Round.tracked_of_pure further ⟨⟨rfl, rfl⟩, counted⟩
    · exact Round.tracked_of_pure further ⟨⟨rfl, rfl⟩, counted.verdict⟩
  | recover obstacle => exact recover_tracked reached further

/-- What follows a response that is not a success. -/
theorem afterRefusal_tracked {ctx : Context} {response : Response}
    {result : Except Error (Round ctx)} (h : Tracks log ctx.countAttempt.withoutOtp)
    (ends : (session.afterRefusal ctx response).Ends events result) :
    ∃ round, result = .ok round ∧ round.Tracked (log ++ events.map .event) ctx := by
  obtain ⟨reacted, early, late, rfl, reacting, further⟩ := Ends.of_rescue ends
  have reached : Tracks (log ++ early.map .event) ctx.countAttempt.withoutOtp :=
    h.asides (isAside_of_react reacting)
  rw [List.map_append, ← List.append_assoc]
  cases reacted with
  | error failure =>
    exact Round.tracked_of_pure further ⟨⟨rfl, rfl⟩, reached.verdict⟩
  | ok reaction =>
  cases reaction with
  | giveUp =>
    exact Round.tracked_of_pure further ⟨⟨rfl, rfl⟩, reached.verdict⟩
  | retry =>
    have further : Ends (if h : ctx.countAttempt.attempts < Context.maxAttempts then _ else _) late
      result := further
    split at further
    · exact Round.tracked_of_pure further ⟨⟨rfl, rfl⟩, reached⟩
    · exact Round.tracked_of_pure further ⟨⟨rfl, rfl⟩, reached.verdict⟩
  | recover obstacle =>
    have further : Ends (if h : ctx.countAttempt.attempts < Context.maxAttempts then _ else _) late
      result := further
    split at further
    · exact Round.tracked_of_earlier further (recover_tracked reached) ⟨rfl, rfl⟩
    · exact Round.tracked_of_pure further ⟨⟨rfl, rfl⟩, reached.verdict⟩

/-- **One attempt.** What is sent carries what is due, and the context agrees with the log
afterwards. -/
theorem round_tracked {ctx : Context} {result : Except Error (Round ctx)} (h : Tracks log ctx)
    (ends : (session.round ctx).Ends events result) :
    ∃ round, result = .ok round ∧ round.Tracked (log ++ events.map .event) ctx := by
  obtain ⟨prepared, early, late, rfl, preparing, further⟩ := Ends.of_rescue ends
  have reached : Tracks (log ++ early.map .event) ctx := h.asides (isAside_of_prepare preparing)
  rw [List.map_append, ← List.append_assoc]
  cases prepared with
  | error error => exact afterUnsent_tracked reached further
  | ok request =>
  obtain ⟨sent, before, after, rfl, sending, answered⟩ := Ends.of_rescue further
  rw [List.map_append, ← List.append_assoc]
  obtain ⟨error, rfl, asides⟩ | ⟨before, connection, rfl, asides⟩ := ends_send sending
  · -- No connection could be made.
    have unsent : Tracks (log ++ early.map .event ++ before.map .event) ctx.countAttempt :=
      (reached.asides asides).recount rfl rfl
    exact Round.tracked_of_pure answered ⟨⟨rfl, rfl⟩, unsent.verdict⟩
  have connected : Tracks (log ++ early.map .event ++ before.map .event) ctx :=
    reached.asides asides
  have carries (bare : ctx.request.IsBare) := carries_of_prepare connected.toAgrees bare preparing
  rw [List.map_append, List.map_singleton, ← List.append_assoc]
  cases sent with
  | error error =>
    exact Round.tracked_of_pure answered ⟨⟨rfl, rfl⟩, connected.unanswered carries⟩
  | ok response =>
    have spent : Tracks (log ++ early.map .event ++ before.map .event ++
        [.event ⟨.send connection (.caller ctx.id) request, .ok response⟩])
        ctx.countAttempt.withoutOtp := connected.answered carries
    have answered : Ends (if response.isSuccess then _ else _) after result := answered
    split at answered
    · exact Round.tracked_of_pure answered ⟨⟨rfl, rfl⟩, spent.verdict⟩
    · exact afterRefusal_tracked spent answered

/-! ### Executions -/

/-- **A whole execution**, whoever answers: if the context agrees with the log of its request before
it, it does so afterwards. -/
theorem execute_tracked {ctx : Context} {result : Except Error (Except Error Response × Context)}
    (h : Tracks log ctx) (ends : (session.execute ctx).Ends events result) :
    ∃ outcome last, result = .ok (outcome, last) ∧ last.Same ctx ∧
      Tracks (log ++ events.map .event ++ verdict outcome) last := by
  induction ctx using Context.allowance_induction generalizing events result log with
  | step ctx ih =>
  rw [execute] at ends
  obtain ⟨error, failed, -⟩ | ⟨round, early, late, rfl, ran, further⟩ := Ends.of_bind ends
  · obtain ⟨_, same, -⟩ := round_tracked h failed
    cases same
  obtain ⟨_, same, tracked⟩ := round_tracked h ran
  cases same
  rw [List.map_append, ← List.append_assoc]
  cases round with
  | finished outcome last =>
    obtain ⟨rfl, rfl⟩ := further
    rw [List.map_nil, List.append_nil]
    exact ⟨outcome, last, rfl, tracked⟩
  | again next less =>
    obtain ⟨same, tracked⟩ := tracked
    obtain ⟨outcome, last, rfl, kept, tracked⟩ := ih _ less tracked further
    exact ⟨outcome, last, rfl, kept.trans same, tracked⟩

/-! ### Executions at a gateway that demands a passcode -/

open Surroundings (demanding demand)

/-- What is done to prepare a request where the device is registered. -/
def preparing (ctx : Context) : List Event :=
  ((confidential.prepare ctx).trace demanding ()).map (·.toEvent)

/-- The connection is at hand. -/
def ready : Event := ⟨.connection, some ⟨none⟩⟩

/-- The request is sent. -/
def sending (ctx : Context) (reply : Except Error Response) : Event :=
  ⟨.send ⟨none⟩ (.caller ctx.id) (demandedRequest ctx), reply⟩

/-- What is done on one attempt on a request: it is prepared and sent, and something follows. -/
def attempt (ctx : Context) (reply : Except Error Response) (rest : List Event) : List Event :=
  preparing ctx ++ ([ready, sending ctx reply] ++ rest)

/-- The user is asked for a passcode. -/
def wanted (ctx : Context) (answer : Answer) : Event := ⟨.ask ctx.id (.otp [] none), answer⟩

/-- An attempt that ends with a result ends the execution. -/
theorem ends_execute_of_finished {ctx last : Context} {result : Except Error Response}
    (tried : (session.round ctx).Ends events (.ok (.finished result last))) :
    (session.execute ctx).Ends events (.ok (result, last)) := by
  rw [execute, ← List.append_nil events]
  exact (Ends.bind_iff tried).2 ⟨rfl, rfl⟩

section

variable {ctx : Context} {rest : List Event} (isPublic : ctx.request.isPublic = true)

include isPublic

theorem ends_preparing :
    (confidential.prepare ctx).Ends (preparing ctx) (.ok (demandedRequest ctx)) := by
  have ends := Program.ends_trace demanding (confidential.prepare ctx) ()
  rwa [run_prepare_registration rfl rfl rfl isPublic] at ends

/-- A request is prepared and sent, and what follows depends on the answer. -/
theorem ends_attempt_iff {reply : Except Error Response} {result : Except Error (Round ctx)} :
    (confidential.round ctx).Ends (attempt ctx reply rest) result ↔
      Ends (match reply with
        | .error error => pure (.finished (.error error) ctx.countAttempt)
        | .ok response =>
          if response.isSuccess then pure (.finished (.ok response) ctx.countAttempt.withoutOtp)
          else confidential.afterRefusal ctx response) rest result := by
  have sent : (confidential.send (.caller ctx.id) (demandedRequest ctx)).Ends
      [ready, sending ctx reply] reply := ⟨_, _, rfl, _, _, rfl, rfl, rfl⟩
  exact (Ends.bind_iff (ends_preparing isPublic).attempt).trans (Ends.bind_iff sent.attempt)

variable (ctx)

/-- The request is not answered. -/
theorem ends_execute_unanswered (error : Error) :
    (confidential.execute ctx).Ends (attempt ctx (.error error) [])
      (.ok (.error error, ctx.countAttempt)) :=
  ends_execute_of_finished ((ends_attempt_iff isPublic).2 ⟨rfl, rfl⟩)

/-- The request is answered with a success. -/
theorem ends_execute_answered :
    (confidential.execute ctx).Ends (attempt ctx (.ok { status := 200 }) [])
      (.ok (.ok { status := 200 }, ctx.countAttempt.withoutOtp)) :=
  ends_execute_of_finished ((ends_attempt_iff isPublic).2 ⟨rfl, rfl⟩)

variable (left : ctx.countAttempt.attempts < Context.maxAttempts)
  (more : ¬Context.maxRecoveries < ctx.countRecovery.recoveries)

include left more

/-- A passcode is demanded, and the user defers. -/
theorem ends_execute_deferred :
    (confidential.execute ctx).Ends (attempt ctx (.ok demand) [wanted ctx .deferred])
      (.ok (.error (.awaitingInput .otpRequired), afterDemand ctx)) := by
  have refused : demand.isSuccess = false := by decide
  have reacted : (confidential.react demand.refusal).Ends [] (.ok (.recover .otpRequired)) :=
    ⟨rfl, rfl⟩
  have more' : ¬Context.maxRecoveries < ctx.countAttempt.withoutOtp.countRecovery.recoveries := more
  refine ends_execute_of_finished ((ends_attempt_iff isPublic).2 ?_)
  simp only [refused, Bool.false_eq_true, if_false]
  refine (Ends.bind_iff reacted.attempt).2 ?_
  simp only [left, dite_true]
  rw [recover, dif_neg more']
  exact ⟨_, _, rfl, rfl, rfl⟩

/-- A passcode is demanded, and the user supplies it; then there is another attempt. -/
theorem ends_execute_collected {code : String}
    {result : Except Error (Except Error Response × Context)}
    (ends : (confidential.execute ((afterDemand ctx).withOtp code)).Ends rest result) :
    (confidential.execute ctx).Ends (attempt ctx (.ok demand) [wanted ctx (.otp code)] ++ rest)
      result := by
  have refused : demand.isSuccess = false := by decide
  have reacted : (confidential.react demand.refusal).Ends [] (.ok (.recover .otpRequired)) :=
    ⟨rfl, rfl⟩
  have more' : ¬Context.maxRecoveries < ctx.countAttempt.withoutOtp.countRecovery.recoveries := more
  have less : ((afterDemand ctx).withOtp code).allowance < ctx.allowance :=
    Nat.lt_trans (Context.allowance_countRecovery_lt more')
      (Context.allowance_countAttempt_lt left)
  have tried : (confidential.round ctx).Ends (attempt ctx (.ok demand) [wanted ctx (.otp code)])
      (.ok (.again ((afterDemand ctx).withOtp code) less)) := by
    refine (ends_attempt_iff isPublic).2 ?_
    simp only [refused, Bool.false_eq_true, if_false]
    refine (Ends.bind_iff reacted.attempt).2 ?_
    simp only [left, dite_true]
    rw [recover, dif_neg more']
    exact ⟨_, _, rfl, rfl, rfl⟩
  rw [execute]
  exact (Ends.bind_iff tried).2 ends

end

/-- What happens on an attempt: nothing before the request is sent is more than an aside. -/
theorem map_attempt (ctx : Context) (reply : Except Error Response) (rest : List Event) :
    (attempt ctx reply rest).map .event =
      (preparing ctx ++ [ready]).map .event ++ Happening.event (sending ctx reply) ::
        rest.map .event := by
  simp [attempt]

theorem isAside_preparing {ctx : Context} (isPublic : ctx.request.isPublic = true) :
    ∀ event ∈ preparing ctx ++ [ready], (Happening.event event).IsAside := by
  intro event mem
  obtain mem | mem := List.mem_append.1 mem
  · exact isAside_of_prepare (ends_preparing isPublic) event mem
  · obtain rfl := List.mem_singleton.1 mem
    exact isAside_of_permits confidential.vault trivial trivial

/-- The request that is prepared after a passcode has come carries it. -/
theorem header?_demandedRequest {ctx : Context} {code : String} (present : ctx.otp? = some code)
    (bare : ctx.request.IsBare) : (demandedRequest ctx).header? "X-OTP" = some code := by
  refine (otp_decorate ?_).trans present
  rw [Request.header?_setHeader_of_not_same _ _ (by decide),
    Request.header?_setHeader_of_not_same _ _ (by decide)]
  exact bare.1

end Session

end GatewaySession
