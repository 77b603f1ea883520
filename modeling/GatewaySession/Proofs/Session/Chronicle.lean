import GatewaySession.Proofs.Exchange.Attempt
import GatewaySession.Proofs.Program.Trace
import GatewaySession.Proofs.Session.Composition
import GatewaySession.Proofs.Vault.Watching
import Mathlib.Data.List.Induction

/-!
# Chronicles

A chronicle remembers what a program has done since the last request of a caller was answered, and
that answer. Some properties of a session are rules about single writes and single requests: they
may only be made if something has happened before. A chronicle is what such a rule looks at.

Most of what a session does only adds to the chronicle. So whatever stays true when something is
added stays true while a program of that kind runs, and a program is known by what it has added for
certain when it ends: a removal, a write, or a blob that was found.

## Main definitions

* `Stretch` — the answer to the last request of a caller, and the events since
* `Stretch.Leads`, `Stretch.Gains` — something was added, and an event of some kind is among it
* `Vault.chronicle` — the watch of a rule on writes and requests

## Main results

* `Vault.closed_chronicle` — programs that only add
* `Vault.gains_clear`, `Vault.gains_store`, `Vault.gains_readable` — what is added for certain
* `Vault.meets_sendDecorated` — a request with the device headers
-/

namespace GatewaySession

open Program (Meets Closed)

/-- The answer to the last request of a caller, and what happened since. -/
structure Stretch where
  /-- The answer, if there was a request. -/
  answer : Option (Except Error Response)
  /-- What happened since, the earliest first. -/
  since : List Event

namespace Stretch

/-- Adds an effect with its answer. A request of a caller begins anew. -/
def add (stretch : Stretch) : (effect : Effect) → effect.Reply → Stretch
  | .send _ (.caller _) _, reply => ⟨some reply, []⟩
  | effect, reply => ⟨stretch.answer, stretch.since ++ [⟨effect, reply⟩]⟩

theorem add_eq (stretch : Stretch) {effect : Effect} (own : effect.isCallerSend = false)
    (reply : effect.Reply) :
    stretch.add effect reply = ⟨stretch.answer, stretch.since ++ [⟨effect, reply⟩]⟩ := by
  cases effect with
  | send connection purpose request =>
    cases purpose with
    | caller id => cases own
    | _ => rfl
  | _ => rfl

/-- Whether something, or nothing, was added. -/
def Leads (first second : Stretch) : Prop :=
  ∃ new, second = ⟨first.answer, first.since ++ new⟩

/-- Whether something was added with an event of some kind among it. -/
def Gains (kind : Event → Prop) (first second : Stretch) : Prop :=
  ∃ new, second = ⟨first.answer, first.since ++ new⟩ ∧ ∃ event ∈ new, kind event

variable {first second third : Stretch} {kind : Event → Prop}

theorem Leads.refl (stretch : Stretch) : stretch.Leads stretch :=
  ⟨[], by rw [List.append_nil]⟩

theorem Leads.trans (h : first.Leads second) (h' : second.Leads third) : first.Leads third := by
  obtain ⟨new, rfl⟩ := h
  obtain ⟨more, rfl⟩ := h'
  exact ⟨new ++ more, by rw [List.append_assoc]⟩

theorem Leads.mem (h : first.Leads second) {event : Event} (mem : event ∈ first.since) :
    event ∈ second.since := by
  obtain ⟨new, rfl⟩ := h
  exact List.mem_append_left _ mem

theorem leads_add (stretch : Stretch) (effect : Effect) (own : effect.isCallerSend = false)
    (reply : effect.Reply) : stretch.Leads (stretch.add effect reply) :=
  ⟨_, stretch.add_eq own reply⟩

theorem Gains.leads (h : Gains kind first second) : first.Leads second := by
  obtain ⟨new, eq, -⟩ := h
  exact ⟨new, eq⟩

theorem Gains.mem (h : Gains kind first second) : ∃ event ∈ second.since, kind event := by
  obtain ⟨new, rfl, event, mem, holds⟩ := h
  exact ⟨event, List.mem_append_right _ mem, holds⟩

theorem Gains.mono {kind' : Event → Prop} (h : Gains kind first second)
    (weaker : ∀ event, kind event → kind' event) : Gains kind' first second := by
  obtain ⟨new, eq, event, mem, holds⟩ := h
  exact ⟨new, eq, event, mem, weaker event holds⟩

theorem Gains.after (h : first.Leads second) (h' : Gains kind second third) :
    Gains kind first third := by
  obtain ⟨new, rfl⟩ := h
  obtain ⟨more, rfl, event, mem, holds⟩ := h'
  exact ⟨new ++ more, by rw [List.append_assoc], event, List.mem_append_right _ mem, holds⟩

theorem Gains.before (h : Gains kind first second) (h' : second.Leads third) :
    Gains kind first third := by
  obtain ⟨new, rfl, event, mem, holds⟩ := h
  obtain ⟨more, rfl⟩ := h'
  exact ⟨new ++ more, by rw [List.append_assoc], event, List.mem_append_left _ mem, holds⟩

theorem gains_add (stretch : Stretch) (effect : Effect) (own : effect.isCallerSend = false)
    {reply : effect.Reply} (holds : kind ⟨effect, reply⟩) :
    Gains kind stretch (stretch.add effect reply) :=
  ⟨_, stretch.add_eq own reply, _, List.mem_singleton_self _, holds⟩

/-- What was gained stays while a program runs that only adds. -/
theorem Gains.keeps {watch : Watch Stretch} {start : Stretch → Prop} {α : Type}
    {program : Program α} (h : Gains kind first second) (started : start second)
    (rest : watch.Keeps start Leads α program) :
    program.Meets watch (fun last _ => Gains kind first last) second :=
  (rest second started).mono fun _ _ ⟨_, led⟩ => h.before led

/-- What was gained came after everything before. -/
theorem Gains.exists_append (h : Gains kind first second) :
    ∃ early event late, second.since = early ++ event :: late ∧ kind event ∧
      ∀ other ∈ first.since, other ∈ early := by
  obtain ⟨new, rfl, event, mem, holds⟩ := h
  obtain ⟨early, late, rfl⟩ := List.append_of_mem mem
  exact ⟨first.since ++ early, event, late, by rw [List.append_assoc], holds,
    fun _ => List.mem_append_left _⟩

end Stretch

open Stretch (Leads Gains)

/-! ### The watch -/

/-- Whether an effect is subject to rules. -/
def Effect.isRuled : Effect → Bool
  | .write _ _ | .send _ _ _ => true
  | _ => false

/-- The watch of a rule on writes and requests, which may look at the chronicle. The vault is sealed
with one key. -/
def Vault.chronicle (vault : Vault) (key : Aes256.Key) (rule : Stretch → Effect → Prop) :
    Watch Stretch where
  permits stretch effect := effect.isRuled = true → rule stretch effect
  grants := vault.Keyed key
  next := Stretch.add

namespace Vault

variable {vault : Vault} {key : Aes256.Key} {rule : Stretch → Effect → Prop}
  {kind : Stretch → Prop} {α : Type} {stretch : Stretch}

/-- The key that a chronicle takes for granted. -/
theorem chronicle_own (other : Aes256.Key)
    (granted : (vault.chronicle key rule).grants (.sealingKey vault.name) (.ok other)) :
    other = key := granted rfl

/-- What a chronicle that began blank has since the last request of a caller is the end of the
past. -/
theorem exists_since (past : List Event) :
    ∃ older, past = older ++ ((vault.chronicle key rule).markAfter ⟨none, []⟩ past).since := by
  induction past using List.reverseRecOn with
  | nil => exact ⟨[], rfl⟩
  | append_singleton past event ih =>
    obtain ⟨older, same⟩ := ih
    obtain ⟨effect, reply⟩ := event
    rw [Watch.markAfter_append]
    cases own : effect.isCallerSend with
    | false =>
      refine ⟨older, ?_⟩
      rw [show (vault.chronicle key rule).next = Stretch.add from rfl, Stretch.add_eq _ own,
        ← List.append_assoc, ← same]
    | true =>
      cases effect with
      | send connection purpose request =>
        cases purpose with
        | caller id => exact ⟨past ++ [⟨.send connection (.caller id) request, reply⟩],
            (List.append_nil _).symm⟩
        | _ => cases own
      | _ => cases own

variable (vault key rule) in
/-- **Programs that only add**, from chronicles of a kind to which adding leads again. -/
theorem closed_chronicle (stays : ∀ {first second}, kind first → first.Leads second → kind second) :
    Closed ((vault.chronicle key rule).Keeps kind Leads) := by
  refine Watch.closed_keeps Leads.refl Leads.trans ?_
  intro stretch effect plain start
  have own : effect.isCallerSend = false := by
    cases effect with
    | send => exact plain.elim
    | _ => rfl
  refine ⟨fun ruled => ?_, fun reply => ?_⟩
  · cases effect with
    | write => exact plain.elim
    | send => exact plain.elim
    | _ => cases ruled
  · have added := stretch.leads_add effect own reply
    exact ⟨stays start added, added⟩

/-- An effect that follows the rule, first. -/
theorem keeps_perform (stays : ∀ {first second}, kind first → first.Leads second → kind second)
    {effect : Effect} (own : effect.isCallerSend = false)
    (ruled : ∀ stretch, kind stretch → effect.isRuled = true → rule stretch effect)
    {next : effect.Reply → Program α}
    (h : ∀ reply, (vault.chronicle key rule).Keeps kind Leads α (next reply)) :
    (vault.chronicle key rule).Keeps kind Leads α (.perform effect next) := by
  intro stretch start
  refine ⟨ruled stretch start, fun reply _ => ?_⟩
  have added := stretch.leads_add effect own reply
  exact (h reply _ (stays start added)).mono fun _ _ ⟨kept, more⟩ => ⟨kept, added.trans more⟩

section

variable (stays : ∀ {first second}, kind first → first.Leads second → kind second)

include stays

/-- An effect that no rule is about, first. -/
theorem keeps_unruled {effect : Effect} (free : effect.isRuled = false)
    (own : effect.isCallerSend = false) {next : effect.Reply → Program α}
    (h : ∀ reply, (vault.chronicle key rule).Keeps kind Leads α (next reply)) :
    (vault.chronicle key rule).Keeps kind Leads α (.perform effect next) :=
  keeps_perform stays own (fun _ _ ruled => Bool.noConfusion (free.symm.trans ruled)) h

theorem keeps_guarded {program : Program α}
    (h : (vault.chronicle key rule).Keeps kind Leads α program) :
    (vault.chronicle key rule).Keeps kind Leads α program.guarded := by
  have closed := closed_chronicle vault key rule stays
  exact closed.guarded (keeps_unruled stays rfl rfl fun _ => closed.done _)
    (keeps_unruled stays rfl rfl fun _ => closed.done _) h

theorem keeps_clear (slot : Slot) :
    (vault.chronicle key rule).Keeps kind Leads _ (vault.clear slot) := by
  have closed := closed_chronicle vault key rule stays
  exact keeps_guarded stays (closed.about (keeps_unruled stays rfl rfl fun _ => closed.done _))

theorem keeps_clearAll : (vault.chronicle key rule).Keeps kind Leads _ vault.clearAll := by
  have closed := closed_chronicle vault key rule stays
  exact closed.clearAll (keeps_unruled stays rfl rfl fun _ => closed.done _)
    (keeps_unruled stays rfl rfl fun _ => closed.done _)
    (keeps_unruled stays rfl rfl fun _ => closed.done _)
    fun _ => keeps_unruled stays rfl rfl fun _ => closed.done _

theorem keeps_send {connection : Connection} {purpose : Purpose} {request : Request}
    (own : ∀ id, purpose ≠ .caller id)
    (ruled : ∀ stretch, kind stretch → rule stretch (.send connection purpose request)) :
    (vault.chronicle key rule).Keeps kind Leads _ (Program.send connection purpose request) := by
  have closed := closed_chronicle vault key rule stays
  refine keeps_perform stays ?_ (fun stretch start _ => ruled stretch start)
    fun _ => closed.done _
  cases purpose with
  | caller id => exact absurd rfl (own id)
  | _ => rfl

/-- Filling a slot is a write that has to follow the rule. -/
theorem keeps_store [Record α] {slot : Slot} {value : α}
    (ruled : ∀ stretch, kind stretch → ∀ nonce,
      rule stretch (.write (vault.keyFor slot) (vault.blob key nonce value))) :
    (vault.chronicle key rule).Keeps kind Leads _ (vault.store slot value) := by
  refine keeps_guarded stays fun stretch start => ?_
  have keyed (reply : Except Error Aes256.Key) :=
    stretch.leads_add (.sealingKey vault.name) rfl reply
  refine Watch.meets_write chronicle_own nofun (fun error => ⟨stays start (keyed _), keyed _⟩)
    fun nonce => ⟨nofun, ?_⟩
  have drawn := (keyed (.ok key)).trans (Stretch.leads_add _ .nonce rfl nonce)
  refine ⟨fun _ => ruled _ (stays start drawn) nonce, fun reply => ?_⟩
  have written := drawn.trans (Stretch.leads_add _
    (.write (vault.keyFor slot) (vault.blob key nonce value)) rfl reply)
  exact ⟨stays start written, written⟩

end

/-! ### What is added for certain -/

/-- **Emptying a slot** adds the removal, unless it fails. -/
theorem gains_clear (slot : Slot) (stretch : Stretch) :
    (vault.clear slot).Meets (vault.chronicle key rule) (fun last result => stretch.Leads last ∧
      (result = .ok () → Gains (· = ⟨.remove (vault.keyFor slot), .ok ()⟩) stretch last))
      stretch := by
  have held := stretch.leads_add .hold rfl ()
  refine Watch.meets_guarded nofun (Watch.meets_remove nofun fun reply => ⟨nofun, ?_⟩)
  have removed := held.trans (Stretch.leads_add _ (.remove (vault.keyFor slot)) rfl reply)
  have released (last : Stretch) := last.leads_add .release rfl ()
  refine ⟨removed.trans (released _), fun done => ?_⟩
  cases reply with
  | error error => cases done
  | ok _ =>
    have gained : Gains (· = ⟨.remove (vault.keyFor slot), .ok ()⟩) _ _ :=
      Stretch.gains_add (stretch.add .hold ()) (.remove (vault.keyFor slot)) rfl rfl
    exact (gained.after held).before (released _)

section

variable [Record α]

/-- **Filling a slot** adds the write of the sealed record, unless it fails. -/
theorem gains_store {slot : Slot} {value : α} (ruled : ∀ last, stretch.Leads last → ∀ nonce,
      rule last (.write (vault.keyFor slot) (vault.blob key nonce value))) :
    (vault.store slot value).Meets (vault.chronicle key rule) (fun last result =>
      stretch.Leads last ∧ (result = .ok () → Gains (fun event => ∃ nonce,
        event = ⟨.write (vault.keyFor slot) (vault.blob key nonce value), .ok ()⟩) stretch last))
      stretch := by
  have held := stretch.leads_add .hold rfl ()
  have released (last : Stretch) := last.leads_add .release rfl ()
  have keyed (reply : Except Error Aes256.Key) :=
    held.trans (Stretch.leads_add _ (.sealingKey vault.name) rfl reply)
  refine Watch.meets_guarded nofun (Watch.meets_write chronicle_own nofun
    (fun error => ⟨nofun, (keyed _).trans (released _), nofun⟩) fun nonce => ⟨nofun, ?_⟩)
  have drawn := (keyed (.ok key)).trans (Stretch.leads_add _ .nonce rfl nonce)
  refine ⟨fun _ => ruled _ drawn nonce, fun reply => ⟨nofun, ?_⟩⟩
  have written := drawn.trans (Stretch.leads_add _
    (.write (vault.keyFor slot) (vault.blob key nonce value)) rfl reply)
  refine ⟨written.trans (released _), fun done => ?_⟩
  cases reply with
  | error error => cases done
  | ok _ =>
    have gained (last : Stretch) : Gains (fun event => ∃ nonce,
        event = ⟨.write (vault.keyFor slot) (vault.blob key nonce value), .ok ()⟩) last
        (last.add (.write (vault.keyFor slot) (vault.blob key nonce value)) (.ok ())) :=
      last.gains_add _ rfl ⟨nonce, rfl⟩
    exact ((gained _).after drawn).before (released _)

/-- Whether an event is the read of a slot that found a blob with a given content. -/
def Found (vault : Vault) (key : Aes256.Key) (slot : Slot) (value : α) (event : Event) : Prop :=
  ∃ blob, event = ⟨.read (vault.keyFor slot), .ok (some blob)⟩ ∧
    vault.content? key blob = some value

/-- **Reading a slot** adds the read, and what it has read is the content of what was found. -/
theorem gains_read (slot : Slot) (stretch : Stretch) :
    (vault.read slot : Program (Option α)).Meets (vault.chronicle key rule) (fun last result =>
      stretch.Leads last ∧ ∀ value, result = .ok (some value) →
        Gains (vault.Found key slot value) stretch last) stretch := by
  have read (reply : Except Error (Option Bytes)) :=
    stretch.leads_add (.read (vault.keyFor slot)) rfl reply
  have keyed (last : Stretch) (reply : Except Error Aes256.Key) :=
    last.leads_add (.sealingKey vault.name) rfl reply
  refine Watch.meets_read chronicle_own nofun (fun _ => nofun) (fun _ => ⟨read _, nofun⟩)
    ⟨read _, nofun⟩ (fun blob _ _ => ⟨read _, nofun⟩)
    (fun blob _ => ⟨(read _).trans (keyed _ _), nofun⟩) fun blob result content =>
      ⟨(read _).trans (keyed _ _), ?_⟩
  rintro value rfl
  have same : vault.content? key blob = some value := by
    split at content
    next found =>
      rw [found]
      exact congrArg some (Option.some.inj (Except.ok.inj content)).symm
    next =>
      obtain ⟨_, failed⟩ := content
      cases failed
  exact (Stretch.gains_add stretch (.read (vault.keyFor slot)) rfl ⟨blob, rfl, same⟩).before
    (keyed _ _)

/-- The same if an unreadable record is removed. -/
theorem gains_readable {session : Session} (slot : Slot) (stretch : Stretch) :
    (session.readable slot (session.vault.read slot : Program (Option α))).Meets
      (session.vault.chronicle key rule) (fun last result => stretch.Leads last ∧
        ∀ value, result = .ok (some value) →
          Gains (session.vault.Found key slot value) stretch last) stretch := by
  refine Meets.rescue ((gains_read slot stretch).mono fun last result ⟨led, found⟩ => ?_)
  split
  · refine Meets.rescue ((gains_clear slot last).mono fun last' _ ⟨more, _⟩ => ?_)
    exact ⟨led.trans more, nofun⟩
  · exact ⟨led, found⟩

/-- Taking the refresh token out adds the read that found it. -/
theorem gains_takeRefreshToken {session : Session} (stretch : Stretch) :
    session.takeRefreshToken.Meets (session.vault.chronicle key rule) (fun last result =>
      stretch.Leads last ∧ ∀ token, result = .ok (some token) →
        Gains (session.vault.Found key .refreshToken token) stretch last) stretch := by
  have held := stretch.leads_add .hold rfl ()
  have released (last : Stretch) := last.leads_add .release rfl ()
  have taken : session.vault.takeRefreshToken.Meets (session.vault.chronicle key rule)
      (fun last result => stretch.Leads last ∧ ∀ token, result = .ok (some token) →
        Gains (session.vault.Found key .refreshToken token) stretch last) stretch := by
    refine Watch.meets_guarded nofun (Meets.rescue
      ((gains_read .refreshToken (stretch.add .hold ())).mono fun last result ⟨led, found⟩ => ?_))
    have removed (reply : Except Error Unit) :=
      last.leads_add (.remove (session.vault.keyFor .refreshToken)) rfl reply
    have reached := held.trans led
    split
    · exact ⟨nofun, reached.trans (released _), nofun⟩
    next token found =>
      refine Meets.bind (Watch.meets_remove nofun fun reply => ?_)
      cases reply with
      | error _ => exact ⟨nofun, (reached.trans (removed _)).trans (released _), nofun⟩
      | ok _ =>
        refine ⟨nofun, (reached.trans (removed _)).trans (released _), ?_⟩
        rintro value ⟨⟩
        exact (((found token rfl).after held).before (removed _)).before (released _)
    · refine Meets.bind (Watch.meets_remove nofun fun reply => ?_)
      cases reply with
      | error _ => exact ⟨nofun, (reached.trans (removed _)).trans (released _), nofun⟩
      | ok _ => exact ⟨nofun, (reached.trans (removed _)).trans (released _), nofun⟩
    · exact ⟨nofun, reached.trans (released _), nofun⟩
  refine Meets.rescue (taken.mono fun last result ⟨led, found⟩ => ?_)
  split
  · exact ⟨led, nofun⟩
  · exact ⟨led, found⟩

end

/-- Whether an event is a successful answer to a request. -/
def Answers (purpose : Purpose) (request : Request) (response : Response) (event : Event) : Prop :=
  response.isSuccess = true ∧ ∃ connection, event = ⟨.send connection purpose request, .ok response⟩

/-- **A request that has to succeed** adds itself with its answer, unless it fails. -/
theorem gains_sendChecked {session : Session}
    (stays : ∀ {first second}, kind first → first.Leads second → kind second) (start : kind stretch)
    {purpose : Purpose} {request : Request} (own : ∀ id, purpose ≠ .caller id)
    (ruled : ∀ last connection, kind last → stretch.Leads last →
      rule last (.send connection purpose request)) :
    (session.sendChecked purpose request).Meets (session.vault.chronicle key rule)
      (fun last result => (kind last ∧ stretch.Leads last) ∧ ∀ response, result = .ok response →
        Gains (Answers purpose request response) stretch last) stretch := by
  have closed := closed_chronicle session.vault key rule stays
  have notCaller (connection : Connection) :
      (Effect.send connection purpose request).isCallerSend = false := by
    cases purpose with
    | caller id => exact absurd rfl (own id)
    | _ => rfl
  have identity := closed.deviceIdentity (keeps_clear stays _)
  refine Meets.bind (Watch.Keeps.bind (closed.connection identity) start
    (fun _ _ kept led => ⟨⟨kept, led⟩, nofun⟩) fun last connection kept led => ?_)
  refine ⟨fun _ => ruled last connection kept led, fun reply _ => ?_⟩
  have sent := last.leads_add _ (notCaller connection) reply
  cases reply with
  | error error => exact ⟨⟨stays kept sent, led.trans sent⟩, nofun⟩
  | ok response =>
    refine ⟨⟨stays kept sent, led.trans sent⟩, fun other checked => ?_⟩
    rw [Response.checked] at checked
    split at checked
    next success =>
      obtain rfl := Except.ok.inj checked
      have gained : Gains (Answers purpose request response) last
          (last.add (.send connection purpose request) (.ok response)) :=
        last.gains_add _ (notCaller connection) ⟨success, connection, rfl⟩
      exact gained.after led
    · cases checked

/-- **A request with the device headers** that has to succeed, and what is done with the answer. The
headers leave the body alone. -/
theorem meets_sendDecorated {session : Session} {β : Type}
    {post : Stretch → Except Error β → Prop}
    (stays : ∀ {first second}, kind first → first.Leads second → kind second) (start : kind stretch)
    {purpose : Purpose} {request : Request} (own : ∀ id, purpose ≠ .caller id)
    (ruled : ∀ last connection decorated, kind last → stretch.Leads last →
      decorated.body = request.body → rule last (.send connection purpose decorated))
    {f : Response → Program β}
    (failed : ∀ last error, stretch.Leads last → post last (.error error))
    (answered : ∀ last decorated response, kind last → stretch.Leads last →
      Gains (Answers purpose decorated response) stretch last →
        (f response).Meets (session.vault.chronicle key rule) post last) :
    (do
      let decorated ← session.withDeviceHeaders request
      let response ← session.sendChecked purpose decorated
      f response).Meets (session.vault.chronicle key rule) post stretch := by
  have closed := closed_chronicle session.vault key rule stays
  refine Meets.bind ((Watch.Keeps.withDeviceHeaders closed (keeps_clear stays _) start
    request).mono ?_)
  rintro before (error | decorated) ⟨⟨kept, led⟩, same⟩
  · exact failed before error led
  refine Meets.bind ((gains_sendChecked stays kept own fun last connection kept more =>
    ruled last connection decorated kept (led.trans more) (same decorated rfl)).mono ?_)
  rintro last (error | response) ⟨⟨kept, more⟩, gained⟩
  · exact failed last error (led.trans more)
  · exact answered last decorated response kept (led.trans more) ((gained response rfl).after led)

end Vault

end GatewaySession
