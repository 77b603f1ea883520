import GatewaySession.Proofs.Dispatch.History
import GatewaySession.Proofs.Engine.Timeline
import GatewaySession.Proofs.Exchange.Freshness

/-!
# What happens to a request

A request may be executed more than once: it is parked until input arrives, or its caller executes
it again. Over all that, what was done on its behalf and what was supplied in between is written
down in a log.

What passcode is due can be told from the log alone: the one that came last, if the request was not
answered since. So can the channel: the last that was settled, by being supplied with a passcode or
because a passcode was sent over it. The context of the request agrees with its log if it has these
two and nothing else, and then every request that is made from it carries what is due. For each
thing that can happen there is one lemma that says how the context has to change.

## Main definitions

* `Happening` — what happens to a request
* `Happening.PasscodeDue`, `Happening.ChannelSettled` — what is due after a log
* `Happening.Proper`, `Happening.Heard` — logs in which requests carry what is due, and are answered
* `Happening.Agrees`, `Happening.Tracks` — a context agrees with a log

## Main results

* `Happening.latest_append_singleton` — what came last, after one happening more
* `Happening.Agrees.answered`, `Happening.Agrees.unanswered`, `Happening.Agrees.withOtp`,
  `Happening.Agrees.choose`, `Happening.Agrees.withOtpChannel`, `Happening.Agrees.supplied`,
  `Happening.Agrees.aside` — one happening more
-/

namespace GatewaySession

/-! ### Logs -/

/-- What happens to a request. -/
inductive Happening where
  /-- An effect is performed on its behalf, and answered. -/
  | event (event : Event)
  /-- While it is pending, a passcode is supplied, and perhaps the channel that it came over. -/
  | supplied (channel : Option String) (passcode : String)
  /-- An execution is over, and does not wait for input. -/
  | ended

namespace Happening

/-- The passcode that is collected or supplied. -/
def passcode? : Happening → Option String
  | event ⟨.ask _ _, .otp passcode⟩ => some passcode
  | supplied _ passcode => some passcode
  | _ => none

/-- The channel that is chosen. -/
def chosen? : Happening → Option String
  | event ⟨.ask _ _, .otpChannel channel⟩ => some channel
  | _ => none

/-- Whether the gateway has sent a passcode over a channel. -/
def IsDelivered : Happening → Prop
  | event ⟨.send _ .otpDelivery _, .ok response⟩ => response.isSuccess = true
  | _ => False

/-- The request itself, as it is sent. -/
def main? : Happening → Option Request
  | event ⟨.send _ (.caller _) request, _⟩ => some request
  | _ => none

/-- Any other request. -/
def own? : Happening → Option Request
  | event ⟨.send _ (.caller _) _, _⟩ => none
  | event ⟨.send _ _ request, _⟩ => some request
  | _ => none

/-- Whether the request itself is answered. -/
def IsAnswered : Happening → Prop
  | event ⟨.send _ (.caller _) _, .ok _⟩ => True
  | _ => False

/-- Whether the request itself is not answered because the connection says that input is awaited. -/
def Stalls : Happening → Prop
  | event ⟨.send _ (.caller _) _, .error (.awaitingInput _)⟩ => True
  | _ => False

/-! ### What is due -/

/-- Whether something was brought by a happening, and kept by all that followed. -/
def Latest (brings : List Happening → Happening → String → Prop)
    (keeps : List Happening → Happening → Prop) (log : List Happening) (value : String) : Prop :=
  ∃ early came since, log = early ++ came :: since ∧ brings early came value ∧
    ∀ before later after, since = before ++ later :: after → keeps (early ++ came :: before) later

/-- Whether a passcode that came before is still the one to be sent. -/
def KeepsPasscode (happening : Happening) : Prop :=
  happening.passcode? = none ∧ ¬happening.IsAnswered

/-- Whether a passcode is to be sent: it came last, and the request was not answered since. -/
def PasscodeDue : List Happening → String → Prop :=
  Latest (fun _ came passcode => came.passcode? = some passcode) fun _ later => later.KeepsPasscode

/-- Whether a channel was the last to be chosen. -/
def ChannelChosen : List Happening → String → Prop :=
  Latest (fun _ came channel => came.chosen? = some channel) fun _ later => later.chosen? = none

/-- Whether a happening settles a channel: it is supplied, or it was chosen and a passcode is sent
over it. -/
def Settles (log : List Happening) (happening : Happening) (channel : String) : Prop :=
  (∃ passcode, happening = .supplied (some channel) passcode) ∨
    happening.IsDelivered ∧ ChannelChosen log channel

/-- Whether a channel was the last to be settled. -/
def ChannelSettled : List Happening → String → Prop :=
  Latest Settles fun log later => ∀ channel, ¬Settles log later channel

variable {log : List Happening} {last : Happening} {value : String}

/-- What is brought or kept last. -/
theorem latest_append_singleton {brings : List Happening → Happening → String → Prop}
    {keeps : List Happening → Happening → Prop} : Latest brings keeps (log ++ [last]) value ↔
      brings log last value ∨ keeps log last ∧ Latest brings keeps log value := by
  constructor
  · rintro ⟨early, came, since, split, brought, kept⟩
    obtain ⟨rfl, rfl, rfl⟩ | ⟨mid, rfl, rfl⟩ := Household.append_singleton_eq split
    · exact .inl brought
    · refine .inr ⟨kept mid last [] rfl, early, came, mid, rfl, brought, ?_⟩
      rintro before later after rfl
      exact kept before later (after ++ [last]) (by simp)
  · rintro (brought | ⟨keeps', early, came, since, rfl, brought, kept⟩)
    · exact ⟨log, last, [], rfl, brought, fun before later after none => by simp at none⟩
    · refine ⟨early, came, since ++ [last], by simp, brought, fun before later after split => ?_⟩
      obtain ⟨rfl, rfl, -⟩ | ⟨mid, rfl, -⟩ := Household.append_singleton_eq split
      · exact keeps'
      · exact kept before later mid rfl

theorem passcodeDue_append_singleton : PasscodeDue (log ++ [last]) value ↔
    last.passcode? = some value ∨ last.KeepsPasscode ∧ PasscodeDue log value :=
  latest_append_singleton

theorem channelChosen_append_singleton : ChannelChosen (log ++ [last]) value ↔
    last.chosen? = some value ∨ last.chosen? = none ∧ ChannelChosen log value :=
  latest_append_singleton

theorem channelSettled_append_singleton : ChannelSettled (log ++ [last]) value ↔
    Settles log last value ∨ (∀ other, ¬Settles log last other) ∧ ChannelSettled log value :=
  latest_append_singleton

theorem not_latest_nil {brings : List Happening → Happening → String → Prop}
    {keeps : List Happening → Happening → Prop} : ¬Latest brings keeps [] value := by
  rintro ⟨early, came, since, split, -⟩
  simp at split

/-! ### Logs as they should be -/

/-- Whether a request carries what is due after a log. -/
structure Carries (log : List Happening) (request : Request) : Prop where
  /-- It carries the passcode that is to be sent, if there is one. -/
  passcode (value : String) : request.header? "X-OTP" = some value ↔ PasscodeDue log value
  /-- It carries the channel that was settled last, if one was. -/
  channel (value : String) :
    request.header? "X-OTP-CHANNEL" = some value ↔ ChannelSettled log value

/-- Whether a happening is as it should be after a log. -/
structure Fits (log : List Happening) (happening : Happening) : Prop where
  /-- The request itself carries what is due. -/
  main (request : Request) : happening.main? = some request → Carries log request
  /-- No other request carries a passcode. -/
  own (request : Request) : happening.own? = some request → request.header? "X-OTP" = none

/-- Whether everything in a log is as it should be. -/
def Proper (log : List Happening) : Prop :=
  ∀ early happening late, log = early ++ happening :: late → Fits early happening

/-- Whether the request itself was answered whenever it was sent. If not, the execution was over, or
the connection said that input is awaited. -/
def Heard (log : List Happening) : Prop :=
  ∀ early sent late, log = early ++ sent :: late → sent.main? ≠ none →
    sent.IsAnswered ∨ sent.Stalls ∨ late.head? = some .ended

theorem Proper.append_singleton (h : Proper log) (fits : Fits log last) :
    Proper (log ++ [last]) := by
  intro early other late split
  obtain ⟨rfl, rfl, -⟩ | ⟨mid, rfl, -⟩ := Household.append_singleton_eq split
  · exact fits
  · exact h early other mid rfl

theorem Heard.append_singleton (h : Heard log)
    (heard : last.main? ≠ none → last.IsAnswered ∨ last.Stalls) : Heard (log ++ [last]) := by
  intro early sent late split main
  obtain ⟨rfl, rfl, -⟩ | ⟨mid, rfl, rfl⟩ := Household.append_singleton_eq split
  · exact (heard main).imp_right .inl
  · exact (h early sent mid rfl main).imp_right (Or.imp_right fun closing => by simp [closing])

/-- What follows the request itself, if it is not answered. -/
theorem Heard.append_ended (h : Heard log) (sent : Happening) :
    Heard (log ++ [sent] ++ [.ended]) := by
  intro early other late split main
  obtain ⟨-, same, -⟩ | ⟨mid, split', rfl⟩ := Household.append_singleton_eq split
  · exact absurd (same ▸ rfl) main
  obtain ⟨-, -, rfl⟩ | ⟨mid, rfl, rfl⟩ := Household.append_singleton_eq split'
  · exact .inr (.inr rfl)
  · exact (h early other mid rfl main).imp_right (Or.imp_right fun closing => by simp [closing])

end Happening

/-! ### Contexts -/

/-- A context with a passcode that is supplied, and perhaps the channel that it came over. -/
def Context.supplied (ctx : Context) (channel : Option String) (passcode : String) : Context :=
  match channel with
  | some channel => (ctx.withOtp passcode).withOtpChannel channel
  | none => ctx.withOtp passcode

@[simp] theorem Context.id_supplied (ctx : Context) (channel : Option String) (passcode : String) :
    (ctx.supplied channel passcode).id = ctx.id := by
  cases channel <;> rfl

@[simp] theorem Context.request_supplied (ctx : Context) (channel : Option String)
    (passcode : String) : (ctx.supplied channel passcode).request = ctx.request := by
  cases channel <;> rfl

/-- Whether a caller has set neither of the headers that passcodes go into. -/
def Request.IsBare (request : Request) : Prop :=
  request.header? "X-OTP" = none ∧ request.header? "X-OTP-CHANNEL" = none

instance (request : Request) : Decidable request.IsBare := inferInstanceAs (Decidable (_ ∧ _))

namespace Happening

/-- Whether a context agrees with a log. -/
structure Agrees (log : List Happening) (ctx : Context) : Prop where
  /-- It has the passcode that is to be sent. -/
  passcode (value : String) : ctx.otp? = some value ↔ PasscodeDue log value
  /-- It has the channel that was settled. -/
  channel (value : String) : ctx.otpChannel? = some value ↔ ChannelSettled log value
  /-- If the caller's request has neither, requests have carried what was due. -/
  proper : ctx.request.IsBare → Proper log

/-- Whether a context from which a request is executed agrees with its log. -/
structure Tracks (log : List Happening) (ctx : Context) : Prop extends Agrees log ctx where
  /-- The request was answered whenever it was sent. -/
  heard : Heard log

variable {log : List Happening} {last : Happening} {value : String} {ctx next : Context}

/-- Nothing has happened to a new request. -/
theorem Tracks.blank (id : Nat) (request : Request) : Tracks [] { id, request } where
  passcode _ := iff_of_false nofun not_latest_nil
  channel _ := iff_of_false nofun not_latest_nil
  proper _ _ _ _ split := by simp at split
  heard _ _ _ split := by simp at split

/-- The counts make no difference. -/
theorem Agrees.recount (h : Agrees log ctx) (extra : next.extra = ctx.extra)
    (request : next.request = ctx.request) : Agrees log next where
  passcode value := by rw [← h.passcode, Context.otp?, extra, Context.otp?]
  channel value := by rw [← h.channel, Context.otpChannel?, extra, Context.otpChannel?]
  proper bare := h.proper (request ▸ bare)

theorem Tracks.recount (h : Tracks log ctx) (extra : next.extra = ctx.extra)
    (request : next.request = ctx.request) : Tracks log next :=
  ⟨h.toAgrees.recount extra request, h.heard⟩

/-- Whether a happening brings nothing, and is not the request itself. -/
structure IsAside (happening : Happening) : Prop where
  /-- It brings no passcode. -/
  passcode : happening.passcode? = none
  /-- It chooses no channel. -/
  chosen : happening.chosen? = none
  /-- It settles no channel. -/
  settles (log : List Happening) (channel : String) : ¬Settles log happening channel
  /-- It is not the request itself. -/
  main : happening.main? = none
  /-- If it is another, that carries no passcode. -/
  own (request : Request) : happening.own? = some request → request.header? "X-OTP" = none

theorem not_isAnswered_of_main? (h : last.main? = none) : ¬last.IsAnswered := by
  intro answered
  unfold IsAnswered at answered
  split at answered
  · cases h
  · exact answered

/-- The end of an execution brings nothing. -/
theorem isAside_ended : ended.IsAside where
  passcode := rfl
  chosen := rfl
  settles _ _ := by rintro (⟨_, ⟨⟩⟩ | ⟨⟨⟩, -⟩)
  main := rfl
  own _ := nofun

/-- At most one channel was the last to be chosen. -/
theorem ChannelChosen.unique {other : String} (h : ChannelChosen log value)
    (h' : ChannelChosen log other) : value = other := by
  induction log using List.reverseRecOn with
  | nil => exact absurd h not_latest_nil
  | append_singleton log last ih =>
    rw [channelChosen_append_singleton] at h h'
    obtain chosen | ⟨none, h⟩ := h
    · obtain chosen' | ⟨none, -⟩ := h'
      · exact Option.some.inj (chosen.symm.trans chosen')
      · cases none.symm.trans chosen
    · obtain chosen' | ⟨-, h'⟩ := h'
      · cases none.symm.trans chosen'
      · exact ih h h'

/-! ### One happening more -/

namespace Agrees

variable {id : Nat} {need : Need} {way code : String} (h : Agrees log ctx)

include h

/-- One happening more, with what it brings. -/
theorem append_singleton (request : next.request = ctx.request)
    (fits : ctx.request.IsBare → Fits log last)
    (passcode : ∀ value, next.otp? = some value ↔
      last.passcode? = some value ∨ last.KeepsPasscode ∧ ctx.otp? = some value)
    (channel : ∀ value, next.otpChannel? = some value ↔ Settles log last value ∨
      (∀ other, ¬Settles log last other) ∧ ctx.otpChannel? = some value) :
    Agrees (log ++ [last]) next where
  passcode value := by rw [passcode, h.passcode, passcodeDue_append_singleton]
  channel value := by rw [channel, h.channel, channelSettled_append_singleton]
  proper bare := (h.proper (request ▸ bare)).append_singleton (fits (request ▸ bare))

/-- What brings nothing changes nothing. -/
theorem aside (aside : last.IsAside) : Agrees (log ++ [last]) ctx := by
  have kept : last.KeepsPasscode := ⟨aside.passcode, not_isAnswered_of_main? aside.main⟩
  refine h.append_singleton rfl (fun _ => ⟨fun request sent => ?_, aside.own⟩) (fun value => ?_)
    fun value => ?_
  · cases aside.main.symm.trans sent
  · simp [aside.passcode, kept]
  · simp [aside.settles]

/-- A channel is chosen, but nothing is sent over it yet. -/
theorem choose : Agrees (log ++ [.event ⟨.ask id need, .otpChannel way⟩]) ctx := by
  have unsettled (other : String) :
      ¬Settles log (.event ⟨.ask id need, .otpChannel way⟩) other := by
    rintro (⟨_, ⟨⟩⟩ | ⟨⟨⟩, -⟩)
  have kept : KeepsPasscode (.event ⟨.ask id need, .otpChannel way⟩) := ⟨rfl, False.elim⟩
  refine h.append_singleton rfl (fun _ => ⟨nofun, nofun⟩) (fun value => ?_) fun value => ?_
  · simp [kept, passcode?]
  · simp [unsettled]

/-- A passcode is collected. -/
theorem withOtp : Agrees (log ++ [.event ⟨.ask id need, .otp code⟩]) (ctx.withOtp code) := by
  have unsettled (other : String) : ¬Settles log (.event ⟨.ask id need, .otp code⟩) other := by
    rintro (⟨_, ⟨⟩⟩ | ⟨⟨⟩, -⟩)
  have present : (ctx.withOtp code).otp? = some code :=
    ctx.extra.get?_insert_self Context.otpName code
  have kept : (ctx.withOtp code).otpChannel? = ctx.otpChannel? :=
    ctx.extra.get?_insert_of_ne (by decide) code
  refine h.append_singleton rfl (fun _ => ⟨nofun, nofun⟩) (fun value => ?_) fun value => ?_
  · simp [present, passcode?, KeepsPasscode]
  · simp [kept, unsettled]

/-- A passcode is supplied, perhaps with the channel that it came over. -/
theorem supplied {given : Option String} :
    Agrees (log ++ [.supplied given code]) (ctx.supplied given code) := by
  have settles (other : String) :
      Settles log (.supplied given code) other ↔ given = some other := by
    constructor
    · rintro (⟨_, ⟨⟩⟩ | ⟨⟨⟩, -⟩)
      rfl
    · rintro rfl
      exact .inl ⟨code, rfl⟩
  have present : (ctx.withOtp code).otp? = some code :=
    ctx.extra.get?_insert_self Context.otpName code
  cases given with
  | none =>
    have kept : (ctx.withOtp code).otpChannel? = ctx.otpChannel? :=
      ctx.extra.get?_insert_of_ne (by decide) code
    refine h.append_singleton rfl (fun _ => ⟨nofun, nofun⟩) (fun value => ?_) fun value => ?_
    · simp [Context.supplied, present, passcode?, KeepsPasscode]
    · simp [Context.supplied, kept, settles]
  | some way =>
    have still : ((ctx.withOtp code).withOtpChannel way).otp? = some code :=
      ((ctx.withOtp code).extra.get?_insert_of_ne (by decide) way).trans present
    have settled : ((ctx.withOtp code).withOtpChannel way).otpChannel? = some way :=
      (ctx.withOtp code).extra.get?_insert_self Context.otpChannelName way
    refine h.append_singleton rfl (fun _ => ⟨nofun, nofun⟩) (fun value => ?_) fun value => ?_
    · simp [Context.supplied, still, passcode?, KeepsPasscode]
    · simp [Context.supplied, settled, settles]

variable {connection : Connection} {request : Request} {response : Response}

/-- The gateway has sent a passcode over the channel that was chosen. -/
theorem withOtpChannel (chosen : ChannelChosen log way) (delivered : response.isSuccess = true)
    (own : request.header? "X-OTP" = none) :
    Agrees (log ++ [.event ⟨.send connection .otpDelivery request, .ok response⟩])
      (ctx.withOtpChannel way) := by
  have settles (other : String) :
      Settles log (.event ⟨.send connection .otpDelivery request, .ok response⟩) other ↔
        way = other := by
    constructor
    · rintro (⟨_, ⟨⟩⟩ | ⟨-, chosen'⟩)
      exact chosen.unique chosen'
    · rintro rfl
      exact .inr ⟨delivered, chosen⟩
  have kept : (ctx.withOtpChannel way).otp? = ctx.otp? :=
    ctx.extra.get?_insert_of_ne (by decide) way
  have settled : (ctx.withOtpChannel way).otpChannel? = some way :=
    ctx.extra.get?_insert_self Context.otpChannelName way
  refine h.append_singleton rfl (fun _ => ⟨nofun, fun _ sent => ?_⟩) (fun value => ?_)
    fun value => ?_
  · cases sent
    exact own
  · simp [kept, passcode?, KeepsPasscode, IsAnswered]
  · simp [settled, settles]

/-- The request itself is answered, and carried what was due. -/
theorem answered (carries : ctx.request.IsBare → Carries log request) :
    Agrees (log ++ [.event ⟨.send connection (.caller id) request, .ok response⟩])
      ctx.countAttempt.withoutOtp := by
  have unsettled (other : String) :
      ¬Settles log (.event ⟨.send connection (.caller id) request, .ok response⟩) other := by
    rintro (⟨_, ⟨⟩⟩ | ⟨⟨⟩, -⟩)
  have gone : ctx.countAttempt.withoutOtp.otp? = none := ctx.extra.get?_erase_self Context.otpName
  have kept : ctx.countAttempt.withoutOtp.otpChannel? = ctx.otpChannel? :=
    ctx.extra.get?_erase_of_ne (by decide)
  refine h.append_singleton rfl (fun bare => ⟨fun _ sent => ?_, nofun⟩) (fun value => ?_)
    fun value => ?_
  · cases sent
    exact carries bare
  · simp [gone, passcode?, KeepsPasscode, IsAnswered]
  · simp [kept, unsettled]

/-- The request itself is not answered, and carried what was due. -/
theorem unanswered {error : Error} (carries : ctx.request.IsBare → Carries log request) :
    Agrees (log ++ [.event ⟨.send connection (.caller id) request, .error error⟩])
      ctx.countAttempt := by
  have unsettled (other : String) :
      ¬Settles log (.event ⟨.send connection (.caller id) request, .error error⟩) other := by
    rintro (⟨_, ⟨⟩⟩ | ⟨⟨⟩, -⟩)
  have kept : ctx.countAttempt.otp? = ctx.otp? := rfl
  have still : ctx.countAttempt.otpChannel? = ctx.otpChannel? := rfl
  refine h.append_singleton rfl (fun bare => ⟨fun _ sent => ?_, nofun⟩) (fun value => ?_)
    fun value => ?_
  · cases sent
    exact carries bare
  · simp [kept, passcode?, KeepsPasscode, IsAnswered]
  · simp [still, unsettled]

end Agrees

/-! ### Many happenings more -/

theorem ChannelChosen.asides {events : List Event} {way : String} (h : ChannelChosen log way)
    (asides : ∀ event ∈ events, (Happening.event event).IsAside) :
    ChannelChosen (log ++ events.map .event) way := by
  induction events generalizing log with
  | nil => rwa [List.map_nil, List.append_nil]
  | cons first events ih =>
    obtain ⟨aside, asides⟩ := List.forall_mem_cons.1 asides
    rw [List.map_cons, List.append_cons]
    exact ih (channelChosen_append_singleton.2 (.inr ⟨aside.chosen, h⟩)) asides

namespace Tracks

variable (h : Tracks log ctx)

include h

/-- One happening more that is not the request itself. -/
theorem append_singleton (other : last.main? = none) (agrees : Agrees (log ++ [last]) next) :
    Tracks (log ++ [last]) next :=
  ⟨agrees, h.heard.append_singleton fun main => absurd other main⟩

theorem aside (aside : last.IsAside) : Tracks (log ++ [last]) ctx :=
  h.append_singleton aside.main (h.toAgrees.aside aside)

theorem asides {events : List Event} (asides : ∀ event ∈ events, (Happening.event event).IsAside) :
    Tracks (log ++ events.map .event) ctx := by
  induction events generalizing log with
  | nil => rwa [List.map_nil, List.append_nil]
  | cons first events ih =>
    obtain ⟨aside, asides⟩ := List.forall_mem_cons.1 asides
    rw [List.map_cons, List.append_cons]
    exact ih (h.aside aside) asides

end Tracks

end Happening

end GatewaySession
