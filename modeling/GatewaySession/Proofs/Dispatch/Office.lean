import GatewaySession.Proofs.Dispatch.Marks
import GatewaySession.Proofs.Exchange.Passcode

/-!
# One-time passcodes of a queue

A queue says nothing about how its tasks are executed, and an execution nothing about the queue. An
office has both: the queue with its past, the contexts of the tasks that are under way, and of every
request an account of what has happened to it. A task is finished with what an execution of its
context ends with, whoever answers; and callers execute requests outside the queue, as often as they
like. What other requests do meanwhile is of no concern, since everything is answered arbitrarily
anyway.

Every request of the office carries the passcode that is due, and no other request carries any. A
passcode that went out goes out again only if the request that carried it was not answered. Then the
execution is over, so in the queue nothing more is sent; unless the connection itself says that
input is awaited, which parks the record with its passcode.

## Main definitions

* `SendsPasscodes` — passcodes go out as they should in a log
* `Office`, `Office.Step` — a queue at work, and what can happen

## Main results

* `Office.Orderly.step` — every context agrees with the account of its request
* `Office.sendsPasscodes` — passcodes go out as they should, in the queue and outside
-/

namespace GatewaySession

open Program (Ends)

/-! ### What a log should say -/

namespace Happening

/-- Passcodes go out as they should. -/
structure SendsPasscodes (log : List Happening) : Prop where
  /-- The request itself carries a passcode exactly if one came since it was last answered. It is
  the last that came. -/
  passcode : ∀ early sent late request, log = early ++ sent :: late → sent.main? = some request →
    ∀ value, request.header? "X-OTP" = some value ↔ PasscodeDue early value
  /-- It carries a channel exactly if one was settled before. It is the last that was. -/
  channel : ∀ early sent late request, log = early ++ sent :: late → sent.main? = some request →
    ∀ value, request.header? "X-OTP-CHANNEL" = some value ↔ ChannelSettled early value
  /-- No other request carries a passcode. -/
  own : ∀ happening ∈ log, ∀ request, happening.own? = some request →
    request.header? "X-OTP" = none
  /-- A passcode that went out goes out again only if the request was not answered, and that was the
  end of an execution or was put down to input that is awaited. -/
  once : ∀ early came mid first between second late,
    log = early ++ came :: (mid ++ first :: (between ++ second :: late)) →
      came.passcode? ≠ none → first.main? ≠ none → second.main? ≠ none →
      (∀ happening ∈ mid ++ first :: between, happening.KeepsPasscode) →
      first.Stalls ∨ between.head? = some .ended

/-- Passcodes go out as they should if requests carry what is due, and are answered. -/
theorem SendsPasscodes.of_proper {log : List Happening} (proper : Proper log) (heard : Heard log) :
    SendsPasscodes log where
  passcode early sent late request split main :=
    ((proper early sent late split).main request main).passcode
  channel early sent late request split main :=
    ((proper early sent late split).main request main).channel
  own happening mem request own := by
    obtain ⟨early, late, rfl⟩ := List.append_of_mem mem
    exact (proper early happening late rfl).own request own
  once early came mid first between second late split _ main main' kept := by
    have after : log = (early ++ came :: mid) ++ first :: (between ++ second :: late) := by
      rw [split]
      simp
    obtain answered | stalls | closing := heard _ _ _ after main
    · exact absurd answered (kept first (List.mem_append_right _ List.mem_cons_self)).2
    · exact .inl stalls
    · cases between with
      | nil =>
        rw [List.nil_append, List.head?_cons, Option.some.injEq] at closing
        exact absurd (closing ▸ rfl) main'
      | cons next between => exact .inr closing

end Happening

/-! ### Contexts in a queue -/

namespace Queue

variable {queue : Queue} {ctx other : Context}

/-- Whether a context is with the queue: of a pending record, or of a task that waits. -/
def Holds (queue : Queue) (ctx : Context) : Prop := ctx ∈ queue.pending ∨ ctx ∈ queue.waiting

theorem mem_pending_of_mem_due (h : ctx ∈ queue.due) : ctx ∈ queue.pending := by
  rw [due] at h
  split at h
  · exact h
  · split at h
    · exact (List.mem_filter.1 h).1
    · split at h
      · cases h
      · exact h

/-- Launching changes no context. -/
theorem Launches.holds {records : List Context} {after : Queue}
    (launches : queue.Launches records after) (known : ∀ ctx ∈ records, ctx ∈ queue.pending)
    (h : after.Holds ctx) : queue.Holds ctx := by
  obtain pending | waiting := h
  · rw [launches.pending] at pending
    exact .inl (List.mem_filter.1 pending).1
  · rw [launches.waiting] at waiting
    exact (List.mem_append.1 waiting).elim .inr fun mem => .inl (known ctx mem)

/-- Processing launches records that are due, or none. -/
theorem exists_launches (queue : Queue) (now : Nat) :
    ∃ records, queue.Launches records (queue.process now).2 ∧
      ∀ ctx ∈ records, ctx ∈ queue.pending := by
  cases mark : queue.awaiting with
  | some id => exact ⟨[], (launches_halted mark now).2, nofun⟩
  | none => exact ⟨queue.due, (process_open mark now).2.1, fun _ => mem_pending_of_mem_due⟩

theorem holds_of_process (queue : Queue) {now : Nat} (h : (queue.process now).2.Holds ctx) :
    queue.Holds ctx := by
  obtain ⟨records, launches, known⟩ := queue.exists_launches now
  exact launches.holds known h

theorem running_process (queue : Queue) (now : Nat) :
    (queue.process now).2.running = queue.running := by
  obtain ⟨records, launches, -⟩ := queue.exists_launches now
  exact launches.running

/-- Resuming changes the context of the record that input arrives for, if it is pending. -/
theorem Holds.of_resume {id : Nat} {update : Context → Context} {now : Nat}
    (h : (queue.resume id update now).2.Holds ctx) :
    ctx ∈ queue.pending ∧ ctx.id ≠ id ∨ ctx ∈ queue.waiting ∨
      ∃ old ∈ queue.pending, old.id = id ∧ ctx = update old := by
  obtain pending | waiting := holds_of_process (queue.supplied id update) h
  · obtain ⟨old, mem, rfl⟩ := List.mem_map.1 pending
    by_cases same : old.id = id
    · exact .inr (.inr ⟨old, mem, same, if_pos same⟩)
    · rw [if_neg same]
      exact .inl ⟨mem, same⟩
  · exact .inr (.inl waiting)

theorem Holds.of_start {id : Nat} (h : (queue.start id).2.Holds ctx) : queue.Holds ctx := by
  rcases queue.start_cases id with eq | ⟨_, -, -, ⟨-, eq⟩ | ⟨-, eq⟩⟩ <;> rw [eq] at h
  · exact h
  · exact h.imp_right fun mem => (List.mem_filter.1 mem).1
  · exact h.imp_right fun mem => (List.mem_filter.1 mem).1

theorem Holds.of_cancel {id : Nat} (h : (queue.cancel id).2.Holds ctx) : queue.Holds ctx := by
  rcases queue.cancel_cases id with ⟨-, eq⟩ | ⟨-, -, eq⟩ <;> rw [eq] at h
  · exact h.imp_left fun mem => (List.mem_filter.1 mem).1
  · exact h

/-- Finishing a task puts its context back if that parks the record. -/
theorem Holds.of_finish {result : Except Error Response} {now : Nat}
    (h : (queue.finish ctx result now).Holds other) :
    queue.Holds other ∨ other = ctx ∧ isParking result = true := by
  obtain ⟨pending, -, waiting, -⟩ := reported_eq queue ctx result now
  have reported (h : (queue.reported ctx result now).Holds other) : queue.Holds other :=
    h.imp (pending ▸ ·) (waiting ▸ ·)
  rcases queue.finish_cases ctx result now with ⟨-, eq⟩ | ⟨-, parks, eq⟩ | ⟨-, -, eq⟩ <;>
    rw [eq] at h
  · exact .inl h
  · obtain mem | waiting := h
    · obtain rfl | mem := mem_insertPending.1 mem
      · exact .inr ⟨rfl, parks⟩
      · exact .inl (.inl mem)
    · exact .inl (.inr waiting)
  · rw [resolve_eq] at h
    split at h
    · exact .inl (reported (holds_of_process (queue.reported ctx result now).freed h))
    · exact .inl (reported h)

theorem running_finish (queue : Queue) (ctx : Context) (result : Except Error Response)
    (now : Nat) :
    (queue.finish ctx result now).running = queue.running.filter (· != ctx.id) := by
  obtain ⟨-, -, -, running, -⟩ := reported_eq queue ctx result now
  rcases queue.finish_cases ctx result now with ⟨-, eq⟩ | ⟨-, -, eq⟩ | ⟨-, -, eq⟩ <;> rw [eq]
  · rfl
  · rfl
  · rw [resolve_eq]
    split
    · exact ((queue.reported ctx result now).freed.running_process now).trans running
    · exact running

end Queue

/-! ### Accounts -/

/-- What happens in an execution that ends with a result. -/
def Happening.course (events : List Event) (result : Except Error Response) : List Happening :=
  events.map .event ++ verdict result

/-- An account of a request. -/
structure Account where
  /-- The request as its caller made it. -/
  request : Request
  /-- What has happened to it. -/
  log : List Happening := []

namespace Account

variable {session : Session} {account : Account} {ctx : Context} {events : List Event}
  {result : Except Error Response}

/-- An account with more that has happened. -/
def add (account : Account) (happenings : List Happening) : Account :=
  { account with log := account.log ++ happenings }

/-- Whether a context agrees with an account of the same request. -/
structure Tracks (account : Account) (ctx : Context) : Prop where
  request : account.request = ctx.request
  log : Happening.Tracks account.log ctx

/-- Whether an account is of a request that is not over. -/
def IsOpen (account : Account) : Prop := .ended ∉ account.log

/-- Whether an account is as it should be, and nothing follows when the request is over. -/
structure IsSound (account : Account) : Prop where
  proper : account.request.IsBare → Happening.Proper account.log
  heard : Happening.Heard account.log
  last : ∀ early late, account.log = early ++ .ended :: late → late = []

theorem Tracks.blank (id : Nat) (request : Request) : Tracks { request } { id, request } :=
  ⟨rfl, .blank id request⟩

theorem Tracks.isSound (h : account.Tracks ctx)
    (last : ∀ early late, account.log = early ++ .ended :: late → late = []) : account.IsSound :=
  ⟨fun bare => h.log.proper (h.request ▸ bare), h.log.heard, last⟩

theorem IsOpen.isSound (unended : account.IsOpen) (h : account.Tracks ctx) : account.IsSound :=
  h.isSound fun early _ split =>
    absurd (split ▸ List.mem_append_right early List.mem_cons_self) unended

/-- **An execution** keeps the agreement. -/
theorem Tracks.execute (h : account.Tracks ctx) {last : Context}
    (ends : (session.execute ctx).Ends events (.ok (result, last))) :
    last.Same ctx ∧ (account.add (Happening.course events result)).Tracks last := by
  obtain ⟨_, _, same, kept, tracked⟩ := Session.execute_tracked h.log ends
  cases same
  refine ⟨kept, h.request.trans kept.request.symm, ?_⟩
  rw [add, Happening.course, ← List.append_assoc]
  exact tracked

/-- An execution that waits for input leaves the account open. -/
theorem IsOpen.course (h : account.IsOpen) (parks : Queue.isParking result = true) :
    (account.add (Happening.course events result)).IsOpen := by
  rw [IsOpen, add, Happening.course, Happening.verdict, if_pos parks]
  simpa [IsOpen] using h

/-- After any execution of an open account, nothing follows the end. -/
theorem IsOpen.isSound_course (h : account.IsOpen)
    (tracked : (account.add (Happening.course events result)).Tracks ctx) :
    (account.add (Happening.course events result)).IsSound := by
  cases parks : Queue.isParking result with
  | true => exact (h.course parks).isSound tracked
  | false =>
    refine tracked.isSound fun early late split => ?_
    rw [add, Happening.course, Happening.verdict, if_neg (by simp [parks]), ← List.append_assoc]
      at split
    obtain ⟨-, -, rfl⟩ | ⟨mid, split, -⟩ := Household.append_singleton_eq split
    · rfl
    · have unended : Happening.ended ∉ account.log ++ events.map .event := by simpa [IsOpen] using h
      exact absurd (split ▸ List.mem_append_right early List.mem_cons_self) unended

/-- A passcode that is supplied keeps the agreement. -/
theorem Tracks.supplied (h : account.Tracks ctx) (channel : Option String) (passcode : String) :
    (account.add [.supplied channel passcode]).Tracks (ctx.supplied channel passcode) :=
  ⟨h.request.trans (ctx.request_supplied channel passcode).symm,
    h.log.append_singleton rfl h.log.toAgrees.supplied⟩

theorem IsOpen.supplied (h : account.IsOpen) (channel : Option String) (passcode : String) :
    (account.add [.supplied channel passcode]).IsOpen := by
  simpa [IsOpen, add] using h

end Account

/-! ### A queue at work -/

/-- A queue at work, and requests that are executed outside it. -/
structure Office where
  /-- The queue with its past. -/
  history : Queue.History
  /-- Contexts of the tasks that are under way. -/
  held : List Context := []
  /-- Accounts of the requests that were submitted, by number. -/
  accounts : Nat → Option Account := fun _ => none
  /-- Requests that callers execute themselves: an account, and the context after it. -/
  calls : List (Account × Context) := []

namespace Office

/-- An office where nothing has happened. -/
def opened (workers retention : Nat) : Office where
  history := .opened workers retention

/-- The accounts after more has happened to a request. -/
def noted (office : Office) (id : Nat) (happenings : List Happening) : Nat → Option Account :=
  Function.update office.accounts id ((office.accounts id).map (·.add happenings))

/-- Moves of the queue that change no context. -/
def IsBeside : Queue.Move → Prop
  | .submit _ | .start _ | .finish _ _ _ | .supplyOtp _ _ _ _ => False
  | _ => True

/-- The queue moves. -/
def move (office : Office) (move : Queue.Move) : Office :=
  { office with history := office.history.after move }

/-- A request is submitted. -/
def submit (office : Office) (request : Request) : Office :=
  { office.move (.submit request) with
    accounts := Function.update office.accounts office.history.queue.nextId (some { request }) }

/-- A one-time passcode arrives. It is for the record if that is pending. -/
def supplyOtp (office : Office) (id : Nat) (channel : Option String) (passcode : String)
    (now : Nat) : Office :=
  { office.move (.supplyOtp id channel passcode now) with
    accounts := if office.history.queue.isPending id then
      office.noted id [.supplied channel passcode] else office.accounts }

/-- A worker takes up the task of a record. -/
def start (office : Office) (id : Nat) : Office :=
  { office.move (.start id) with
    held := office.held ++ (office.history.queue.start id).1.toList }

/-- A worker has executed the request of a record. -/
def finish (office : Office) (ctx last : Context) (events : List Event)
    (result : Except Error Response) (now : Nat) : Office :=
  { office.move (.finish last result now) with
    held := office.held.filter fun other => other.id != ctx.id
    accounts := office.noted ctx.id (Happening.course events result) }

/-- A caller has an account of a request and a context that he may execute. -/
def call (office : Office) (account : Account) (ctx : Context) : Office :=
  { office with calls := (account, ctx) :: office.calls }

/-- What can happen in an office. -/
inductive Step (session : Session) (office : Office) : Office → Prop where
  /-- The queue moves without changing a context. -/
  | beside (move : Queue.Move) : IsBeside move → Step session office (office.move move)
  /-- A request is submitted. -/
  | submit (request : Request) : Step session office (office.submit request)
  /-- A one-time passcode arrives. -/
  | supplyOtp (id : Nat) (channel : Option String) (passcode : String) (now : Nat) :
      Step session office (office.supplyOtp id channel passcode now)
  /-- A worker takes up the task of a record. -/
  | start (id : Nat) : Step session office (office.start id)
  /-- A worker has executed the request of a record, and ends the task with the result. -/
  | finish {ctx last : Context} {events : List Event} {result : Except Error Response}
      (now : Nat) : ctx ∈ office.held →
      (session.execute ctx).Ends events (.ok (result, last)) →
      Step session office (office.finish ctx last events result now)
  /-- A caller makes a request that he will execute himself, under any number. -/
  | call (id : Nat) (request : Request) :
      Step session office (office.call { request } { id, request })
  /-- A caller executes a request, for the first time or again. -/
  | execute {account : Account} {ctx last : Context} {events : List Event}
      {result : Except Error Response} : (account, ctx) ∈ office.calls →
      (session.execute ctx).Ends events (.ok (result, last)) →
      Step session office (office.call (account.add (Happening.course events result)) last)

/-- Any number of steps. -/
abbrev Leads (session : Session) : Office → Office → Prop :=
  Relation.ReflTransGen (Step session)

variable {session : Session} {office next : Office} {ctx other : Context} {account : Account}
  {events : List Event} {result : Except Error Response}

theorem noted_of_eq {id : Nat} {happenings : List Happening}
    (found : office.accounts id = some account) :
    office.noted id happenings id = some (account.add happenings) := by
  rw [noted, Function.update_self, found, Option.map_some]

theorem accounts_supplyOtp {id : Nat} {channel : Option String} {passcode : String} {now : Nat}
    (pending : office.history.queue.isPending id = true) :
    (office.supplyOtp id channel passcode now).accounts =
      office.noted id [.supplied channel passcode] := if_pos pending

/-! ### Order -/

/-- Whether the office has a context: with the queue, or of a task under way. -/
def Has (office : Office) (ctx : Context) : Prop :=
  office.history.queue.Holds ctx ∨ ctx ∈ office.held

/-- Whether every context agrees with the account of its request. -/
structure Orderly (office : Office) : Prop where
  /-- The queue keeps its books. -/
  kept : office.history.Kept
  /-- The contexts that are held are those of the tasks under way. -/
  running : office.held.map (·.id) = office.history.queue.running
  /-- Every context agrees with an account, which is open. -/
  tracked : ∀ ctx, office.Has ctx →
    ∃ account, office.accounts ctx.id = some account ∧ account.IsOpen ∧ account.Tracks ctx
  /-- Every account is sound. -/
  sound : ∀ id account, office.accounts id = some account → account.IsSound
  /-- A context that a caller may execute agrees with the account he has of it. -/
  called : ∀ call ∈ office.calls, call.1.Tracks call.2

theorem orderly_opened (workers retention : Nat) : (opened workers retention).Orderly where
  kept := Queue.History.kept_opened workers retention
  running := rfl
  tracked ctx has := by rcases has with (⟨⟨⟩⟩ | ⟨⟨⟩⟩) | ⟨⟨⟩⟩
  sound _ _ := nofun
  called _ := nofun

namespace Orderly

variable (h : office.Orderly)

include h

/-! #### Numbers -/

/-- No two contexts have the same number. -/
theorem lone (id : Nat) : office.history.queue.pendingIds.count id +
    (office.history.queue.waiting.map (·.id)).count id + (office.held.map (·.id)).count id ≤
      office.history.submitted.count id := by
  have lone := h.kept.settled.lone id
  rw [Queue.count_taskIds, ← h.running] at lone
  omega

/-- A context that the office has is of a request that was submitted. -/
theorem submitted (has : office.Has ctx) : ctx.id ∈ office.history.submitted := by
  refine List.count_pos_iff.1 (Nat.lt_of_lt_of_le ?_ (h.lone ctx.id))
  rcases has with (pending | waiting) | held
  · have : 0 < office.history.queue.pendingIds.count ctx.id := Queue.count_id_pos pending
    omega
  · have := Queue.count_id_pos waiting
    omega
  · have := Queue.count_id_pos held
    omega

/-- The context of a task is not of a pending record. -/
theorem unpending (task : ctx ∈ office.history.queue.waiting ∨ ctx ∈ office.held) :
    ctx.id ∉ office.history.queue.pendingIds := by
  have lone := h.lone ctx.id
  have once := h.kept.settled.once ctx.id
  rw [← List.count_eq_zero]
  rcases task with waiting | held
  · have := Queue.count_id_pos waiting
    omega
  · have := Queue.count_id_pos held
    omega

/-- A context that is with the queue is not of a task under way. -/
theorem unheld (holds : office.history.queue.Holds other) (held : ctx ∈ office.held) :
    other.id ≠ ctx.id := by
  intro same
  have lone := h.lone ctx.id
  have once := h.kept.settled.once ctx.id
  have := Queue.count_id_pos held
  rcases holds with pending | waiting
  · have : 0 < office.history.queue.pendingIds.count other.id := Queue.count_id_pos pending
    rw [same] at this
    omega
  · have := Queue.count_id_pos waiting
    rw [same] at this
    omega

/-! #### Steps -/

/-- Where no account changes, it is enough that no context is new. -/
theorem of_has (kept : next.history.Kept)
    (running : next.held.map (·.id) = next.history.queue.running)
    (has : ∀ ctx, next.Has ctx → office.Has ctx) (accounts : next.accounts = office.accounts)
    (calls : next.calls = office.calls) : next.Orderly where
  kept := kept
  running := running
  tracked ctx there := accounts ▸ h.tracked ctx (has ctx there)
  sound := accounts ▸ h.sound
  called := calls ▸ h.called

theorem beside {move : Queue.Move} (beside : IsBeside move) :
    (office.move move).Orderly := by
  cases move with
  | allocate =>
    exact h.of_has (h.kept.after .allocate trivial) h.running (fun _ has => has) rfl rfl
  | process now =>
    exact h.of_has (h.kept.after (.process now) trivial)
      (h.running.trans (office.history.queue.running_process now).symm)
      (fun _ has => has.imp_left (Queue.holds_of_process _)) rfl rfl
  | cancel id =>
    refine h.of_has (h.kept.after (.cancel id) trivial) ?_ (fun _ has => has.imp_left .of_cancel)
      rfl rfl
    refine h.running.trans ?_
    change _ = (office.history.queue.cancel id).2.running
    rcases office.history.queue.cancel_cases id with ⟨-, eq⟩ | ⟨-, -, eq⟩
    · rw [eq]
      rfl
    · rw [eq]
  | supplyNothing id now =>
    refine h.of_has (h.kept.after (.supplyNothing id now) trivial) ?_ (fun ctx has => ?_) rfl rfl
    · exact h.running.trans (Queue.running_process (office.history.queue.supplied id _) now).symm
    · refine has.imp_left fun holds => ?_
      rcases Queue.Holds.of_resume holds with ⟨pending, -⟩ | waiting | ⟨old, pending, -, rfl⟩
      · exact .inl pending
      · exact .inr waiting
      · exact .inl pending
  | take id => exact h.of_has (h.kept.after (.take id) trivial) h.running (fun _ has => has) rfl rfl
  | evict now =>
    exact h.of_has (h.kept.after (.evict now) trivial) h.running (fun _ has => has) rfl rfl
  | _ => exact beside.elim

theorem submit (request : Request) : (office.submit request).Orderly where
  kept := h.kept.after (.submit request) trivial
  running := h.running
  tracked ctx has := by
    have old (has : office.Has ctx) : ctx.id ≠ office.history.queue.nextId := by
      intro same
      have := h.kept.settled.fresh ctx.id (Nat.le_of_eq same.symm)
      exact List.count_eq_zero.1 this (h.submitted has)
    have known (has : office.Has ctx) : ∃ account,
        Function.update office.accounts office.history.queue.nextId (some { request }) ctx.id =
          some account ∧ account.IsOpen ∧ account.Tracks ctx := by
      rw [Function.update_of_ne (old has)]
      exact h.tracked ctx has
    rcases has with (pending | waiting) | held
    · obtain rfl | pending := Queue.mem_insertPending.1 pending
      · exact ⟨{ request }, Function.update_self _ _ _, List.not_mem_nil, .blank _ _⟩
      · exact known (.inl (.inl pending))
    · exact known (.inl (.inr waiting))
    · exact known (.inr held)
  sound id account found := by
    change Function.update office.accounts office.history.queue.nextId (some { request }) id =
      some account at found
    by_cases same : id = office.history.queue.nextId
    · rw [same, Function.update_self, Option.some.injEq] at found
      rw [← found]
      exact Account.IsOpen.isSound List.not_mem_nil (Account.Tracks.blank 0 request)
    · rw [Function.update_of_ne same] at found
      exact h.sound id account found
  called := h.called

/-- Accounts of other requests are as before. -/
theorem tracked_noted {id : Nat} {happenings : List Happening} (has : office.Has ctx)
    (apart : ctx.id ≠ id) : ∃ account, office.noted id happenings ctx.id = some account ∧
      account.IsOpen ∧ account.Tracks ctx := by
  rw [noted, Function.update_of_ne apart]
  exact h.tracked ctx has

theorem sound_noted {id : Nat} {happenings : List Happening}
    (found : office.accounts id = some account) (sound : (account.add happenings).IsSound)
    (other : Nat) (account' : Account) (there : office.noted id happenings other = some account') :
    account'.IsSound := by
  by_cases same : other = id
  · rw [same, noted_of_eq found, Option.some.injEq] at there
    rwa [← there]
  · rw [noted, Function.update_of_ne same] at there
    exact h.sound other account' there

theorem supplyOtp (id : Nat) (channel : Option String) (passcode : String) (now : Nat) :
    (office.supplyOtp id channel passcode now).Orderly := by
  have kept := h.kept.after (.supplyOtp id channel passcode now) trivial
  have running := h.running.trans
    (Queue.running_process (office.history.queue.supplied id (·.supplied channel passcode))
      now).symm
  by_cases pending : office.history.queue.isPending id = true
  · rw [Office.supplyOtp, if_pos pending]
    have there := Queue.isPending_iff.1 pending
    have task {ctx : Context}
        (task : ctx ∈ office.history.queue.waiting ∨ ctx ∈ office.held) : ctx.id ≠ id :=
      fun same => h.unpending task (same ▸ there)
    refine ⟨kept, running, fun ctx has => ?_, ?_, h.called⟩
    · rcases has with holds | held
      · rcases Queue.Holds.of_resume holds with ⟨mem, apart⟩ | waiting | ⟨old, mem, rfl, rfl⟩
        · exact h.tracked_noted (.inl (.inl mem)) apart
        · exact h.tracked_noted (.inl (.inr waiting)) (task (.inl waiting))
        · obtain ⟨account, found, unended, tracks⟩ := h.tracked old (.inl (.inl mem))
          refine ⟨_, ?_, unended.supplied channel passcode, tracks.supplied channel passcode⟩
          exact (congrArg (office.noted old.id _) (old.id_supplied channel passcode)).trans
            (noted_of_eq found)
      · exact h.tracked_noted (.inr held) (task (.inr held))
    · obtain ⟨old, mem, rfl⟩ := List.mem_map.1 there
      obtain ⟨account, found, unended, tracks⟩ := h.tracked old (.inl (.inl mem))
      exact h.sound_noted found ((unended.supplied channel passcode).isSound
        (tracks.supplied channel passcode))
  · rw [Office.supplyOtp, if_neg pending]
    refine h.of_has kept running (fun ctx has => has.imp_left fun holds => ?_) rfl rfl
    rcases Queue.Holds.of_resume holds with ⟨mem, -⟩ | waiting | ⟨old, mem, rfl, -⟩
    · exact .inl mem
    · exact .inr waiting
    · exact absurd (Queue.isPending_iff.2 (List.mem_map_of_mem mem)) pending

theorem start (id : Nat) : (office.start id).Orderly := by
  have running : (office.held ++ (office.history.queue.start id).1.toList).map (·.id) =
      (office.history.queue.start id).2.running := by
    rw [List.map_append, h.running]
    rcases office.history.queue.start_cases id with eq | ⟨old, -, rfl, ⟨-, eq⟩ | ⟨-, eq⟩⟩ <;>
      rw [eq]
    · exact List.append_nil _
    · rfl
    · exact List.append_nil _
  have handed : ∀ ctx ∈ (office.history.queue.start id).1.toList,
      ctx ∈ office.history.queue.waiting := by
    rcases office.history.queue.start_cases id with eq | ⟨old, mem, rfl, ⟨-, eq⟩ | ⟨-, eq⟩⟩ <;>
      rw [eq]
    · nofun
    · exact List.forall_mem_singleton.2 mem
    · nofun
  refine h.of_has (h.kept.after (.start id) trivial) running (fun ctx has => ?_) rfl rfl
  rcases has with holds | held
  · exact .inl holds.of_start
  · exact (List.mem_append.1 held).elim .inr fun mem => .inl (.inr (handed ctx mem))

theorem finish {last : Context} (now : Nat) (held : ctx ∈ office.held)
    (ends : (session.execute ctx).Ends events (.ok (result, last))) :
    (office.finish ctx last events result now).Orderly := by
  obtain ⟨account, found, unended, tracks⟩ := h.tracked ctx (.inr held)
  obtain ⟨same, tracked⟩ := tracks.execute ends
  have admitted : last.id ∈ office.history.queue.running := by
    rw [same.id, ← h.running]
    exact List.mem_map_of_mem held
  refine ⟨h.kept.after (.finish last result now) admitted, ?_, fun other has => ?_,
    h.sound_noted found (unended.isSound_course tracked), h.called⟩
  · refine Eq.trans ?_ (Queue.running_finish _ last result now).symm
    rw [same.id, ← h.running, List.filter_map]
    rfl
  · rcases has with holds | still
    · obtain holds | ⟨rfl, parks⟩ := Queue.Holds.of_finish holds
      · exact h.tracked_noted (.inl holds) (h.unheld holds held)
      · refine ⟨_, ?_, unended.course parks, tracked⟩
        rw [same.id]
        exact noted_of_eq found
    · obtain ⟨still, apart⟩ := List.mem_filter.1 still
      exact h.tracked_noted (.inr still) (bne_iff_ne.1 apart)

/-- **A step** keeps the order. -/
theorem step (step : Step session office next) : next.Orderly := by
  cases step with
  | beside move beside => exact h.beside beside
  | submit request => exact h.submit request
  | supplyOtp id channel passcode now => exact h.supplyOtp id channel passcode now
  | start id => exact h.start id
  | finish now held ends => exact h.finish now held ends
  | call id request =>
    exact ⟨h.kept, h.running, h.tracked, h.sound,
      List.forall_mem_cons.2 ⟨.blank id request, h.called⟩⟩
  | execute mem ends =>
    exact ⟨h.kept, h.running, h.tracked, h.sound,
      List.forall_mem_cons.2 ⟨((h.called _ mem).execute ends).2, h.called⟩⟩

theorem leads (reached : Leads session office next) : next.Orderly := by
  induction reached with
  | refl => exact h
  | tail _ step ih => exact ih.step step

end Orderly

/-! ### A request that is parked, and resumed -/

open Session

/-- In an execution with one attempt, the request is sent after it was prepared. -/
theorem log_attempt (account : Account) (ctx : Context) (reply result : Except Error Response) :
    (account.add (Happening.course (attempt ctx reply []) result)).log =
      (account.log ++ (preparing ctx ++ [ready]).map .event) ++
        Happening.event (sending ctx reply) :: Happening.verdict result := by
  simp only [Account.add, Happening.course, map_attempt, List.map_nil, List.append_assoc,
    List.cons_append, List.nil_append]

/-- A request is parked because the user is asked for a passcode and defers. -/
def parked : Office :=
  ((((opened 1 60).submit publicContext.request).move (.process 0)).start 1).finish publicContext
    (afterDemand publicContext)
    (attempt publicContext (.ok Surroundings.demand) [wanted publicContext .deferred])
    (.error (.awaitingInput .otpRequired)) 0

/-- The context with the passcode. -/
def coded : Context := (afterDemand publicContext).withOtp "4242"

/-- The passcode is supplied, and goes out with the request, which is answered. -/
def resumed : Office :=
  ((parked.supplyOtp 1 none "4242" 0).start 1).finish coded coded.countAttempt.withoutOtp
    (attempt coded (.ok { status := 200 }) []) (.ok { status := 200 }) 0

theorem otp_coded : coded.otp? = some "4242" :=
  (afterDemand publicContext).extra.get?_insert_self Context.otpName "4242"

theorem leads_resumed : Leads confidential (opened 1 60) resumed := by
  have deferred := ends_execute_deferred publicContext rfl (by decide) (by decide)
  have answered := ends_execute_answered coded rfl
  have submitted : Leads confidential (opened 1 60) ((opened 1 60).submit publicContext.request) :=
    .single (.submit publicContext.request)
  have started := (submitted.tail (.beside (.process 0) trivial)).tail (.start 1)
  have parked := started.tail (.finish 0 (List.Mem.head _) deferred)
  exact ((parked.tail (.supplyOtp 1 none "4242" 0)).tail (.start 1)).tail
    (.finish 0 (List.Mem.head _) answered)

/-! ### Passcodes -/

/-- **Passcodes go out as they should**, in the queue and outside it, for every request that its
caller has set none in, whoever answers. In the queue, nothing follows the end of an execution that
does not wait for input. -/
theorem sendsPasscodes {workers retention : Nat}
    (reached : Leads session (opened workers retention) office) :
    (∀ id account, office.accounts id = some account → account.request.IsBare →
      Happening.SendsPasscodes account.log ∧
        ∀ early late, account.log = early ++ .ended :: late → late = []) ∧
    ∀ call ∈ office.calls, call.1.request.IsBare → Happening.SendsPasscodes call.1.log := by
  have orderly := (orderly_opened workers retention).leads reached
  constructor
  · intro id account found bare
    have sound := orderly.sound id account found
    exact ⟨.of_proper (sound.proper bare) sound.heard, sound.last⟩
  · intro call mem bare
    have tracked := orderly.called call mem
    exact .of_proper (tracked.log.proper (tracked.request ▸ bare)) tracked.log.heard

/-- The passcode that was supplied is due when the request is sent again. -/
theorem sendsPasscodes_resumed : ∃ account, resumed.accounts 1 = some account ∧
    Happening.SendsPasscodes account.log ∧
      ∃ early sent late request, account.log = early ++ sent :: late ∧
        sent.main? = some request ∧ request.header? "X-OTP" = some "4242" ∧
          Happening.PasscodeDue early "4242" := by
  have bare : publicContext.request.IsBare := by decide
  have submitted : ((((opened 1 60).submit publicContext.request).move (.process 0)).start
      1).accounts 1 = some { request := publicContext.request } :=
    show Function.update (opened 1 60).accounts 1 _ 1 = _ from Function.update_self _ _ _
  have before : parked.accounts 1 = some _ := noted_of_eq submitted
  have supplied : (parked.supplyOtp 1 none "4242" 0).accounts 1 = some _ :=
    (congrFun (accounts_supplyOtp rfl) 1).trans (noted_of_eq before)
  have after : resumed.accounts 1 = some _ := noted_of_eq supplied
  obtain ⟨sends, -⟩ := (sendsPasscodes leads_resumed).1 1 _ after bare
  have carried := header?_demandedRequest otp_coded bare
  exact ⟨_, after, sends, _, _, _, _, log_attempt _ _ _ _, rfl, carried,
    (sends.passcode _ _ _ _ (log_attempt _ _ _ _) rfl _).1 carried⟩

/-- A passcode goes out twice. The request that carried it first was not answered, and its caller
executed it again. -/
theorem passcode_sent_again : ∃ office account ctx, Leads confidential (opened 1 60) office ∧
    (account, ctx) ∈ office.calls ∧ account.request.IsBare ∧
      ∃ early came mid first between second late,
        account.log = early ++ came :: (mid ++ first :: (between ++ second :: late)) ∧
          came.passcode? = some "4242" ∧
          (∀ happening ∈ mid ++ first :: between, happening.passcode? = none) ∧
          ∀ sent ∈ [first, second], ∃ request, sent.main? = some request ∧
            request.header? "X-OTP" = some "4242" := by
  have bare : publicContext.request.IsBare := by decide
  have failed := ends_execute_unanswered coded rfl (.transport "")
  have again := ends_execute_unanswered coded.countAttempt rfl (.transport "")
  have collected := ends_execute_collected publicContext rfl (by decide) (by decide) failed
  have called : Leads confidential (opened 1 60)
      ((opened 1 60).call { request := publicContext.request } publicContext) :=
    .single (.call 1 publicContext.request)
  have executed := (called.tail (.execute (List.Mem.head _) collected)).tail
    (.execute (List.Mem.head _) again)
  refine ⟨_, _, _, executed, List.Mem.head _, bare, ?_⟩
  have noPasscode (ctx : Context) (isPublic : ctx.request.isPublic = true) :
      ∀ happening ∈ (preparing ctx ++ [ready]).map Happening.event, happening.passcode? = none :=
    List.forall_mem_map.2 fun event mem => (isAside_preparing isPublic event mem).passcode
  refine ⟨(preparing publicContext ++ [ready]).map .event ++
      [.event (sending publicContext (.ok Surroundings.demand))],
    .event (wanted publicContext (.otp "4242")), (preparing coded ++ [ready]).map .event,
    .event (sending coded (.error (.transport ""))),
    .ended :: (preparing coded.countAttempt ++ [ready]).map .event,
    .event (sending coded.countAttempt (.error (.transport ""))), [.ended], ?_, rfl, ?_, ?_⟩
  · rw [log_attempt]
    simp [Account.add, Happening.course, map_attempt, Happening.verdict, Queue.isParking]
  · exact List.forall_mem_append.2 ⟨noPasscode coded rfl, List.forall_mem_cons.2
      ⟨rfl, List.forall_mem_cons.2 ⟨rfl, noPasscode coded.countAttempt rfl⟩⟩⟩
  · refine List.forall_mem_cons.2 ⟨⟨_, rfl, header?_demandedRequest otp_coded bare⟩,
      List.forall_mem_singleton.2 ⟨_, rfl, header?_demandedRequest ?_ bare⟩⟩
    exact otp_coded

end Office

end GatewaySession
