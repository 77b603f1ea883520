import GatewaySession.Dispatch.Queue

/-!
# The life of a queue

A queue lives through moves: callers submit, cancel, supply input and take responses, dispatchers
process, workers start tasks and finish them. The moves come in any order and at any times, and a
worker may finish with any result. Only one thing is asked of a move: who finishes a task has
started it.

What a queue has done is not all to be seen in it afterwards, since responses are taken and stale
ones dropped, and cancelled records leave no trace but their outcome. So a history keeps the queue
together with what happened to it.

## Main definitions

* `Queue.Move` — what can happen to a queue
* `Queue.History`, `Queue.History.after` — a queue with its past, and one move more
* `Queue.History.kept` — every response that was ever kept
* `Queue.History.Leads` — any number of admitted moves
* `Queue.pendingIds`, `Queue.taskIds`, `Queue.outcomeIds` — where the number of a request stands

## Main results

* `Queue.Dispatched.process`, `Queue.Dispatched.resume` — all that processing and resuming do to
  the places of records is to make some of the pending ones active, each with a task
* `Queue.perm_evict`, `Queue.perm_resolve`, `Queue.perm_take` — where responses go
-/

namespace GatewaySession

namespace Queue

/-! ### Moves -/

/-- What can happen to a queue. Moves that look at the clock are told the time. -/
inductive Move where
  /-- A number is given out to a request that is executed outside the queue. -/
  | allocate
  /-- A request is submitted. -/
  | submit (request : Request)
  /-- Pending records are dispatched. -/
  | process (now : Nat)
  /-- A worker takes up the task of a record. -/
  | start (id : Nat)
  /-- A worker ends a task, with the context as it has become. -/
  | finish (ctx : Context) (result : Except Error Response) (now : Nat)
  /-- A request is cancelled. -/
  | cancel (id : Nat)
  /-- A one-time passcode arrives. -/
  | supplyOtp (id : Nat) (channel : Option String) (otp : String) (now : Nat)
  /-- The key store was unlocked, or the credential of the user is cached. -/
  | supplyNothing (id : Nat) (now : Nat)
  /-- A response is taken. -/
  | take (id : Nat)
  /-- Stale responses are dropped. -/
  | evict (now : Nat)

/-- Only a worker that has started a task finishes it. -/
def Admits (queue : Queue) : Move → Prop
  | .finish ctx _ _ => ctx.id ∈ queue.running
  | _ => True

/-- Whether a result parks its record instead of resolving it. -/
def isParking : Except Error Response → Bool
  | .error (.awaitingInput _) => true
  | _ => false

/-- The response that is kept when a record is resolved. -/
def completion? (ctx : Context) (now : Nat) : Except Error Response → Option Completed
  | .ok response => some ⟨ctx.id, response, ctx.attempts, now⟩
  | .error _ => none

/-- The response is put among those that are kept, in place of an older one of its number. -/
theorem keep_eq (queue : Queue) (ctx : Context) (now : Nat) (result : Except Error Response) :
    queue.keep ctx now result =
      match completion? ctx now result with
      | some entry => { queue with
          completed := queue.completed.filter (fun other => other.id != entry.id) ++ [entry] }
      | none => queue := by
  cases result <;> rfl

/-- The queue when a task has ended and nothing was done about its result yet. -/
def ended (queue : Queue) (id : Nat) : Queue :=
  { queue with
    active := queue.active.filter (· != id)
    running := queue.running.filter (· != id) }

/-- The queue when a record was resolved and nothing was dispatched yet. -/
def reported (queue : Queue) (ctx : Context) (result : Except Error Response) (now : Nat) :
    Queue :=
  ((queue.ended ctx.id).keep ctx now result).deliver ctx.id result

/-- The response that a move keeps: the one with which a record is resolved. -/
def keeps (queue : Queue) : Move → List Completed
  | .finish ctx result now =>
    if queue.isActive ctx.id then (completion? ctx now result).toList else []
  | _ => []

/-- The responses that were kept for as long as they are to be. -/
def stale (queue : Queue) (now : Nat) : List Completed :=
  queue.completed.filter fun entry => queue.retention * 1000 ≤ now - entry.completedAt

/-- The responses that a move drops: those that are stale, whenever records are dispatched.
Resolving a record dispatches others if it had priority. -/
def drops (queue : Queue) : Move → List Completed
  | .process now | .supplyOtp _ _ _ now | .supplyNothing _ now | .evict now => queue.stale now
  | .finish ctx result now =>
    if queue.isActive ctx.id && !isParking result && queue.priority == some ctx.id then
      (queue.reported ctx result now).stale now
    else []
  | _ => []

/-- A queue with what has happened to it. -/
structure History where
  /-- The queue as it is now. -/
  queue : Queue
  /-- Numbers of the requests that were submitted. -/
  submitted : List Nat := []
  /-- Numbers of the tasks that workers took up in order to execute them. -/
  started : List Nat := []
  /-- Numbers of the requests that were resolved, by a worker or by being cancelled. -/
  resolved : List Nat := []
  /-- Numbers of the requests that were cancelled. -/
  cancelled : List Nat := []
  /-- Responses that were taken. -/
  taken : List Completed := []
  /-- Responses that were dropped. -/
  dropped : List Completed := []

namespace History

/-- A queue to which nothing has happened. -/
def opened (workers retention : Nat) : History where
  queue := { workers, retention }

/-- The history after one move more. -/
def after (history : History) : Move → History
  | .allocate => { history with queue := history.queue.allocate.2 }
  | .submit request => { history with
      queue := (history.queue.submit request).2
      submitted := history.submitted ++ [(history.queue.submit request).1] }
  | .process now => { history with
      queue := (history.queue.process now).2
      dropped := history.dropped ++ history.queue.drops (.process now) }
  | .start id => { history with
      queue := (history.queue.start id).2
      started := history.started ++ ((history.queue.start id).1.map (·.id)).toList }
  | .finish ctx result now => { history with
      queue := history.queue.finish ctx result now
      resolved := history.resolved ++
        if history.queue.isActive ctx.id && !isParking result then [ctx.id] else []
      dropped := history.dropped ++ history.queue.drops (.finish ctx result now) }
  | .cancel id => { history with
      queue := (history.queue.cancel id).2
      resolved := history.resolved ++ if (history.queue.cancel id).1 then [id] else []
      cancelled := history.cancelled ++ if (history.queue.cancel id).1 then [id] else [] }
  | .supplyOtp id channel otp now => { history with
      queue := (history.queue.supplyOtp id channel otp now).2
      dropped := history.dropped ++ history.queue.drops (.supplyOtp id channel otp now) }
  | .supplyNothing id now => { history with
      queue := (history.queue.supplyNothing id now).2
      dropped := history.dropped ++ history.queue.drops (.supplyNothing id now) }
  | .take id => { history with
      queue := (history.queue.take id).2
      taken := history.taken ++ (history.queue.take id).1.toList }
  | .evict now => { history with
      queue := (history.queue.evict now).2
      dropped := history.dropped ++ history.queue.drops (.evict now) }

/-- Every response that was ever kept: those that are there to be taken, those that were taken, and
those that were dropped. -/
def kept (history : History) : List Completed :=
  history.queue.completed ++ (history.taken ++ history.dropped)

/-- Any number of admitted moves leads from one history to another. -/
inductive Leads (start : History) : History → Prop where
  | here : Leads start start
  | move {history : History} (move : Move) :
      Leads start history → history.queue.Admits move → Leads start (history.after move)

theorem Leads.trans {first second third : History} (h : first.Leads second)
    (h' : second.Leads third) : first.Leads third := by
  induction h' with
  | here => exact h
  | move move _ admitted ih => exact .move move ih admitted

end History

/-! ### Where a number stands

Places are told by how often a number occurs, so that the bookkeeping of all moves is arithmetic. -/

/-- Numbers of the pending records. -/
def pendingIds (queue : Queue) : List Nat := queue.pending.map (·.id)

/-- Numbers of the tasks that were dispatched and have not ended. -/
def taskIds (queue : Queue) : List Nat := queue.waiting.map (·.id) ++ queue.running

/-- Numbers of the requests whose outcome was delivered, once for each delivery. -/
def outcomeIds (queue : Queue) : List Nat := queue.delivered.map (·.1)

/-- The number of a context stands where the context does. -/
theorem count_id_pos {ctx : Context} {contexts : List Context} (mem : ctx ∈ contexts) :
    0 < (contexts.map (·.id)).count ctx.id :=
  List.count_pos_iff.2 (List.mem_map_of_mem mem)

theorem isPending_iff {queue : Queue} {id : Nat} :
    queue.isPending id = true ↔ id ∈ queue.pendingIds := by
  simp [isPending, pendingIds]

theorem isActive_iff {queue : Queue} {id : Nat} :
    queue.isActive id = true ↔ id ∈ queue.active := by
  simp [isActive]

theorem count_singleton (other id : Nat) : [other].count id = if id = other then 1 else 0 := by
  by_cases same : id = other
  · simp [same]
  · rw [if_neg same, List.count_eq_zero]
    simpa using same

theorem count_insertPending (ctx : Context) (id : Nat) (records : List Context) :
    ((insertPending ctx records).map (·.id)).count id =
      (records.map (·.id)).count id + [ctx.id].count id := by
  induction records with
  | nil => simp [insertPending]
  | cons other rest ih =>
    rw [insertPending]
    split
    · simp only [List.map_cons, List.count_cons, List.count_nil]
      omega
    · simp only [List.map_cons, List.count_cons, List.count_nil, ih]
      omega

theorem count_withoutId (other id : Nat) (records : List Context) :
    ((withoutId other records).map (·.id)).count id =
      if id = other then 0 else (records.map (·.id)).count id := by
  induction records with
  | nil => simp [withoutId]
  | cons ctx rest ih =>
    rw [withoutId] at ih
    rw [withoutId, List.filter_cons]
    by_cases same : ctx.id = other
    · rw [if_neg (by simp [same]), ih, List.map_cons, List.count_cons]
      split
      · rfl
      · next ne => simp [same, Ne.symm ne]
    · rw [if_pos (by simp [same]), List.map_cons, List.count_cons, ih, List.map_cons,
        List.count_cons]
      split
      · next eq => simp [eq, same]
      · rfl

theorem count_withId (other id : Nat) (records : List Context) :
    ((withId other records).map (·.id)).count id =
      if id = other then (records.map (·.id)).count id else 0 := by
  induction records with
  | nil => simp [withId]
  | cons ctx rest ih =>
    rw [withId] at ih
    rw [withId, List.filter_cons]
    by_cases same : ctx.id = other
    · rw [if_pos (by simp [same]), List.map_cons, List.count_cons, ih, List.map_cons,
        List.count_cons]
      split
      · rfl
      · next ne => simp [same, Ne.symm ne]
    · rw [if_neg (by simp [same]), ih, List.map_cons, List.count_cons]
      split
      · next eq => simp [eq, same]
      · rfl

theorem count_filter_ne (other id : Nat) (numbers : List Nat) :
    (numbers.filter (· != other)).count id = if id = other then 0 else numbers.count id := by
  by_cases h : id = other
  · simp [h, List.count_eq_zero]
  · simp [h, List.count_filter]

theorem count_taskIds (queue : Queue) (id : Nat) :
    queue.taskIds.count id = (queue.waiting.map (·.id)).count id + queue.running.count id := by
  rw [taskIds, List.count_append]

/-! ### What a move can do

One lemma for each of the moves that have cases, so that no proof below opens them again. -/

/-- The queue without the tasks of a record that wait. -/
def withoutTask (queue : Queue) (id : Nat) : Queue :=
  { queue with waiting := withoutId id queue.waiting }

/-- The queue when the task of a record is under way. -/
def launched (queue : Queue) (id : Nat) : Queue :=
  { queue.withoutTask id with running := queue.running ++ [id] }

/-- A worker takes up a task that waits and executes it if the record is still active. -/
theorem start_cases (queue : Queue) (id : Nat) :
    queue.start id = (none, queue) ∨
      ∃ ctx ∈ queue.waiting, ctx.id = id ∧
        (id ∈ queue.active ∧ queue.start id = (some ctx, queue.launched id) ∨
          id ∉ queue.active ∧ queue.start id = (none, queue.withoutTask id)) := by
  rw [start]
  split
  · split
    · exact Or.inl rfl
    · next ctx rest found =>
      have mem : ctx ∈ withId id queue.waiting := found ▸ List.mem_cons_self
      have listed := List.mem_filter.1 mem
      refine Or.inr ⟨ctx, listed.1, by simpa using listed.2, ?_⟩
      by_cases active : id ∈ queue.active
      · exact Or.inl ⟨active, if_pos (isActive_iff.2 active)⟩
      · exact Or.inr ⟨active, if_neg (mt isActive_iff.1 active)⟩
  · exact Or.inl rfl

theorem count_taskIds_withoutTask (queue : Queue) (other id : Nat) :
    (queue.withoutTask other).taskIds.count id =
      if id = other then queue.running.count id else queue.taskIds.count id := by
  rw [count_taskIds, count_taskIds, withoutTask, count_withoutId]
  split
  · exact Nat.zero_add _
  · rfl

theorem count_taskIds_launched (queue : Queue) (other id : Nat) :
    (queue.launched other).taskIds.count id =
      if id = other then queue.running.count id + 1 else queue.taskIds.count id := by
  have left := count_taskIds_withoutTask queue other id
  rw [count_taskIds] at left ⊢
  change _ + (queue.running ++ [other]).count id = _
  rw [List.count_append, count_singleton, ← Nat.add_assoc]
  change _ + queue.running.count id = _ at left
  split at left
  · next same =>
    rw [if_pos same, if_pos same]
    exact congrArg (· + 1) left
  · next other => rw [if_neg other, if_neg other]; exact left

theorem count_active_ended (queue : Queue) (other id : Nat) :
    (queue.ended other).active.count id = if id = other then 0 else queue.active.count id :=
  count_filter_ne other id queue.active

theorem count_taskIds_ended (queue : Queue) (other id : Nat) :
    (queue.ended other).taskIds.count id =
      if id = other then (queue.waiting.map (·.id)).count id else queue.taskIds.count id := by
  rw [count_taskIds, count_taskIds, ended, count_filter_ne]
  split <;> rfl

/-- The result of a task whose record is not active is dropped. Otherwise it parks the record or
resolves it. -/
theorem finish_cases (queue : Queue) (ctx : Context) (result : Except Error Response) (now : Nat) :
    ctx.id ∉ queue.active ∧ queue.finish ctx result now = queue.ended ctx.id ∨
      ctx.id ∈ queue.active ∧ isParking result = true ∧
        queue.finish ctx result now = (queue.ended ctx.id).park ctx ∨
      ctx.id ∈ queue.active ∧ isParking result = false ∧
        queue.finish ctx result now = (queue.ended ctx.id).resolve ctx result now := by
  by_cases active : ctx.id ∈ queue.active
  · have eq : queue.finish ctx result now = match result with
        | .error (.awaitingInput _) => (queue.ended ctx.id).park ctx
        | _ => (queue.ended ctx.id).resolve ctx result now := if_pos (isActive_iff.2 active)
    rw [eq]
    split
    · exact Or.inr (Or.inl ⟨active, rfl, rfl⟩)
    · next plain =>
      refine Or.inr (Or.inr ⟨active, ?_, rfl⟩)
      rw [isParking]
      exact plain
  · exact Or.inl ⟨active, if_neg (mt isActive_iff.1 active)⟩

/-- The queue without a record, wherever it stands. -/
def dropped (queue : Queue) (id : Nat) : Queue :=
  { queue with
    pending := withoutId id queue.pending
    active := if queue.isPending id then queue.active else queue.active.filter (· != id)
    awaiting := unmark id queue.awaiting
    priority := unmark id queue.priority
    isSignalled := true }

theorem count_pendingIds_dropped (queue : Queue) (other id : Nat) :
    (queue.dropped other).pendingIds.count id =
      if id = other then 0 else queue.pendingIds.count id :=
  count_withoutId other id queue.pending

/-- A record that is pending is not looked for among the active ones. -/
theorem count_active_dropped (queue : Queue) (other id : Nat) :
    (queue.dropped other).active.count id =
      if id = other ∧ other ∉ queue.pendingIds then 0 else queue.active.count id := by
  rw [dropped]
  by_cases pending : other ∈ queue.pendingIds
  · simp [isPending_iff, pending]
  · simp [isPending_iff, pending, count_filter_ne]

/-- Cancelling does nothing unless the record is pending or active. -/
theorem cancel_cases (queue : Queue) (id : Nat) :
    (id ∈ queue.pendingIds ∨ id ∈ queue.active) ∧
        queue.cancel id = (true, (queue.dropped id).deliver id (.error .cancelled)) ∨
      id ∉ queue.pendingIds ∧ id ∉ queue.active ∧ queue.cancel id = (false, queue) := by
  rw [cancel]
  split
  · next there =>
    rw [Bool.or_eq_true, isPending_iff, isActive_iff] at there
    exact Or.inl ⟨there, rfl⟩
  · next absent =>
    rw [Bool.or_eq_true, isPending_iff, isActive_iff, not_or] at absent
    exact Or.inr ⟨absent.1, absent.2, rfl⟩

/-! ### Dispatch -/

/-- All that dispatch does to the places of records: of every number either nothing moves, or its
pending records become active, with a task for each. -/
structure Dispatched (before after : Queue) : Prop where
  /-- The two cases for a number. -/
  moved : ∀ id,
    after.pendingIds.count id = before.pendingIds.count id ∧
        after.active.count id = before.active.count id ∧
        after.taskIds.count id = before.taskIds.count id ∨
      after.pendingIds.count id = 0 ∧
        after.active.count id = before.active.count id + before.pendingIds.count id ∧
        after.taskIds.count id = before.taskIds.count id + before.pendingIds.count id
  /-- No outcome is delivered. -/
  delivered : after.delivered = before.delivered
  /-- No number is given out. -/
  nextId : after.nextId = before.nextId

/-- The records that are due have the numbers of pending ones, and all pending ones of a number or
none are due. -/
theorem count_due (queue : Queue) (id : Nat) :
    (queue.due.map (·.id)).count id = 0 ∨
      (queue.due.map (·.id)).count id = queue.pendingIds.count id := by
  rw [due]
  split
  · exact Or.inr rfl
  · next other _ =>
    split
    · rw [count_withId]
      split
      · exact Or.inr rfl
      · exact Or.inl rfl
    · split
      · exact Or.inl rfl
      · exact Or.inr rfl

theorem count_pendingIds_dispatch (queue : Queue) (records : List Context) (id : Nat) :
    (queue.dispatch records).pendingIds.count id =
      if (records.map (·.id)).count id = 0 then queue.pendingIds.count id else 0 := by
  have dropped : ∀ pending : List Context,
      ((pending.filter fun ctx => !records.any fun record => record.id == ctx.id).map
          (·.id)).count id =
        if (records.map (·.id)).count id = 0 then (pending.map (·.id)).count id else 0 := by
    intro pending
    induction pending with
    | nil => simp
    | cons ctx rest ih =>
      rw [List.filter_cons]
      by_cases due : ctx.id ∈ records.map (·.id)
      · have : records.any (fun record => record.id == ctx.id) = true := by simpa using due
        rw [if_neg (by simp [this]), ih]
        split
        · next absent =>
          have : ctx.id ≠ id := fun same => List.count_eq_zero.1 absent (same ▸ due)
          simp [this]
        · rfl
      · have : records.any (fun record => record.id == ctx.id) = false := by simpa using due
        rw [if_pos (by simp [this]), List.map_cons, List.count_cons, ih, List.map_cons,
          List.count_cons]
        split
        · rfl
        · next present =>
          have : ctx.id ≠ id := fun same => present (List.count_eq_zero.2 (same ▸ due))
          simp [this]
  exact dropped queue.pending

theorem dispatched_dispatch {queue : Queue} {records : List Context}
    (h : ∀ id, (records.map (·.id)).count id = 0 ∨
      (records.map (·.id)).count id = queue.pendingIds.count id) (priority : Option Nat) :
    Dispatched queue { queue.dispatch records with priority } where
  moved id := by
    have pending := count_pendingIds_dispatch queue records id
    have active : (queue.dispatch records).active.count id =
        queue.active.count id + (records.map (·.id)).count id := by
      simp [dispatch]
    have task : (queue.dispatch records).taskIds.count id =
        queue.taskIds.count id + (records.map (·.id)).count id := by
      simp only [dispatch, taskIds, List.map_append, List.count_append]
      omega
    change (queue.dispatch records).pendingIds.count id = _ ∧
        (queue.dispatch records).active.count id = _ ∧
        (queue.dispatch records).taskIds.count id = _ ∨
      (queue.dispatch records).pendingIds.count id = 0 ∧
        (queue.dispatch records).active.count id = _ ∧
        (queue.dispatch records).taskIds.count id = _
    rw [pending, active, task]
    rcases h id with none | all
    · exact Or.inl (by simp [none])
    · rw [all]
      split <;> omega
  delivered := rfl
  nextId := rfl

/-- Dropping stale responses moves no record. -/
theorem dispatched_evict (queue : Queue) (now : Nat) : Dispatched queue (queue.evict now).2 where
  moved _ := Or.inl ⟨rfl, rfl, rfl⟩
  delivered := rfl
  nextId := rfl

/-- Processing drops stale responses and then, unless a record waits for input, dispatches. -/
theorem process_snd (queue : Queue) (now : Nat) :
    (queue.process now).2 =
      match queue.awaiting with
      | some _ => (queue.evict now).2
      | none => { (queue.evict now).2.dispatch (queue.evict now).2.due with
          priority := (queue.evict now).2.livePriority } := by
  obtain ⟨_, _, _, _, _, _, _, _, _, _ | _, _, _⟩ := queue <;> rfl

theorem Dispatched.process (queue : Queue) (now : Nat) :
    Dispatched queue (queue.process now).2 := by
  have stale := dispatched_evict queue now
  rw [process_snd]
  split
  · exact stale
  · have due := dispatched_dispatch (count_due (queue.evict now).2)
      (queue.evict now).2.livePriority
    exact ⟨due.moved, due.delivered, due.nextId⟩

/-- The queue when input has arrived and nothing was dispatched yet. -/
def supplied (queue : Queue) (id : Nat) (update : Context → Context) : Queue :=
  { queue with
    pending := queue.pending.map fun (ctx : Context) => if ctx.id = id then update ctx else ctx
    priority := if queue.isPending id then some id else queue.priority
    awaiting := none }

theorem pendingIds_supplied (queue : Queue) (id : Nat) {update : Context → Context}
    (same : ∀ ctx, (update ctx).id = ctx.id) :
    (supplied queue id update).pendingIds = queue.pendingIds := by
  rw [pendingIds, pendingIds, supplied, List.map_map]
  refine List.map_congr_left fun ctx _ => ?_
  by_cases found : ctx.id = id <;> simp [found, same]

/-- Resuming changes a record under its number and clears marks; what is left of it is to
process. -/
theorem Dispatched.resume (queue : Queue) (id : Nat) {update : Context → Context}
    (h : ∀ ctx, (update ctx).id = ctx.id) (now : Nat) :
    Dispatched queue (queue.resume id update now).2 := by
  have processed := Dispatched.process (supplied queue id update) now
  refine ⟨fun other => ?_, processed.delivered, processed.nextId⟩
  have moved := processed.moved other
  rwa [pendingIds_supplied queue id h] at moved

/-- Keeping a response and delivering an outcome touch no record and no mark. -/
theorem reported_eq (queue : Queue) (ctx : Context) (result : Except Error Response)
    (now : Nat) :
    (reported queue ctx result now).pending = queue.pending ∧
      (reported queue ctx result now).active = (queue.ended ctx.id).active ∧
      (reported queue ctx result now).waiting = queue.waiting ∧
      (reported queue ctx result now).running = (queue.ended ctx.id).running ∧
      (reported queue ctx result now).awaiting = queue.awaiting ∧
      (reported queue ctx result now).priority = queue.priority := by
  rw [reported, keep_eq]
  split <;> exact ⟨rfl, rfl, rfl, rfl, rfl, rfl⟩

theorem delivered_reported (queue : Queue) (ctx : Context) (result : Except Error Response)
    (now : Nat) :
    (reported queue ctx result now).delivered = queue.delivered ++ [(ctx.id, result)] := by
  cases result <;> rfl

theorem nextId_reported (queue : Queue) (ctx : Context) (result : Except Error Response)
    (now : Nat) : (reported queue ctx result now).nextId = queue.nextId := by
  cases result <;> rfl

/-- The queue without the mark of priority. -/
def freed (queue : Queue) : Queue := { queue with priority := none }

/-- Resolving keeps the response and delivers the outcome; then, if the record had priority, the
others are dispatched. -/
theorem resolve_eq (queue : Queue) (ctx : Context) (result : Except Error Response) (now : Nat) :
    (queue.ended ctx.id).resolve ctx result now =
      if queue.priority = some ctx.id then ((freed (reported queue ctx result now)).process now).2
      else reported queue ctx result now := rfl

theorem Dispatched.resolve (queue : Queue) (ctx : Context) (result : Except Error Response)
    (now : Nat) :
    Dispatched (reported queue ctx result now) ((queue.ended ctx.id).resolve ctx result now) := by
  rw [resolve_eq]
  split
  · have processed := Dispatched.process (freed (reported queue ctx result now)) now
    exact ⟨processed.moved, processed.delivered, processed.nextId⟩
  · exact ⟨fun _ => Or.inl ⟨rfl, rfl, rfl⟩, rfl, rfl⟩

theorem Dispatched.supplyOtp (queue : Queue) (id : Nat) (channel : Option String) (otp : String)
    (now : Nat) : Dispatched queue (queue.supplyOtp id channel otp now).2 :=
  Dispatched.resume queue id (fun _ => by cases channel <;> rfl) now

theorem Dispatched.supplyNothing (queue : Queue) (id now : Nat) :
    Dispatched queue (queue.supplyNothing id now).2 :=
  Dispatched.resume queue id (fun _ => rfl) now

/-! ### Responses -/

/-- Dispatching keeps the responses that are not stale. -/
theorem completed_process (queue : Queue) (now : Nat) :
    (queue.process now).2.completed = (queue.evict now).2.completed := by
  rw [process_snd]
  split
  · rfl
  · rfl

theorem completed_resume (queue : Queue) (id : Nat) (update : Context → Context) (now : Nat) :
    (queue.resume id update now).2.completed = (queue.evict now).2.completed :=
  completed_process (supplied queue id update) now

/-- Resolving a record dispatches others if it had priority. -/
theorem completed_resolve (queue : Queue) (ctx : Context) (result : Except Error Response)
    (now : Nat) :
    ((queue.ended ctx.id).resolve ctx result now).completed =
      if queue.priority = some ctx.id then ((reported queue ctx result now).evict now).2.completed
      else (reported queue ctx result now).completed := by
  rw [resolve_eq]
  split
  · exact completed_process _ now
  · rfl

theorem completed_reported {queue : Queue} {ctx : Context} (result : Except Error Response)
    (now : Nat) (first : ∀ entry ∈ queue.completed, entry.id ≠ ctx.id) :
    (reported queue ctx result now).completed =
      queue.completed ++ (completion? ctx now result).toList := by
  cases result with
  | error error => exact (List.append_nil _).symm
  | ok response =>
    have others : queue.completed.filter (fun entry => entry.id != ctx.id) = queue.completed :=
      List.filter_eq_self.2 fun entry mem => bne_iff_ne.2 (first entry mem)
    exact congrArg (· ++ [_]) others

/-- What is stale and what stays make up what there was. -/
theorem perm_evict (queue : Queue) (now : Nat) :
    ((queue.evict now).2.completed ++ queue.stale now).Perm queue.completed := by
  have stale : queue.stale now = queue.completed.filter fun entry =>
      !decide (now - entry.completedAt < queue.retention * 1000) :=
    List.filter_congr fun _ _ => by rw [← decide_not, decide_eq_decide, Nat.not_lt]
  rw [stale]
  exact List.filter_append_perm _ queue.completed

/-- Resolving a record keeps its response; what is stale then is dropped if the record had
priority. -/
theorem perm_resolve {queue : Queue} {ctx : Context} {result : Except Error Response}
    (active : ctx.id ∈ queue.active) (resolves : isParking result = false) (now : Nat) :
    (((queue.ended ctx.id).resolve ctx result now).completed ++
        queue.drops (.finish ctx result now)).Perm
      (reported queue ctx result now).completed := by
  have dropped : queue.drops (.finish ctx result now) =
      if queue.priority = some ctx.id then (reported queue ctx result now).stale now else [] := by
    simp [drops, isActive_iff.2 active, resolves]
  rw [dropped, completed_resolve]
  split
  · exact perm_evict _ now
  · rw [List.append_nil]

/-- A response that is resolved with is there afterwards, unless it is dropped at once. -/
theorem mem_completed_resolve (queue : Queue) (ctx : Context) (response : Response) (now : Nat)
    (lasting : 0 < queue.retention ∨ queue.priority ≠ some ctx.id) :
    ⟨ctx.id, response, ctx.attempts, now⟩ ∈
      ((queue.ended ctx.id).resolve ctx (.ok response) now).completed := by
  have there : ⟨ctx.id, response, ctx.attempts, now⟩ ∈
      (reported queue ctx (.ok response) now).completed :=
    List.mem_append_right _ List.mem_cons_self
  rw [completed_resolve]
  split
  · next prior =>
    have positive := lasting.resolve_right (not_not_intro prior)
    have recent : now - now < queue.retention * 1000 := by omega
    exact List.mem_filter.2 ⟨there, decide_eq_true recent⟩
  · exact there

/-- If every number has one response, that is the one which is found. -/
theorem toList_find? {entries : List Completed} (once : (entries.map (·.id)).Nodup) (id : Nat) :
    (entries.find? fun entry => entry.id == id).toList =
      entries.filter fun entry => entry.id == id := by
  induction entries with
  | nil => rfl
  | cons entry rest ih =>
    obtain ⟨alone, once⟩ := List.nodup_cons.1 once
    by_cases same : entry.id = id
    · have others : rest.filter (fun other => other.id == id) = [] :=
        List.filter_eq_nil_iff.2 fun other mem equal =>
          alone (List.mem_map.2 ⟨other, mem, (beq_iff_eq.1 equal).trans same.symm⟩)
      simp [same, others]
    · simpa [same] using ih once

theorem toList_take {queue : Queue} (once : (queue.completed.map (·.id)).Nodup) (id : Nat) :
    (queue.take id).1.toList = queue.completed.filter fun entry => entry.id == id :=
  toList_find? once id

/-- What is taken and what stays make up what there was. -/
theorem perm_take {queue : Queue} (once : (queue.completed.map (·.id)).Nodup) (id : Nat) :
    ((queue.take id).2.completed ++ (queue.take id).1.toList).Perm queue.completed := by
  rw [toList_take once]
  exact List.perm_append_comm.trans (List.filter_append_perm _ queue.completed)

end Queue

end GatewaySession
