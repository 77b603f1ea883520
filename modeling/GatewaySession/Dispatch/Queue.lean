import GatewaySession.Credential.Basic
import GatewaySession.Exchange.Context

/-!
# The request queue

A record of a request is *pending*, when it was submitted and is not under way or when it is parked
until input arrives, or *active*, when it was dispatched and has not been resolved. A resolved
request has its outcome delivered, once; a successful response is also kept, for a time, to be
taken.

Submitting dispatches nothing. Processing moves pending records to active ones and leaves a task for
each, and does nothing while some record waits for input. A record whose input arrived is dispatched
alone, ahead of the others, which follow when it is resolved. Tasks start when a worker is free; a
task whose record was cancelled in the meantime ends at once.

The queue is a value and each operation a function on it. Who executes a task, and when, is left
open: `Queue.start` hands out the context and `Queue.finish` takes back the result. Times are counts
of milliseconds.

## Main definitions

* `Completed` — a response that is kept
* `Queue` — the queue
* `Queue.submit`, `Queue.process`, `Queue.start`, `Queue.finish` — the life of a record
* `Queue.cancel`, `Queue.resume`, `Queue.take`, `Queue.evict` — what callers may do
-/

namespace GatewaySession

/-- A successful response that is kept until it is taken. -/
structure Completed where
  /-- The number of the request. -/
  id : Nat
  /-- The response. -/
  response : Response
  /-- How often the request was sent. -/
  attempts : Nat
  /-- When it was resolved. -/
  completedAt : Nat

/-- A queue of requests. -/
structure Queue where
  /-- How many tasks may be under way at once. -/
  workers : Nat
  /-- Seconds that a response is kept. -/
  retention : Nat
  /-- The number of the next request. -/
  nextId : Nat := 1
  /-- Pending records in ascending order of numbers. -/
  pending : List Context := []
  /-- Numbers of active records. -/
  active : List Nat := []
  /-- Tasks that have not started, in the order in which they were dispatched. -/
  waiting : List Context := []
  /-- Numbers of the tasks under way. -/
  running : List Nat := []
  /-- Responses that are kept. -/
  completed : List Completed := []
  /-- Outcomes in the order in which they were delivered. -/
  delivered : List (Nat × Except Error Response) := []
  /-- The record that waits for input. -/
  awaiting : Option Nat := none
  /-- The record that is dispatched ahead of the others. -/
  priority : Option Nat := none
  /-- Whether a submission or a cancellation was signalled to a dispatcher. -/
  isSignalled : Bool := false

namespace Queue

/-! ### Parts -/

/-- Whether a record is pending. -/
def isPending (queue : Queue) (id : Nat) : Bool := queue.pending.any fun ctx => ctx.id == id

/-- Whether a record is active. -/
def isActive (queue : Queue) (id : Nat) : Bool := queue.active.contains id

/-- Puts a record in its place. -/
def insertPending (ctx : Context) : List Context → List Context
  | [] => [ctx]
  | other :: rest =>
    if ctx.id < other.id then ctx :: other :: rest else other :: insertPending ctx rest

/-- The records with a number. -/
def withId (id : Nat) (records : List Context) : List Context :=
  records.filter fun ctx => ctx.id == id

/-- The records with other numbers. -/
def withoutId (id : Nat) (records : List Context) : List Context :=
  records.filter fun ctx => ctx.id != id

/-- A mark unless it is on a given record. -/
def unmark (id : Nat) (mark : Option Nat) : Option Nat := if mark = some id then none else mark

/-- Delivers the outcome of a request. -/
def deliver (queue : Queue) (id : Nat) (outcome : Except Error Response) : Queue :=
  { queue with delivered := queue.delivered ++ [(id, outcome)] }

/-- The outcome that was delivered for a request. -/
def outcome? (queue : Queue) (id : Nat) : Option (Except Error Response) :=
  (queue.delivered.find? fun entry => entry.1 == id).map (·.2)

/-! ### Submission -/

/-- Gives out a number that no request has. -/
def allocate (queue : Queue) : Nat × Queue :=
  (queue.nextId, { queue with nextId := queue.nextId + 1 })

/-- Makes a request pending under a new number. -/
def submit (queue : Queue) (request : Request) : Nat × Queue :=
  let (id, queue) := queue.allocate
  (id, { queue with
    pending := insertPending { id, request } queue.pending
    isSignalled := true })

/-! ### Responses that are kept -/

/-- Drops the responses that were kept for as long as they are to be; tells how many. -/
def evict (queue : Queue) (now : Nat) : Nat × Queue :=
  let fresh := queue.completed.filter fun entry =>
    now - entry.completedAt < queue.retention * 1000
  (queue.completed.length - fresh.length, { queue with completed := fresh })

/-- Takes out the response of a request. -/
def take (queue : Queue) (id : Nat) : Option Completed × Queue :=
  (queue.completed.find? fun entry => entry.id == id,
    { queue with completed := queue.completed.filter fun entry => entry.id != id })

/-! ### Dispatch -/

/-- Makes records active and leaves a task for each. -/
def dispatch (queue : Queue) (records : List Context) : Queue :=
  { queue with
    pending := queue.pending.filter fun ctx => !records.any fun record => record.id == ctx.id
    active := queue.active ++ records.map (·.id)
    waiting := queue.waiting ++ records }

/-- The records that are due: the one with priority alone while it is pending, none while it is
active, and all if there is no such record. -/
def due (queue : Queue) : List Context :=
  match queue.priority with
  | none => queue.pending
  | some id =>
    if queue.isPending id then withId id queue.pending
    else if queue.isActive id then []
    else queue.pending

/-- The mark of priority, taken away if its record is neither pending nor active. -/
def livePriority (queue : Queue) : Option Nat :=
  queue.priority.filter fun id => queue.isPending id || queue.isActive id

/-- Drops stale responses and dispatches the records that are due, unless one waits for input; tells
how many were dispatched. -/
def process (queue : Queue) (now : Nat) : Nat × Queue :=
  let (_, queue) := queue.evict now
  match queue.awaiting with
  | some _ => (0, queue)
  | none =>
    let records := queue.due
    (records.length, { queue.dispatch records with priority := queue.livePriority })

/-! ### Tasks -/

/-- Whether a task can start. -/
def hasFreeWorker (queue : Queue) : Bool := queue.running.length < queue.workers

/-- Starts the task of a record. Nothing is handed out if the record was cancelled, nor if there is
no such task or no worker for it. -/
def start (queue : Queue) (id : Nat) : Option Context × Queue :=
  if queue.hasFreeWorker then
    match withId id queue.waiting with
    | [] => (none, queue)
    | ctx :: _ =>
      let queue := { queue with waiting := withoutId id queue.waiting }
      if queue.isActive id then (some ctx, { queue with running := queue.running ++ [id] })
      else (none, queue)
  else (none, queue)

/-- Parks a record until input arrives. The first to be parked halts dispatch. -/
def park (queue : Queue) (ctx : Context) : Queue :=
  { queue with
    pending := insertPending ctx queue.pending
    awaiting := match queue.awaiting with
      | none => some ctx.id
      | some id => some id
    priority := unmark ctx.id queue.priority }

/-- Keeps a successful response. -/
def keep (queue : Queue) (ctx : Context) (now : Nat) : Except Error Response → Queue
  | .ok response =>
    { queue with
      completed := queue.completed.filter (fun entry => entry.id != ctx.id) ++
        [⟨ctx.id, response, ctx.attempts, now⟩] }
  | .error _ => queue

/-- Resolves a record. If it had priority, the others are dispatched. -/
def resolve (queue : Queue) (ctx : Context) (result : Except Error Response) (now : Nat) : Queue :=
  let resolved := ((queue.keep ctx now result).deliver ctx.id result)
  if queue.priority = some ctx.id then ({ resolved with priority := none }.process now).2
  else resolved

/-- Takes back the result of a task. The result of a cancelled one is dropped. -/
def finish (queue : Queue) (ctx : Context) (result : Except Error Response) (now : Nat) : Queue :=
  let wasActive := queue.isActive ctx.id
  let queue := { queue with
    active := queue.active.filter (· != ctx.id)
    running := queue.running.filter (· != ctx.id) }
  if wasActive then
    match result with
    | .error (.awaitingInput _) => queue.park ctx
    | _ => queue.resolve ctx result now
  else queue

/-! ### Cancellation and input -/

/-- Cancels a request that is not resolved yet; tells whether there was one. -/
def cancel (queue : Queue) (id : Nat) : Bool × Queue :=
  if queue.isPending id || queue.isActive id then
    let queue := { queue with
      pending := withoutId id queue.pending
      active := if queue.isPending id then queue.active else queue.active.filter (· != id)
      awaiting := unmark id queue.awaiting
      priority := unmark id queue.priority
      isSignalled := true }
    (true, queue.deliver id (.error .cancelled))
  else (false, queue)

/-- Ends the halt of dispatch, changes the record that input arrived for if it is pending, gives it
priority, and dispatches; tells how many were dispatched. -/
def resume (queue : Queue) (id : Nat) (update : Context → Context) (now : Nat) : Nat × Queue :=
  let updated := { queue with
    pending := queue.pending.map fun (ctx : Context) => if ctx.id = id then update ctx else ctx
    priority := if queue.isPending id then some id else queue.priority
    awaiting := none }
  updated.process now

/-- Resumes a request with a one-time passcode and the channel it came over. -/
def supplyOtp (queue : Queue) (id : Nat) (channel : Option String) (otp : String) (now : Nat) :
    Nat × Queue :=
  queue.resume id (fun ctx =>
    match channel with
    | some channel => (ctx.withOtp otp).withOtpChannel channel
    | none => ctx.withOtp otp) now

/-- Resumes a request that needs nothing of its own: the key store was unlocked, or the user's
credential is cached. -/
def supplyNothing (queue : Queue) (id : Nat) (now : Nat) : Nat × Queue :=
  queue.resume id (fun ctx => ctx) now

end Queue

end GatewaySession
