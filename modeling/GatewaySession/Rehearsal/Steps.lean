import GatewaySession.Rehearsal.Stage

/-!
# Steps of a rehearsal

Programs run on what is open: the vault, the session, the desk, the engine. Requests that a queue
dispatched run only when the world is settled or its time advanced, one after the other and each
until it is resolved or parked; requests that are dispatched meanwhile follow. Dispatchers have
their turns among them.

Settling ends because every turn was put on the agenda by something that is used up: an earlier
turn, a scripted action, the priority of a record, or a signal to a dispatcher.

## Main definitions

* `World.onVault`, `World.onSession` — a program run on the vault or the session
* `World.onDesk`, `World.onEngine` — a program run at the desk or by the engine
* `World.executeContext`, `World.executeNumbered` — requests executed at the desk or by the engine
* `World.settle` — the agenda is worked off
* `World.poll` — the outcome that a handle gives
-/

namespace GatewaySession

namespace Rehearsal

namespace World

variable {α : Type}

/-! ### Vault and session -/

/-- Runs a program on the vault: the one that was opened, or the session's. -/
def onVault (world : World) (program : Vault → Program α) : Option (Except Error α × World) :=
  let vault? := world.vault?.or (world.session?.map fun (session, seat) => (session.vault, seat))
  vault?.map fun (vault, seat) => world.perform { seat } (program vault)

/-- Runs a program on the session. -/
def onSession (world : World) (program : Session → Program α) :
    Option (Except Error α × World) :=
  world.session?.map fun (session, seat) => world.perform { seat } (program session)

/-- Runs a program at a desk. -/
def onDeskAt (world : World) (k? : Option Nat) (program : Session → Program α) :
    Option (Except Error α × World) :=
  (world.deskAt? k?).map fun desk => world.perform ⟨desk.seat, k?⟩ (program desk.session)

/-- Runs a program at the desk that steps act on. -/
def onDesk (world : World) (program : Session → Program α) : Option (Except Error α × World) :=
  world.onDeskAt world.desk? program

/-- Runs a program at the desk of the engine. -/
def onEngine (world : World) (program : Session → Program α) : Option (Except Error α × World) :=
  world.onDeskAt world.engine? program

/-- Whether a credential of the session's user is cached. -/
def hasUser? (world : World) : Option Bool :=
  world.session?.map fun (_, seat) => (world.seat seat).user.isSome

/-! ### Requests at the desk -/

/-- Executes a context at a desk. -/
def execute (world : World) (k? : Option Nat) (ctx : Context) :
    Option (Except Error Response × Context × World) :=
  (world.onDeskAt k? (·.execute ctx)).map fun
    | (.ok (result, last), world) => (result, last, world)
    | (.error error, world) => (.error error, ctx, world)

/-- The context of a number that is executed step by step, made from a request at first. -/
def contextFor (world : World) (id : Nat) (request : Request) : Context :=
  (world.contexts.find? fun ctx => ctx.id == id).getD { id, request }

/-- Keeps a context. -/
def keepContext (world : World) (ctx : Context) : World :=
  { world with contexts := world.contexts.filter (fun other => other.id != ctx.id) ++ [ctx] }

/-- Executes the context of a number, after adding what was supplied, and keeps it. -/
def executeContext (world : World) (id : Nat) (request : Request)
    (extra : List (String × String)) : Option (Except Error Response × Context × World) :=
  let ctx := extra.foldl (fun ctx entry => ctx.withExtra entry.1 entry.2)
    (world.contextFor id request)
  (world.execute world.desk? ctx).map fun (result, last, world) =>
    (result, last, world.keepContext last)

/-- Executes a request of its own. -/
def executeAlone (world : World) (request : Request) : Option (Except Error Response × World) :=
  (world.execute world.desk? { id := 0, request }).map fun (result, _, world) => (result, world)

/-- Executes a request by the engine, under a number of its queue. -/
def executeNumbered (world : World) (request : Request) : Option (Except Error Response × World) :=
  let (id, world) := world.withQueueAt world.engine? 0 (·.allocate)
  (world.execute world.engine? { id, request }).map fun (result, _, world) => (result, world)

/-! ### Settling -/

/-- Runs the task of a record: nothing if the record was cancelled. -/
def runTask (world : World) (k id : Nat) : World :=
  let (ctx?, world) := world.withQueueAt (some k) none (·.start id)
  match ctx?.bind (world.execute (some k)) with
  | some (result, last, world) =>
    (world.withQueueAt (some k) () fun queue =>
      ((), queue.finish last result world.elapsed)).2
  | none => world

/-- Has a dispatcher dispatch, for the signal that woke it and for one that stayed meanwhile, and
wait for the next. -/
def runDispatcher (world : World) (k number : Nat) (isWoken : Bool) : World :=
  let world := if isWoken then (world.processAt (some k)).2 else world
  let (wasSignalled, world) := world.withQueueAt (some k) false fun queue =>
    (queue.isSignalled, { queue with isSignalled := false })
  let world := if wasSignalled then (world.processAt (some k)).2 else world
  { world with
    desks := world.desks.modify k fun desk => { desk with idle := desk.idle ++ [number] } }

/-- Has a dispatcher leave. A signal that had woken it, also since it was told to leave, is passed
on. -/
def dismiss (world : World) (k number : Nat) (wasWoken : Bool) : World :=
  let isWoken := wasWoken || world.agenda.contains (.dispatcher k number true)
  let world := { world with
    agenda := world.agenda.filter (· != .dispatcher k number true)
    desks := world.desks.modify k fun desk => { desk with idle := desk.idle.erase number } }
  if isWoken then
    (world.withQueueAt (some k) () fun queue => ((), { queue with isSignalled := true })).2
  else world

/-- Gives a turn. -/
def takeTurn (world : World) : Turn → World
  | .task k id => world.runTask k id
  | .dispatcher k number isWoken => world.runDispatcher k number isWoken
  | .leave k number wasWoken => world.dismiss k number wasWoken

/-- Works off a number of turns, as long as there are any. -/
def settleFor : Nat → World → World
  | 0, world => world
  | n + 1, world =>
    match world.agenda with
    | [] => world
    | turn :: rest => settleFor n ({ world with agenda := rest }.takeTurn turn)

/-- How many scripted actions are left. -/
def actionsLeft (world : World) : Nat :=
  ((world.hooks.flatMap (·.lists)).flatMap id).length +
    (world.script.answers.flatMap (·.2)).length

/-- More turns than there can be. A task is one of the records there are or that an action
submits, dispatched by a dispatcher's turn, by an action, or by the priority of a record; and a
dispatcher's turn is on the agenda or comes from a signal, which an action makes or a dispatcher
that leaves passes on. -/
def turnBound (world : World) : Nat :=
  let records := (world.desks.flatMap fun desk => desk.queue.pending ++ desk.queue.waiting).length +
    world.actionsLeft
  (records + 1) * (6 * world.actionsLeft + 5 * world.agenda.length + world.desks.length + 1)

/-- Works off the agenda, with the turns that are added meanwhile. -/
def settle (world : World) : World := settleFor world.turnBound world

/-- Advances the clock of the queue. Time passes for tasks too, so they run. -/
def advance (world : World) (milliseconds : Nat) : World :=
  { world with elapsed := world.elapsed + milliseconds }.settle

/-! ### The queue -/

/-- What a handle gives. -/
inductive Polled where
  /-- The outcome. -/
  | outcome (result : Except Error Response)
  /-- There is no outcome yet. -/
  | pending
  /-- There is no handle. -/
  | noHandle

/-- The desk of the request that a handle is on. -/
def handle? (world : World) (id : Nat) : Option Nat :=
  (world.handles.find? fun handle => handle.1 == id).map (·.2)

/-- Gives up a handle; tells whether there was one. -/
def dropHandle (world : World) (id : Nat) : Bool × World :=
  ((world.handle? id).isSome,
    { world with handles := world.handles.filter fun handle => handle.1 != id })

/-- The outcome of a request of a desk. When nothing keeps the desk up, a request without another
outcome is cancelled. -/
def outcomeAt? (world : World) (k id : Nat) : Option (Except Error Response) :=
  match (world.deskAt? (some k)).bind (·.queue.outcome? id) with
  | some result => some result
  | none => if world.isKept k then none else some (.error .cancelled)

/-- The outcome that a handle gives, after which it is gone. -/
def poll (world : World) (id : Nat) : Polled × World :=
  match world.handle? id with
  | none => (.noHandle, world)
  | some k =>
    match world.outcomeAt? k id with
    | some result => (.outcome result, (world.dropHandle id).2)
    | none => (.pending, world)

/-- Resumes a request with a one-time passcode. -/
def supplyOtp (world : World) (id : Nat) (channel : Option String) (otp : String) : Nat × World :=
  world.withQueue 0 (·.supplyOtp id channel otp world.elapsed)

/-- Resumes a request after the key store was unlocked. -/
def notifyUnlocked (world : World) (id : Nat) : Nat × World :=
  world.withQueue 0 (·.supplyNothing id world.elapsed)

/-- Drops the responses that were kept long enough. -/
def evict (world : World) : Nat × World := world.withQueue 0 (·.evict world.elapsed)

/-- Takes out a response, with the whole seconds that it was kept. -/
def take (world : World) (id : Nat) : Option (Completed × Nat) × World :=
  let (completed, world) := world.withQueue none (·.take id)
  (completed.map fun entry => (entry, (world.elapsed - entry.completedAt) / 1000), world)

/-! ### What is told of a world -/

/-- What is told of a world after each step. -/
structure Standing where
  /-- All keys of the storage. -/
  keys : List String
  /-- Whether a credential of the session's user is cached. -/
  hasUser : Option Bool
  /-- The request that waits for input, and how many are pending. -/
  queue : Option (Option Nat × Nat)
  /-- Whether the key ring is locked. -/
  isLocked : Bool
  deriving DecidableEq

/-- What is told of a world. -/
def told (world : World) : Standing where
  keys := world.allKeys
  hasUser := world.hasUser?
  queue := world.desk?.map fun _ => world.standing
  isLocked := world.ring.isLocked

/-- What happened in a world during a step. -/
structure Report where
  /-- The requests that the gateway received. -/
  sent : List Request
  /-- What the user was asked. -/
  asked : List (Nat × Need)
  /-- The connections that were made. -/
  built : List (Option String)
  /-- The actions that were done. -/
  acted : List (Action × Outcome)

/-- What happened since an earlier state of a world. -/
def since (world earlier : World) : Report where
  sent := world.gateway.requests.drop earlier.gateway.requests.length
  asked := world.script.asked.drop earlier.script.asked.length
  built := world.gateway.built.drop earlier.gateway.built.length
  acted := world.acted.drop earlier.acted.length

end World

end Rehearsal

end GatewaySession
