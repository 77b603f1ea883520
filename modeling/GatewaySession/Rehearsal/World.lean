import GatewaySession.Dispatch.Queue
import GatewaySession.Engine
import GatewaySession.Rehearsal.Gateway
import GatewaySession.Rehearsal.Script
import GatewaySession.Sealing.KeyRing
import GatewaySession.Storage.Basic

/-!
# Rehearsals

A world in which sessions can be tried out: storage, a key ring, a clock that stands still until it
is set, a scripted gateway and a scripted user. It answers the effects of programs, so that whole
flows run without network, disk or chance. What a running system draws at random is counted up
instead: keys, nonces and identifiers never repeat.

The world knows which session a program belongs to by its seat, which holds what is cached for that
session. Requests are executed and queued at desks. Steps act on one of them, the last that was
opened; an earlier desk is kept up by an engine that stands at it, by tasks it has left and by
dispatchers that serve it. When nothing keeps it up any more its queue is gone, and whoever still
waits for an outcome learns that the request was cancelled.

Tasks and dispatchers have their turns in the order of the agenda. A task is put there when a queue
dispatches it, a dispatcher when it begins its work, when it is woken by a signal and when it has to
leave: until its last turn it still serves its desk and keeps it up.

## Main definitions

* `Desk`, `Turn` — where requests are executed, and who has a turn there
* `World` — the surroundings of a session
* `World.withQueue` — an operation on the queue, which may fill the agenda
* `World.act` — the actions of a script
* `World.answer` — the handler of effects
* `World.perform` — a program run in a world
-/

namespace GatewaySession

namespace Rehearsal

/-- What belongs to one session. -/
structure Seat where
  /-- The cached credential of the user. -/
  user : Option UserCredential := none
  /-- The faults of the storage it was opened on, if the storage was reopened since. -/
  formerFaults : Option (List Fault) := none

/-- Where requests are executed and queued. -/
structure Desk where
  /-- The session. -/
  session : Session
  /-- Its seat. -/
  seat : Nat
  /-- Whether connections are made anew, and recorded, or always the same one is used. -/
  isShared : Bool
  /-- Whether the user is never asked and always defers. -/
  isDeferring : Bool
  /-- The cached connection. -/
  connection : Option Connection := none
  /-- The queue. -/
  queue : Queue
  /-- The dispatchers that wait for a signal, in the order in which they began to wait. -/
  idle : List Nat := []

/-- Who has a turn when a world is settled. -/
inductive Turn where
  /-- The task of a record, at a desk. -/
  | task (desk id : Nat)
  /-- A dispatcher of a desk: one that a signal woke, or one that begins its work. -/
  | dispatcher (desk number : Nat) (isWoken : Bool)
  /-- A dispatcher of a desk that leaves, with a signal that had woken it or without one. -/
  | leave (desk number : Nat) (wasWoken : Bool)
  deriving DecidableEq

/-- The desk of a turn. -/
def Turn.desk : Turn → Nat
  | .task desk _ => desk
  | .dispatcher desk _ _ => desk
  | .leave desk _ _ => desk

/-- Where a program runs. -/
structure Place where
  /-- The seat of its session. -/
  seat : Nat
  /-- The desk, if it runs at one. -/
  desk : Option Nat := none

/-- The surroundings of a session. -/
structure World where
  /-- The storage. -/
  storage : Storage := .memory {}
  /-- The operations that fail. -/
  faults : List Fault := []
  /-- The keys. -/
  ring : KeyRing := {}
  /-- How many keys, nonces and identifiers were drawn. -/
  drawn : Nat := 0
  /-- Nonces that are given out before others are drawn. -/
  nonces : List Gcm.Nonce := []
  /-- The clock, in seconds since the beginning of 1970. -/
  now : Int
  /-- The clock of the queue, in milliseconds. -/
  elapsed : Nat := 0
  /-- The gateway. -/
  gateway : Gateway := {}
  /-- What is done when requests arrive. -/
  hooks : List Hook := []
  /-- The user. -/
  script : UserScript := {}
  /-- The actions that were done. -/
  acted : List (Action × Outcome) := []
  /-- What belongs to each session. -/
  seats : List Seat := []
  /-- The session that steps act on, with its seat. -/
  session? : Option (Session × Nat) := none
  /-- The vault that steps act on, with its seat, if it is not the session's. -/
  vault? : Option (Vault × Nat) := none
  /-- All desks, in the order in which they were opened. -/
  desks : List Desk := []
  /-- The desk that steps act on. -/
  desk? : Option Nat := none
  /-- The desk of the engine. -/
  engine? : Option Nat := none
  /-- The requests whose outcome somebody still waits for, with the desks of their queues. -/
  handles : List (Nat × Nat) := []
  /-- The turns to come, in order. -/
  agenda : List Turn := []
  /-- How many dispatchers ever began. -/
  dispatchers : Nat := 0
  /-- The dispatcher that can be ended, with its desk. -/
  dispatcher? : Option (Nat × Nat) := none
  /-- The contexts of requests that are executed step by step. -/
  contexts : List Context := []

namespace World

variable {α : Type}

/-! ### Chance -/

/-- Octets that count up. -/
def octets (n : Nat) : Nat → UInt8 := fun i => UInt8.ofNat (n / Nat.pow 256 i)

/-- Counts one drawing. -/
def draw (world : World) : Nat × World := (world.drawn, { world with drawn := world.drawn + 1 })

/-- A key that was not drawn before. -/
def freshKey (n : Nat) : Aes256.Key := Vector.ofFn fun i => octets n i

/-- A nonce that was not drawn before. -/
def freshNonce (n : Nat) : Gcm.Nonce := Vector.ofFn fun i => octets n i

/-- An identifier that was not drawn before, in the form of a random one. -/
def freshIdentifier (n : Nat) : String :=
  "00000000-0000-4000-8000-" ++ Bytes.toHex ((List.range 6).reverse.map (octets n))

/-- The next nonce. -/
def nonce (world : World) : Gcm.Nonce × World :=
  match world.nonces with
  | nonce :: rest => (nonce, { world with nonces := rest })
  | [] =>
    let (n, world) := world.draw
    (freshNonce n, world)

/-! ### Seats and desks -/

/-- Adds a seat for a session. -/
def addSeat (world : World) : Nat × World :=
  (world.seats.length, { world with seats := world.seats ++ [{}] })

/-- What belongs to a session. -/
def seat (world : World) (n : Nat) : Seat := world.seats.getD n {}

/-- Caches or drops the credential of a session's user. -/
def cacheUser (world : World) (n : Nat) (credential : Option UserCredential) : World :=
  { world with seats := world.seats.modify n fun seat => { seat with user := credential } }

/-- Adds a desk. -/
def addDesk (world : World) (desk : Desk) : Nat × World :=
  (world.desks.length, { world with desks := world.desks ++ [desk] })

/-- The desk with a number, if a number is given. -/
def deskAt? (world : World) (k? : Option Nat) : Option Desk := k?.bind fun k => world.desks[k]?

/-- Whether something keeps a desk up: a step may act on it, an engine stands at it, tasks are left,
or a dispatcher serves it. -/
def isKept (world : World) (k : Nat) : Bool :=
  world.desk? == some k || world.engine? == some k ||
    (world.deskAt? (some k)).any (fun desk => !desk.queue.waiting.isEmpty || !desk.idle.isEmpty) ||
    world.agenda.any fun turn => turn.desk == k

/-! ### Queues -/

/-- Puts a changed queue on a desk. Tasks that it dispatched get turns, and if work was signalled
the dispatcher that waits longest is woken. Without one the signal stays. -/
def replaceQueue (world : World) (k : Nat) (desk : Desk) (queue : Queue) : World :=
  let tasks := (queue.waiting.drop desk.queue.waiting.length).map fun ctx => Turn.task k ctx.id
  match queue.isSignalled, desk.idle with
  | true, number :: idle => { world with
      desks := world.desks.set k { desk with queue := { queue with isSignalled := false }, idle }
      agenda := world.agenda ++ tasks ++ [.dispatcher k number true] }
  | _, _ => { world with
      desks := world.desks.set k { desk with queue }
      agenda := world.agenda ++ tasks }

/-- Changes the queue of a desk with an operation that tells something; what it tells without a
desk is given. -/
def withQueueAt (world : World) (k? : Option Nat) (missing : α) (operation : Queue → α × Queue) :
    α × World :=
  match k?, world.deskAt? k? with
  | some k, some desk =>
    let (result, queue) := operation desk.queue
    (result, world.replaceQueue k desk queue)
  | _, _ => (missing, world)

/-- Changes the queue that steps act on. -/
def withQueue (world : World) (missing : α) (operation : Queue → α × Queue) : α × World :=
  world.withQueueAt world.desk? missing operation

/-- Has the queue of a desk dispatch. -/
def processAt (world : World) (k? : Option Nat) : Nat × World :=
  world.withQueueAt k? 0 (·.process world.elapsed)

/-- Submits a request to the queue of a desk and keeps a handle on it, in place of an older one for
the same number. -/
def submitAt (world : World) (k? : Option Nat) (request : Request) : Nat × World :=
  let (id, world) := world.withQueueAt k? 0 (·.submit request)
  (id, match k? with
    | some k => { world with
        handles := world.handles.filter (fun handle => handle.1 != id) ++ [(id, k)] }
    | none => world)

/-- Submits a request. -/
def submit (world : World) (request : Request) : Nat × World := world.submitAt world.desk? request

/-- Has the queue dispatch. -/
def process (world : World) : Nat × World := world.processAt world.desk?

/-- Cancels a request. -/
def cancel (world : World) (id : Nat) : Bool × World := world.withQueue false (·.cancel id)

/-- Caches a credential and resumes a request. -/
def supplyCredentials (world : World) (id : Nat) (credential : UserCredential) : Nat × World :=
  match world.deskAt? world.desk? with
  | none => (0, world)
  | some desk =>
    (world.cacheUser desk.seat (some credential)).withQueue 0 (·.supplyNothing id world.elapsed)

/-- How many records are pending at a desk. -/
def pendingAt (world : World) (k? : Option Nat) : Nat :=
  ((world.deskAt? k?).map (·.queue.pending.length)).getD 0

/-- The request that waits for input, and how many are pending. -/
def standing (world : World) : Option Nat × Nat :=
  ((world.deskAt? world.desk?).bind (·.queue.awaiting), world.pendingAt world.desk?)

/-! ### Actions -/

/-- Does an action. -/
def act (world : World) : Action → Outcome × World
  | .lock => (.nothing, { world with ring := { world.ring with isLocked := true } })
  | .unlock => (.nothing, { world with ring := { world.ring with isLocked := false } })
  | .setClock seconds => (.nothing, { world with now := seconds })
  | .submit request =>
    let (id, world) := world.submit request
    (.number id, world)
  | .cancel id =>
    let (found, world) := world.cancel id
    (.truth found, world)
  | .process =>
    let (count, world) := world.process
    (.number count, world)
  | .supplyCredentials id credential =>
    let (count, world) := world.supplyCredentials id credential
    (.number count, world)
  | .look => (.standing world.standing.1 world.standing.2, world)

/-- Does actions one after the other and records them. -/
def actAll (world : World) (actions : List Action) : World :=
  actions.foldl (fun world action =>
    let (outcome, world) := world.act action
    { world with acted := world.acted ++ [(action, outcome)] }) world

/-! ### Storage -/

/-- The faults that a session's storage has. -/
def faultsOf (world : World) (n : Nat) : List Fault := (world.seat n).formerFaults.getD world.faults

/-- Fails with a fault, or reads. -/
def reading (world : World) (n : Nat) (operation : Operation) (key : String)
    (read : Storage → Except Error α) : Except Error α :=
  match Fault.find? (world.faultsOf n) operation key with
  | some error => .error error
  | none => read world.storage

/-- Fails with a fault, or writes. -/
def writing (world : World) (n : Nat) (operation : Operation) (key : String)
    (write : Storage → Except Error Storage) : Except Error Unit × World :=
  match world.reading n operation key write with
  | .ok storage => (.ok (), { world with storage })
  | .error error => (.error error, world)

/-- The sealing key of a name, drawn if it is new. -/
def sealingKey (world : World) (name : String) : Except Error Aes256.Key × World :=
  match Fault.find? world.faults .key name with
  | some error => (.error error, world)
  | none =>
    let (key, ring) := world.ring.key name (freshKey world.drawn)
    (key, { world with ring, drawn := world.drawn + 1 })

/-! ### Gateway and user -/

/-- Makes a connection for a desk. A shared one is there already. -/
def connect (world : World) (k? : Option Nat) (registration : Option DeviceIdentity) :
    Except Error Unit × World :=
  if (world.deskAt? k?).any (·.isShared) then (.ok (), world)
  else
    let (result, gateway) := world.gateway.connect (registration.map (·.magIdentifier))
    (result, { world with gateway })

/-- Caches or drops the connection of a desk. -/
def cacheConnection (world : World) (k? : Option Nat) (connection : Option Connection) : World :=
  match k? with
  | some k => { world with desks := world.desks.modify k fun desk => { desk with connection } }
  | none => world

/-- Sends a request. The actions of its hook come first. -/
def send (world : World) (request : Request) : Except Error Response × World :=
  let (actions, hooks) := Hook.next request.url world.hooks
  let world := { world with hooks }.actAll actions
  let (result, gateway) := world.gateway.answer request
  (result, { world with gateway })

/-- Asks the user of a desk. The actions before the answer come first. -/
def askUser (world : World) (k? : Option Nat) (id : Nat) (need : Need) : Answer × World :=
  if (world.deskAt? k?).any (·.isDeferring) then (.deferred, world)
  else
    let ((answer, actions), script) := world.script.next id need
    (answer, { world with script }.actAll actions)

/-! ### Programs -/

/-- Answers an effect of a program. -/
def answer (place : Place) : (effect : Effect) → World → effect.Reply × World
  | .read key, world => (world.reading place.seat .get key (·.get key), world)
  | .write key value, world => world.writing place.seat .put key (·.put key value)
  | .remove key, world => world.writing place.seat .delete key (·.delete key)
  | .list start, world => (world.reading place.seat .list start (·.list start), world)
  | .sealingKey name, world => world.sealingKey name
  | .nonce, world => world.nonce
  | .identifier, world =>
    let (n, world) := world.draw
    (freshIdentifier n, world)
  | .time, world => (⟨world.now, 0⟩, world)
  | .hold, world => ((), world)
  | .release, world => ((), world)
  | .user, world => ((world.seat place.seat).user, world)
  | .cacheUser credential, world => ((), world.cacheUser place.seat credential)
  | .connection, world => ((world.deskAt? place.desk).bind (·.connection), world)
  | .cacheConnection connection, world => ((), world.cacheConnection place.desk connection)
  | .connect registration, world => world.connect place.desk registration
  | .send _ _ request, world => world.send request
  | .ask id need, world => world.askUser place.desk id need

/-- Runs a program. -/
def perform (world : World) (place : Place) (program : Program α) : Except Error α × World :=
  program.run (answer place) world

end World

end Rehearsal

end GatewaySession
