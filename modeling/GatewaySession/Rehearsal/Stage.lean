import GatewaySession.Rehearsal.World

/-!
# Setting the stage

What can be done in a world besides running programs: looking into the storage and changing it
behind the sessions' backs, making it fail, and opening sessions and desks. Looking and changing
pass by the faults; the four storage operations meet them.

## Main definitions

* `World.plant`, `World.plantSealed`, `World.copyBlob` — values put behind the sessions' backs
* `World.reopen`, `World.setFault` — storage opened anew, and made to fail
* `World.openSession`, `World.openDesk`, `World.startEngine` — sessions, and where requests run
* `World.startDispatcher`, `World.endDispatcher` — who has submitted requests dispatched
-/

namespace GatewaySession

namespace Rehearsal

namespace World

variable {α : Type}

/-! ### The storage operations -/

/-- The seat of nobody, which has the faults of the storage as it is open now. -/
def nobody (world : World) : Nat := world.seats.length

/-- Gives a key a value. -/
def putValue (world : World) (key : String) (value : Bytes) : Except Error Unit × World :=
  world.writing world.nobody .put key (·.put key value)

/-- The value of a key. -/
def getValue (world : World) (key : String) : Except Error (Option Bytes) :=
  world.reading world.nobody .get key (·.get key)

/-- Removes the value of a key. -/
def deleteValue (world : World) (key : String) : Except Error Unit × World :=
  world.writing world.nobody .delete key (·.delete key)

/-- The keys that begin with a text. -/
def listKeys (world : World) (start : String) : Except Error (List String) :=
  world.reading world.nobody .list start (·.list start)

/-! ### Behind the sessions' backs -/

/-- All keys of the storage; none if it cannot be read. -/
def allKeys (world : World) : List String := (world.storage.list "").toOption.getD []

/-- The values in memory; none if the storage is a file. -/
def values (world : World) : Table Bytes :=
  match world.storage with
  | .memory memory => memory.values
  | .file _ => .empty

/-- Puts a value into memory, under any key. -/
def plant (world : World) (key : String) (value : Bytes) : World :=
  match world.storage with
  | .memory memory =>
    { world with storage := .memory { memory with values := memory.values.insert key value } }
  | .file _ => world

/-- Changes the storage past its faults. -/
def changeStorage (world : World) (change : Storage → Except Error Storage) :
    Except Error Unit × World :=
  match change world.storage with
  | .ok storage => (.ok (), { world with storage })
  | .error error => (.error error, world)

/-- Runs a program past all faults. -/
def performQuietly (world : World) (program : Program α) : Except Error α × World :=
  let (result, quiet) := { world with faults := [] }.perform { seat := world.nobody } program
  (result, { quiet with faults := world.faults })

/-- Stores a value sealed under a name. -/
def plantSealed (world : World) (key name : String) (value : Bytes) : Except Error Unit × World :=
  let vault : Vault := ⟨name⟩
  match world.performQuietly (vault.sealed value) with
  | (.ok blob, world) => world.changeStorage (·.put key blob)
  | (.error error, world) => (.error error, world)

/-- The plaintext of a stored value sealed under a name; none if there is no value. -/
def unsealStored (world : World) (key name : String) : Except Error (Option Bytes) × World :=
  let vault : Vault := ⟨name⟩
  match world.storage.get key with
  | .error error => (.error error, world)
  | .ok none => (.ok none, world)
  | .ok (some blob) =>
    let (result, world) := world.performQuietly (vault.unsealed blob)
    (result.map some, world)

/-- Inverts the lowest bit of an octet. -/
def flipBit (blob : Bytes) (position : Nat) : Bytes := blob.modify position (· ^^^ 1)

/-- Copies a stored value to another key, inverting the lowest bit of an octet if one is named. -/
def copyBlob (world : World) (key target : String) (flip : Option Nat) :
    Except Error Unit × World :=
  match world.storage.get key with
  | .error error => (.error error, world)
  | .ok none => (.ok (), world)
  | .ok (some blob) =>
    let blob := match flip with
      | some position => flipBit blob position
      | none => blob
    world.changeStorage (·.put target blob)

/-! ### The storage file -/

/-- What is at the path of the storage file. -/
def fileState (world : World) : FileState :=
  match world.storage with
  | .file state => state
  | .memory _ => .missing

/-- Changes what is at the path of the storage file. -/
def setFileState (world : World) (state : FileState) : World :=
  { world with storage := .file state }

/-- The contents of the storage file. -/
def fileContents (world : World) : Option Bytes :=
  match world.fileState with
  | .file contents => some contents
  | _ => none

/-- The names in the directory of the storage file. -/
def fileNames (world : World) : List String :=
  match world.fileState with
  | .missing => []
  | _ => ["store.json"]

/-- Opens the storage anew, without faults, for sessions that are opened afterwards. -/
def reopen (world : World) : World :=
  { world with
    faults := world.faults.filter fun fault => fault.operation == .key
    seats := world.seats.map fun seat =>
      { seat with formerFaults := some (seat.formerFaults.getD world.faults) } }

/-- Makes an operation fail for keys with an ending, or lets it succeed again. -/
def setFault (world : World) (operation : Operation) (ending : String) (error : Option Error) :
    World :=
  { world with faults := Fault.set world.faults operation ending error }

/-! ### Script -/

/-- Changes the gateway. -/
def changeGateway (world : World) (change : Gateway → Gateway) : World :=
  { world with gateway := change world.gateway }

/-- Adds actions that are done when a request arrives. -/
def addHook (world : World) (path : String) (actions : List Action) : World :=
  { world with hooks := Hook.add path actions world.hooks }

/-- Adds an answer of the user, with the actions before it. -/
def addAnswer (world : World) (answer : Answer) (actions : List Action) : World :=
  { world with script.answers := world.script.answers ++ [(answer, actions)] }

/-! ### Sessions and desks -/

/-- How many cores the machine of a rehearsal has. -/
def cores : Nat := 1

/-- A desk for a session. -/
def deskFor (session : Session) (seat : Nat) (isShared isDeferring : Bool) : Desk where
  session
  seat
  isShared
  isDeferring
  queue :=
    { workers := session.settings.workerLimit cores
      retention := session.settings.responseTtl.toNat }

/-- Opens a session, on which steps act from now on. -/
def openSession (world : World) (settings : Settings) (device : Device) :
    Except Error Unit × World :=
  match Session.make settings device with
  | .error error => (.error error, world)
  | .ok session =>
    let (seat, world) := world.addSeat
    (.ok (), { world with session? := some (session, seat) })

/-- Opens a desk for the session, on which steps act from now on. -/
def openDesk (world : World) (isShared isDeferring : Bool) : World :=
  match world.session? with
  | none => world
  | some (session, seat) =>
    let (k, world) := world.addDesk (deskFor session seat isShared isDeferring)
    { world with desk? := some k }

/-- Starts an engine in place of an earlier one: opens a session and a desk for it. If the start
fails there is neither. -/
def startEngine (world : World) (settings : Settings) (device : Device)
    (isShared isDeferring : Bool) : Except Error Unit × World :=
  let (seat, world) := world.addSeat
  match world.perform { seat } (Engine.start settings device) with
  | (.error error, world) =>
    (.error error, { world with session? := none, desk? := none, engine? := none })
  | (.ok session, world) =>
    let (k, world) := world.addDesk (deskFor session seat isShared isDeferring)
    (.ok (), { world with session? := some (session, seat), desk? := some k, engine? := some k })

/-! ### Dispatchers -/

/-- Has a dispatcher begin to serve the engine's queue. From now on it is the one that can be
ended. -/
def startDispatcher (world : World) : World :=
  match world.engine? with
  | none => world
  | some k => { world with
      agenda := world.agenda ++ [.dispatcher k world.dispatchers false]
      dispatchers := world.dispatchers + 1
      dispatcher? := some (k, world.dispatchers) }

/-- Has the dispatcher that can be ended leave at its next turn, or at one of its own if it
waits. -/
def endDispatcher (world : World) : World :=
  match world.dispatcher? with
  | none => world
  | some (k, number) =>
    let world := { world with dispatcher? := none }
    if world.agenda.contains (.dispatcher k number true) ||
        world.agenda.contains (.dispatcher k number false) then
      { world with agenda := world.agenda.map fun turn =>
          if turn = .dispatcher k number true then .leave k number true
          else if turn = .dispatcher k number false then .leave k number false
          else turn }
    else { world with agenda := world.agenda ++ [.leave k number false] }

/-- Opens a vault, on which steps act from now on. -/
def openVault (world : World) (name : String) : World :=
  let (seat, world) := world.addSeat
  { world with vault? := some (⟨name⟩, seat) }

end World

end Rehearsal

end GatewaySession
