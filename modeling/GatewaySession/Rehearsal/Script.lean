import GatewaySession.Program.Effect

/-!
# Scripts

What happens around a rehearsed session besides its own steps: what the user answers, what somebody
else does while a request is under way or while the user is thinking, and which storage operations
fail.

## Main definitions

* `Action`, `Outcome` — what somebody else does, and what came of it
* `UserScript` — answers in order, each with what is done before it is given
* `Hook` — what is done when a request arrives
* `Fault` — an operation that fails
-/

namespace GatewaySession

namespace Rehearsal

/-- What somebody else does while a session is at work. -/
inductive Action where
  /-- Locks the key store. -/
  | lock
  /-- Unlocks the key store. -/
  | unlock
  /-- Sets the clock, in seconds. -/
  | setClock (seconds : Int)
  /-- Submits a request to the queue. -/
  | submit (request : Request)
  /-- Cancels a request of the queue. -/
  | cancel (id : Nat)
  /-- Has the queue dispatch. -/
  | process
  /-- Supplies a credential for a request of the queue. -/
  | supplyCredentials (id : Nat) (credential : UserCredential)
  /-- Looks at the queue. -/
  | look

/-- What came of an action. -/
inductive Outcome where
  /-- Nothing to tell. -/
  | nothing
  /-- A number: of a request, or of requests dispatched. -/
  | number (n : Nat)
  /-- Whether there was something to cancel. -/
  | truth (holds : Bool)
  /-- The request that waits for input, and how many are pending. -/
  | standing (awaiting : Option Nat) (pending : Nat)

/-- A user who answers from a list, and defers when it is used up. -/
structure UserScript where
  /-- Answers in order, each with the actions before it. -/
  answers : List (Answer × List Action) := []
  /-- What was asked, on behalf of which request. -/
  asked : List (Nat × Need) := []

namespace UserScript

/-- Records a question and takes the next answer with its actions. -/
def next (script : UserScript) (id : Nat) (need : Need) : (Answer × List Action) × UserScript :=
  let asked := script.asked ++ [(id, need)]
  match script.answers with
  | [] => ((.deferred, []), { script with asked })
  | answer :: rest => (answer, ⟨rest, asked⟩)

end UserScript

/-- What is done when a request arrives whose URL has a part: one list of actions for each. -/
structure Hook where
  /-- The part of the URL. -/
  path : String
  /-- The lists of actions in order. -/
  lists : List (List Action)

namespace Hook

/-- Adds a list of actions for a path, which comes last if it is new. -/
def add (path : String) (actions : List Action) : List Hook → List Hook
  | [] => [⟨path, [actions]⟩]
  | hook :: rest =>
    if hook.path = path then { hook with lists := hook.lists ++ [actions] } :: rest
    else hook :: add path actions rest

/-- The actions of the first hook on a URL that has a list left, and the hooks afterwards. -/
def next (url : String) : List Hook → List Action × List Hook
  | [] => ([], [])
  | hook :: rest =>
    match if Text.contains url hook.path then hook.lists else [] with
    | actions :: lists => (actions, { hook with lists } :: rest)
    | [] =>
      let (actions, rest) := next url rest
      (actions, hook :: rest)

end Hook

/-- The operations that can be made to fail. -/
inductive Operation where
  | get
  | put
  | delete
  | list
  /-- Asking for a sealing key. -/
  | key
  deriving DecidableEq

/-- An operation that fails for some keys. -/
structure Fault where
  /-- The operation. -/
  operation : Operation
  /-- How the keys end for which it fails. -/
  ending : String
  /-- What it fails with. -/
  error : Error

namespace Fault

/-- The error that an operation fails with for a key. -/
def find? (faults : List Fault) (operation : Operation) (key : String) : Option Error :=
  (faults.find? fun fault => fault.operation == operation &&
    fault.ending.toList.reverse.isPrefixOf key.toList.reverse).map (·.error)

/-- The faults with another one for an operation, or with none. -/
def set (faults : List Fault) (operation : Operation) (ending : String) (error : Option Error) :
    List Fault :=
  faults.filter (fun fault => fault.operation != operation) ++
    (error.map fun error => ⟨operation, ending, error⟩).toList

end Fault

end Rehearsal

end GatewaySession
