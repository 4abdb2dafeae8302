import Ariax.Lib.Machine

/-!
# The session owner

The thread of `session_owner.rs` that executes commands on the synchronous
store, and the handles that submit them. What happens under the admission
lock is one step; the owner's loop takes one step for each of its
observations, so that other threads may act between them. Parking only
delays the loop and is left out. Executing a command is a parameter.
-/

namespace Ariax

inductive SessionOwnerError (Fault : Type) where
  | persistence (fault : Fault)
  | queueFull
  | shuttingDown
  | unavailable

inductive OwnerState where
  | running
  | shuttingDown
  | closed
  deriving DecidableEq

/-- What the admission lock protects; the sender is there or it is dropped. -/
structure Admission where
  state : OwnerState
  sender : Bool

/-- A command with the number of the channel its result is sent on. -/
structure OwnerRequest (Command : Type) where
  command : Command
  completion : ℕ
  deriving DecidableEq

/-- A completion channel as its receiver finds it. -/
inductive SessionCompletion (Value Fault : Type) where
  | awaited
  | answered (result : Except Fault Value)
  | dropped

/-- What a completion says when it is first asked after the owner did its part. -/
def SessionCompletion.tryWait {Value Fault : Type} :
    SessionCompletion Value Fault → Except (SessionOwnerError Fault) (Option Value)
  | .awaited => .ok none
  | .answered (.ok value) => .ok (some value)
  | .answered (.error fault) => .error (.persistence fault)
  | .dropped => .error .unavailable

structure SessionSubmitError (Command Fault : Type) where
  command : Command
  error : SessionOwnerError Fault

/-- Where the owner's thread is. It holds a strong reference to the shared part from its upgrade
until it has read the state. -/
inductive OwnerPhase (Command : Type) where
  | receiving
  | executing (request : OwnerRequest Command)
  | foundEmpty
  | upgraded
  | judged (state : OwnerState)
  | left
  | finished

def OwnerPhase.holdsShared {Command : Type} : OwnerPhase Command → Bool
  | .upgraded | .judged _ => true
  | _ => false

/-- The owner with its queue, its store and the live handles. -/
structure SessionOwner (Command Value Fault Store : Type) where
  capacity : ℕ
  admission : Admission
  handles : ℕ
  queue : List (OwnerRequest Command)
  opened : ℕ
  completions : ℕ → SessionCompletion Value Fault
  store : Store
  phase : OwnerPhase Command

inductive SessionInput (Command : Type) where
  | clone
  | dropHandle
  | trySubmitOwned (command : Command)
  | beginShutdown
  | shutdownJoined
  | owner

inductive SessionOutput (Command Value Fault : Type) where
  | quiet
  | accepted (completion : ℕ)
  | rejected (error : SessionSubmitError Command Fault)
  | executed (request : OwnerRequest Command) (result : Except Fault Value)

namespace SessionOwner

variable {Command Value Fault Store : Type}

/-- The owner after its startup, with the one handle that `spawn` returns. -/
def new (capacity : ℕ) (store : Store) : SessionOwner Command Value Fault Store :=
  ⟨capacity, ⟨.running, true⟩, 1, [], 0, fun _ => .awaited, store, .receiving⟩

variable (o : SessionOwner Command Value Fault Store)

/-- The shared part lives as long as a handle or the owner's upgrade refers to it. -/
def shared : Bool := decide (0 < o.handles) || o.phase.holdsShared

def connected : Bool := o.shared && o.admission.sender

def markClosed : SessionOwner Command Value Fault Store :=
  { o with admission := ⟨.closed, false⟩ }

def beginShutdown : SessionOwner Command Value Fault Store :=
  if o.admission.state = .running then { o with admission := ⟨.shuttingDown, false⟩ } else o

/-- Every call opens a completion channel first; the receiver of the queue is gone when the
thread has finished. -/
def trySubmitOwned (command : Command) :
    Except (SessionSubmitError Command Fault) ℕ × SessionOwner Command Value Fault Store :=
  let opened := { o with opened := o.opened + 1 }
  match o.admission.state with
  | .shuttingDown => (.error ⟨command, .shuttingDown⟩, opened)
  | .closed => (.error ⟨command, .unavailable⟩, opened)
  | .running =>
    if !o.admission.sender then (.error ⟨command, .unavailable⟩, opened)
    else
      match o.phase with
      | .finished => (.error ⟨command, .unavailable⟩, opened.markClosed)
      | _ =>
        if o.capacity ≤ o.queue.length then (.error ⟨command, .queueFull⟩, opened)
        else (.ok o.opened, { opened with queue := o.queue ++ [⟨command, o.opened⟩] })

def dropReceiver : SessionOwner Command Value Fault Store :=
  { o with
    queue := []
    completions := fun completion =>
      if (o.queue.map OwnerRequest.completion).contains completion then .dropped
      else o.completions completion
    phase := .finished }

def ownerMain (execute : Store → Command → Except Fault Value × Store) :
    SessionOutput Command Value Fault × SessionOwner Command Value Fault Store :=
  match o.phase with
  | .receiving =>
    match o.queue with
    | request :: rest => (.quiet, { o with queue := rest, phase := .executing request })
    | [] => (.quiet, { o with phase := if o.connected then .foundEmpty else .left })
  | .executing request =>
    let (result, store) := execute o.store request.command
    (.executed request result, { o with
      store := store
      completions := Function.update o.completions request.completion (.answered result)
      phase := .receiving })
  | .foundEmpty => (.quiet, { o with phase := if o.shared then .upgraded else .left })
  | .upgraded => (.quiet, { o with phase := .judged o.admission.state })
  | .judged state =>
    (.quiet, { o with phase := if state = .running then .receiving else .left })
  | .left => (.quiet, (if o.shared then o.markClosed else o).dropReceiver)
  | .finished => (.quiet, o)

end SessionOwner

/-- The owner and its handles. Only a live handle can be cloned, dropped or called, and a caller
closes the admission itself once it has joined the finished thread. -/
def sessionMachine {Command Value Fault Store : Type}
    (execute : Store → Command → Except Fault Value × Store) :
    Machine (SessionOwner Command Value Fault Store) (SessionInput Command)
      (SessionOutput Command Value Fault) where
  initial := {o | ∃ capacity store, 0 < capacity ∧ o = .new capacity store}
  next o input :=
    match input with
    | .owner => o.ownerMain execute
    | .clone => (.quiet, if 0 < o.handles then { o with handles := o.handles + 1 } else o)
    | .dropHandle => (.quiet, { o with handles := o.handles - 1 })
    | .trySubmitOwned command =>
      if 0 < o.handles then
        match o.trySubmitOwned command with
        | (.ok completion, after) => (.accepted completion, after)
        | (.error error, after) => (.rejected error, after)
      else (.quiet, o)
    | .beginShutdown => (.quiet, if 0 < o.handles then o.beginShutdown else o)
    | .shutdownJoined =>
      (.quiet, if 0 < o.handles then
        match o.phase with
        | .finished => o.markClosed
        | _ => o
      else o)

end Ariax
