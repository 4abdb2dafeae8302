import Ariax.Lib.Call
import Ariax.Lib.Machine
import Ariax.Supervisor.Mailbox

/-!
# The supervisor of HTTP workers

The supervisor of `http_supervisor.rs`. One poll submits what is pending,
joins the workers that ended, takes cancellations and then takes
allocations. The task catalogue, the clock and whether starting a worker
panics are read from the environment of a poll. A log records what the sink
accepted, which workers were started or told to stop, and which events were
submitted to the mailbox and taken from it, in the order in which it happened.
-/

namespace Ariax

structure HttpWorkerSuccess where
  seed : Bool
  retryAt : Option MonotonicInstant
  hostKeyChallenge : Option PresentedHostKeyChallenge
  deriving DecidableEq

structure HttpWorkerSupervisorConfig where
  maxActiveWorkers : ℕ+
  pendingEventCapacity : ℕ+
  pollInterval : ℕ
  deriving DecidableEq

inductive HttpWorkerSupervisorPoll where
  | progressed
  | idle
  | backpressured
  deriving DecidableEq

inductive HttpWorkerSupervisorError where
  | runtimeClosed
  | pendingEventOverflow
  | lostWorkerAuthority
  deriving DecidableEq

inductive SupervisorMessage where
  | httpWorkerAlreadyActive
  | httpTaskNotRegistered
  | httpAllocationIdentityMismatch
  | httpWorkerStartPanicked
  | httpWorkerPanicked

def SupervisorMessage.text : SupervisorMessage → String
  | httpWorkerAlreadyActive => "http_worker_already_active"
  | httpTaskNotRegistered => "http_task_not_registered"
  | httpAllocationIdentityMismatch => "http_allocation_identity_mismatch"
  | httpWorkerStartPanicked => "http_worker_start_panicked"
  | httpWorkerPanicked => "http_worker_panicked"

theorem SupervisorMessage.text_le (message : SupervisorMessage) :
    message.text.utf8ByteSize ≤ maxPublicErrorMessageBytes := by
  cases message <;> decide

def SupervisorMessage.publicError (message : SupervisorMessage) (kind : ErrorKind) : PublicError :=
  ⟨kind, message.text, none, .never, message.text_le⟩

def supervisorPublicError (message : SupervisorMessage) : PublicError :=
  message.publicError .internalInvariant

structure ActiveWorker where
  identity : RuntimeIdentity
  authority : ActiveTransferRequest
  cancelled : Bool
  cancellationRequest : Option CancellationRequest

structure WorkerCompletion where
  identity : RuntimeIdentity
  result : Except PublicError HttpWorkerSuccess

/-- The spawned workers: those that run, and those that ended, oldest first, with what they
returned unless they panicked. -/
structure JoinSet where
  running : List (ℕ × RuntimeIdentity)
  ended : List (ℕ × Option WorkerCompletion)

/-- What happened, as far as the guarantees of the supervisor speak about it. -/
inductive SupervisorRecord where
  | allocationAccepted (request : AllocationRequest)
  | cancellationAccepted (request : CancellationRequest)
  | started (request : ActiveTransferRequest)
  | held (worker : ActiveTransferRequest) (request : CancellationRequest)
  | submitted (submission : RuntimeEventSubmission)
  | taken (event : TaskEventEnvelope)

structure HttpWorkerSupervisor where
  runtime : RuntimeMailbox
  config : HttpWorkerSupervisorConfig
  active : OrderedMap TaskId ActiveWorker
  joins : JoinSet
  byJoin : OrderedMap ℕ TaskId
  nextJoin : ℕ
  pendingEvents : List RuntimeEventSubmission
  log : List SupervisorRecord

/-- What a poll finds outside of the supervisor. -/
structure PollEnvironment where
  now : MonotonicInstant
  tasks : TaskId → Option Gid
  startPanics : RuntimeIdentity → Bool

namespace HttpWorkerSupervisor

abbrev SupervisorCall (α : Type) := EStateM HttpWorkerSupervisorError HttpWorkerSupervisor α

def new (config : HttpWorkerSupervisorConfig) (btTasks : List TaskId)
    (requestCapacity eventCapacity probes : ℕ) : HttpWorkerSupervisor :=
  ⟨⟨false, btTasks, requestCapacity, eventCapacity, [], [], probes, [], 0⟩, config, ∅, ⟨[], []⟩, ∅,
    0, [], []⟩

variable (s : HttpWorkerSupervisor)

def pendingSlots : ℕ := s.config.pendingEventCapacity - s.pendingEvents.length

def withPending (pending : List RuntimeEventSubmission) : HttpWorkerSupervisor :=
  { s with pendingEvents := pending }

def submitted (runtime : RuntimeMailbox) (submission : RuntimeEventSubmission) :
    HttpWorkerSupervisor :=
  { s with runtime := runtime, log := s.log ++ [.submitted submission] }

/-- The oldest pending events are submitted until the mailbox takes no more. -/
def flushLoop : List RuntimeEventSubmission → Bool → SupervisorCall Bool
  | [], progressed => do
      modify fun s => s.withPending []
      return progressed
  | submission :: rest, progressed => do
      let s ← get
      match s.runtime.trySubmitEvent submission with
      | .ok runtime =>
        set ((s.submitted runtime submission).withPending rest)
        flushLoop rest true
      | .error .full => return progressed
      | .error .closed => throw .runtimeClosed

def flushPending : SupervisorCall Bool := do
  flushLoop (← get).pendingEvents false

def enqueueEvent (submission : RuntimeEventSubmission) : SupervisorCall Unit := do
  let s ← get
  throwIf (s.pendingEvents.length = s.config.pendingEventCapacity) .pendingEventOverflow
  if s.pendingEvents.isEmpty then
    match s.runtime.trySubmitEvent submission with
    | .ok runtime => set (s.submitted runtime submission)
    | .error .full => set (s.withPending [submission])
    | .error .closed => throw .runtimeClosed
  else
    set (s.withPending (s.pendingEvents ++ [submission]))

def spawn (authority : ActiveTransferRequest) : HttpWorkerSupervisor :=
  { s with
    joins := { s.joins with running := s.joins.running ++ [(s.nextJoin, authority.identity)] }
    byJoin := s.byJoin.insert s.nextJoin authority.identity.taskId
    nextJoin := s.nextJoin + 1
    active := s.active.insert authority.identity.taskId ⟨authority.identity, authority, false, none⟩
    log := s.log ++ [.started authority] }

section

variable (environment : PollEnvironment) (allocation : AllocationRequest)

/-- Why an allocation does not start a worker. -/
def refusal : Option RuntimeEventSubmission :=
  if s.active.size = s.config.maxActiveWorkers then
    some (allocation.retryable ⟨environment.now.ticks + s.config.pollInterval⟩)
  else if s.active.contains allocation.identity.taskId then
    some (allocation.failed (supervisorPublicError .httpWorkerAlreadyActive))
  else
    match environment.tasks allocation.identity.taskId with
    | none =>
      some (allocation.failed (SupervisorMessage.httpTaskNotRegistered.publicError .gidNotFound))
    | some gid =>
      if gid ≠ allocation.identity.gid then
        some (allocation.failed (supervisorPublicError .httpAllocationIdentityMismatch))
      else if environment.startPanics allocation.identity then
        some (allocation.failed (supervisorPublicError .httpWorkerStartPanicked))
      else none

def acceptAllocation : SupervisorCall Unit := do
  match (← get).refusal environment allocation with
  | some submission => enqueueEvent submission
  | none =>
    let (allocated, authority) := allocation.activate
    enqueueEvent allocated
    modify fun s => s.spawn authority

end

/-- The worker is told to stop and keeps the request until it ended. -/
def hold (worker : ActiveWorker) (request : CancellationRequest) : HttpWorkerSupervisor :=
  let held := { worker with cancelled := true, cancellationRequest := some request }
  { s with
    active := s.active.insert request.identity.taskId held
    log := s.log ++ [.held worker.authority request] }

def acceptCancellation (request : CancellationRequest) : SupervisorCall Unit := do
  let s ← get
  match s.active[request.identity.taskId]? with
  | none => enqueueEvent request.drained
  | some worker =>
    if worker.identity ≠ request.identity ∨ worker.cancellationRequest.isSome then
      enqueueEvent request.drained
    else
      set (s.hold worker request)

/-- The events that a worker which held no cancellation is concluded with. -/
def conclusion (worker : ActiveWorker) (completion : Option WorkerCompletion) :
    List RuntimeEventSubmission :=
  let result := ((completion.filter fun completion => completion.identity = worker.identity).map
    WorkerCompletion.result).getD (.error (supervisorPublicError .httpWorkerPanicked))
  match result with
  | .ok ⟨seed, retryAt, challenge⟩ =>
    match challenge with
    | some challenge => [worker.authority.hostKeyChallenge challenge]
    | none =>
      match retryAt with
      | some deadline => [worker.authority.retryable deadline]
      | none =>
        let (dataComplete, verifying) := worker.authority.dataComplete seed
        [dataComplete, verifying.succeeded]
  | .error error =>
    if error.kind = .staleValidator ∧ error.retry = .restartGeneration then
      [worker.authority.restartRepresentation]
    else [worker.authority.failed error]

def completeJoin (joinId : ℕ) (completion : Option WorkerCompletion) : SupervisorCall Unit := do
  let s ← get
  let task ← orThrow s.byJoin[joinId]? .lostWorkerAuthority
  set { s with byJoin := s.byJoin.erase joinId }
  let worker ← orThrow s.active[task]? .lostWorkerAuthority
  modify fun s => { s with active := s.active.erase task }
  match worker.cancellationRequest with
  | some request => enqueueEvent request.drained
  | none => forM (conclusion worker completion) enqueueEvent

/-- The next thing that one of the loops of a poll takes, with what it does about it. -/
abbrev Intake := HttpWorkerSupervisor → Option (SupervisorCall Unit × HttpWorkerSupervisor)

/-- `try_join_next_with_id` -/
def takeJoin : Intake := fun s =>
  match s.joins.ended with
  | [] => none
  | (joinId, completion) :: rest =>
    some (completeJoin joinId completion, { s with joins := { s.joins with ended := rest } })

def takeCancellation : Intake := fun s =>
  s.runtime.takeCancellation.map fun taken =>
    (acceptCancellation taken.1, { s with runtime := taken.2 })

def takeAllocation (environment : PollEnvironment) : Intake := fun s =>
  s.runtime.takeAllocation.map fun taken =>
    (acceptAllocation environment taken.1, { s with runtime := taken.2 })

/-- A loop of a poll: while there is room for its events it takes one thing after the other,
and it gives up when an event has to wait. The answer is whether the poll made progress. -/
def serve (slots : ℕ) (intake : Intake) : ℕ → Bool → SupervisorCall (Option Bool)
  | 0, progressed => return some progressed
  | fuel + 1, progressed => do
      let s ← get
      if s.pendingSlots < slots then
        return some progressed
      match intake s with
      | none => return some progressed
      | some (accept, left) =>
        set left
        accept
        let _ ← flushPending
        if (← get).pendingEvents.isEmpty then
          serve slots intake fuel true
        else
          return none

def cancelWorkers : HttpWorkerSupervisor :=
  { s with active := s.active.map fun _ worker => { worker with cancelled := true } }

/-- Each loop can take what is there when the poll starts, and nothing is added meanwhile. -/
def pollOnce (environment : PollEnvironment) : SupervisorCall HttpWorkerSupervisorPoll := do
  let s ← get
  if s.runtime.closed then
    set s.cancelWorkers
    throw .runtimeClosed
  let progressed ← flushPending
  if !(← get).pendingEvents.isEmpty then
    return .backpressured
  let some progressed ← serve 2 takeJoin s.joins.ended.length progressed
    | return .backpressured
  let some progressed ← serve 1 takeCancellation s.runtime.cancellations.length progressed
    | return .backpressured
  let some progressed ← serve 1 (takeAllocation environment) s.runtime.allocations.length progressed
    | return .backpressured
  return if progressed then .progressed else .idle

def startAllocation (identity : RuntimeIdentity) : HttpWorkerSupervisor :=
  { s with
    runtime := s.runtime.acceptAllocation identity
    log := s.log ++ [.allocationAccepted ⟨identity, s.runtime.nextTicket⟩] }

def cancelGeneration (identity : RuntimeIdentity) (force : Bool) : HttpWorkerSupervisor :=
  { s with
    runtime := s.runtime.acceptCancellation identity force
    log := s.log ++ [.cancellationAccepted ⟨identity, force, s.runtime.nextTicket⟩] }

def endWorker (joinId : ℕ) (result : Option (Except PublicError HttpWorkerSuccess)) :
    HttpWorkerSupervisor :=
  match s.joins.running.find? fun worker => worker.1 = joinId with
  | none => s
  | some worker =>
    { s with joins := ⟨s.joins.running.filter fun other => other.1 ≠ joinId,
        s.joins.ended ++ [(joinId, result.map fun result => ⟨worker.2, result⟩)]⟩ }

end HttpWorkerSupervisor

inductive SupervisorInput where
  | startAllocation (identity : RuntimeIdentity)
  | cancelGeneration (identity : RuntimeIdentity) (force : Bool)
  | pollOnce (environment : PollEnvironment)
  | endWorker (joinId : ℕ) (result : Option (Except PublicError HttpWorkerSuccess))
  | takeEvent
  | close

open HttpWorkerSupervisor in
/-- The sink that fills the mailbox, the supervisor, its workers and the scheduler that takes the
events. A poll that fails keeps what it did before. -/
def supervisorMachine : Machine HttpWorkerSupervisor SupervisorInput
      (Option (Except HttpWorkerSupervisorError HttpWorkerSupervisorPoll)) where
  initial := {s | ∃ config btTasks requestCapacity eventCapacity probes,
    s = .new config btTasks requestCapacity eventCapacity probes}
  next s input :=
    match input with
    | .startAllocation identity =>
      (none, if s.runtime.accepts then s.startAllocation identity else s)
    | .cancelGeneration identity force =>
      (none, if s.runtime.accepts then s.cancelGeneration identity force else s)
    | .pollOnce environment =>
      match HttpWorkerSupervisor.pollOnce environment s with
      | .ok poll after => (some (.ok poll), after)
      | .error error after => (some (.error error), after)
    | .endWorker joinId result => (none, s.endWorker joinId result)
    | .takeEvent =>
      (none, match s.runtime.events with
        | [] => s
        | event :: rest =>
          { s with
            runtime := { s.runtime with events := rest }
            log := s.log ++ [.taken event] })
    | .close => (none, { s with runtime := { s.runtime with closed := true } })

end Ariax
