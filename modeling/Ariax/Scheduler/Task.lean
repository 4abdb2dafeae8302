import Ariax.Core.Effect
import Ariax.Lib.OrderedMap

/-!
# Scheduled tasks, queues and correlation counters

The scheduler-owned record of one task (`ScheduledTask` in `scheduler.rs`),
the queue it belongs to, the snapshot it publishes, the five queues and the
counters from which correlation identifiers are drawn.
-/

namespace Ariax

inductive PendingOptionPatchMode where
  | inPlace
  | activeRestart
  | matchingHostKey
  deriving DecidableEq

inductive PendingUserControl where
  | pause (force : Bool)
  | resume
  | remove (force : Bool)
  deriving DecidableEq

structure ScheduledTask where
  taskId : TaskId
  gid : Gid
  state : TaskState
  generation : Generation
  generationStarted : Bool
  desiredPaused : Bool
  conditions : TaskConditions
  slot : SlotOwnership
  pendingBarrier : Option PendingBarrier
  retryTimer : Option (RetryTimerId × MonotonicInstant)
  retryReady : Bool
  slowReadmission : Option (SlowReadmissionId × MonotonicInstant)
  slowReadmissionReady : Bool
  pendingSlowReadmission : Option SlowReadmissionDecision
  slowDemotionCount : U32
  slowSlot : Option SlowSlotPersistence
  slowRemainingPosition : ℕ
  noSpaceProbe : Option (NoSpaceProbeId × NoSpaceProbeOrigin)
  pendingOptionPatch : Option OptionPatchId
  pendingOptionPatchMode : Option PendingOptionPatchMode
  pendingCredentialRequirement : Option CredentialRequirementKey
  pendingUserControl : Option PendingUserControl
  pendingSourceReplacement : Bool
  hostKeyChallenge : Option PresentedHostKeyChallenge
  error : Option PublicError
  stoppedStatus : Option Aria2Status
  terminalPersisted : Bool
  seenEvents : Finset TaskEventKind
  lastRetryTimer : Option RetryTimerId
  lastSlowReadmission : Option SlowReadmissionId
  lastNoSpaceProbe : Option NoSpaceProbeId
  highestOptionPatchId : Option OptionPatchId
  lastOptionPatchPersistence : Option OptionPatchId
  lastOptionPatchApplication : Option OptionPatchId
  lastHostKeyResolution : Option HostKeyResolutionId
  lastStoppedDeletion : Option StoppedResultDeletionId
  deriving DecidableEq

namespace ScheduledTask

def new (taskId : TaskId) (gid : Gid) (desiredPaused : Bool) (conditions : TaskConditions) :
    ScheduledTask where
  taskId := taskId
  gid := gid
  state := .accepted
  generation := .initial
  generationStarted := false
  desiredPaused := desiredPaused
  conditions := conditions
  slot := .none
  pendingBarrier := none
  retryTimer := none
  retryReady := false
  slowReadmission := none
  slowReadmissionReady := false
  pendingSlowReadmission := none
  slowDemotionCount := 0
  slowSlot := none
  slowRemainingPosition := 0
  noSpaceProbe := none
  pendingOptionPatch := none
  pendingOptionPatchMode := none
  pendingCredentialRequirement := none
  pendingUserControl := none
  pendingSourceReplacement := false
  hostKeyChallenge := none
  error := none
  stoppedStatus := none
  terminalPersisted := false
  seenEvents := ∅
  lastRetryTimer := none
  lastSlowReadmission := none
  lastNoSpaceProbe := none
  highestOptionPatchId := none
  lastOptionPatchPersistence := none
  lastOptionPatchApplication := none
  lastHostKeyResolution := none
  lastStoppedDeletion := none

variable (task : ScheduledTask)

def awaitsTerminalPersistence : Bool :=
  match task.pendingBarrier with
  | some (.terminalPersistence _ _) => true
  | _ => false

/-- The queue a task belongs to, derived from its state, slot and barrier. -/
def queueClass : Option QueueClass :=
  match task.state with
  | .accepted | .waiting => some .waiting
  | .waitingSlow => some .demoted
  | .allocating | .active | .verifying | .seeding => some .active
  | .retryWait => some (if task.slot.ownsSlot then .active else .waiting)
  | .paused | .pausedSlow | .pausedHostKey => some .paused
  | .pausedRestarting => some (if task.slot.ownsSlot then .active else .waiting)
  | .complete | .error | .removed =>
    if task.awaitsTerminalPersistence then some .stopped
    else if task.slot.ownsSlot then some .active
    else none
  | .stoppedResult => some .stopped

/-- The status snapshot of a task under the live retry-slot policy. -/
def statusSnapshot (retryWaitHoldsSlot : Bool) : TaskSnapshot where
  gid := task.gid
  state := task.state
  generation := task.generation
  totalLength := none
  completedLength := 0
  durableLength := 0
  currentSpeed := 0
  averageSpeed := 0
  activeLeases := 0
  retryWaitLeases := 0
  retryWaitUntil := task.retryTimer.map Prod.snd
  lastProgressAt := none
  conditions := task.conditions.snapshot
  desiredPaused := task.desiredPaused
  retryWaitHoldsSlot := retryWaitHoldsSlot && decide (task.slot = .retryRetained)
  stoppedStatus := task.stoppedStatus
  hostKeyChallenge := task.hostKeyChallenge.map PresentedHostKeyChallenge.summary
  error := task.error
  terminalPersisted := task.terminalPersisted

def snapshot (retryWaitHoldsSlot : Bool) : Except SchedulerError TaskSnapshot :=
  match (task.statusSnapshot retryWaitHoldsSlot).validate with
  | .ok _ => .ok (task.statusSnapshot retryWaitHoldsSlot)
  | .error _ => .error .internalInvariant

def clearGenerationEventHistory : ScheduledTask :=
  { task with
    seenEvents := ∅
    lastRetryTimer := none
    lastSlowReadmission := none
    lastNoSpaceProbe := none
    lastOptionPatchPersistence := none
    lastOptionPatchApplication := none
    lastHostKeyResolution := none
    slowSlot := none }

end ScheduledTask

/-! ## Queues -/

structure SchedulerQueues where
  waiting : List Gid := []
  demoted : List Gid := []
  paused : List Gid := []
  active : List Gid := []
  stopped : List Gid := []
  deriving DecidableEq

namespace SchedulerQueues

variable (queues : SchedulerQueues)
include queues

def get : QueueClass → List Gid
  | .waiting => queues.waiting
  | .demoted => queues.demoted
  | .paused => queues.paused
  | .active => queues.active
  | .stopped => queues.stopped

/-- Assignment through the source's `get_mut`. -/
def set (queueClass : QueueClass) (order : List Gid) : SchedulerQueues :=
  match queueClass with
  | .waiting => { queues with waiting := order }
  | .demoted => { queues with demoted := order }
  | .paused => { queues with paused := order }
  | .active => { queues with active := order }
  | .stopped => { queues with stopped := order }

def setAll (orders : List QueueOrder) : SchedulerQueues :=
  orders.foldl (fun queues order => queues.set order.queueClass order.order) queues

theorem get_set (c d : QueueClass) (order : List Gid) :
    (queues.set c order).get d = if c = d then order else queues.get d := by
  cases c <;> cases d <;> rfl

end SchedulerQueues

def allQueueClasses : List QueueClass := [.waiting, .demoted, .paused, .active, .stopped]

@[simp] theorem mem_allQueueClasses (c : QueueClass) : c ∈ allQueueClasses := by
  cases c <;> decide

/-! ## Correlation counters -/

structure IdCounters where
  retryTimer : U64 := 1
  slowReadmission : U64 := 1
  noSpaceProbe : U64 := 1
  hostKeyResolution : U64 := 1
  stoppedDeletion : U64 := 1
  deriving DecidableEq

/-- Draws the next identifier and advances its counter. The counter that has
handed out the largest identifier becomes zero, from which nothing is drawn. -/
def nextId {family : IdFamily} (next : U64) : Except SchedulerError (NonzeroId family × U64) :=
  match NonzeroId.new next with
  | none => .error .internalInvariant
  | some value => .ok (value, (checkedSucc next).getD 0)

namespace IdCounters

variable (ids : IdCounters)

def drawRetryTimer : Except SchedulerError (RetryTimerId × IdCounters) := do
  let (id, next) ← nextId ids.retryTimer
  return (id, { ids with retryTimer := next })

def drawSlowReadmission : Except SchedulerError (SlowReadmissionId × IdCounters) := do
  let (id, next) ← nextId ids.slowReadmission
  return (id, { ids with slowReadmission := next })

def drawNoSpaceProbe : Except SchedulerError (NoSpaceProbeId × IdCounters) := do
  let (id, next) ← nextId ids.noSpaceProbe
  return (id, { ids with noSpaceProbe := next })

def drawHostKeyResolution : Except SchedulerError (HostKeyResolutionId × IdCounters) := do
  let (id, next) ← nextId ids.hostKeyResolution
  return (id, { ids with hostKeyResolution := next })

def drawStoppedDeletion : Except SchedulerError (StoppedResultDeletionId × IdCounters) := do
  let (id, next) ← nextId ids.stoppedDeletion
  return (id, { ids with stoppedDeletion := next })

end IdCounters

end Ariax
