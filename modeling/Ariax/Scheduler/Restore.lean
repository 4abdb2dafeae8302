import Ariax.Scheduler.Machine

/-!
# Recovery of a scheduler

`RequestScheduler::restore` rebuilds a scheduler from a recovered batch of
tasks and queue orders. It accepts the batch only if every task is in a
state that may survive a restart, carries the metadata of that state and no
other, and is a member of exactly the queue its state names.
-/

namespace Ariax

structure RecoveredSchedulerTask where
  taskId : TaskId
  gid : Gid
  state : TaskState
  generation : Generation
  generationStarted : Bool
  desiredPaused : Bool
  conditions : TaskConditions
  slowDemotionCount : U32
  slowSlot : Option SlowSlotPersistence
  retryAt : Option MonotonicInstant
  hostKeyChallenge : Option PresentedHostKeyChallenge
  error : Option PublicError
  stoppedStatus : Option Aria2Status
  deriving DecidableEq

structure SchedulerRestoreBatch where
  tasks : List RecoveredSchedulerTask
  queues : List QueueOrder
  deriving DecidableEq

structure SchedulerRestorePlan where
  effects : List TransitionEffect
  initialEffectCount : ℕ
  boundScheduler : RequestScheduler
  deriving DecidableEq

namespace SchedulerRestorePlan

/-- Whether the plan is untouched and was produced for exactly this scheduler. -/
def isBoundTo (plan : SchedulerRestorePlan) (scheduler : RequestScheduler) : Bool :=
  plan.effects.length = plan.initialEffectCount ∧ plan.boundScheduler = scheduler

def nextBatch (plan : SchedulerRestorePlan) : List TransitionEffect × SchedulerRestorePlan :=
  (plan.effects.take maxSchedulerEffects,
    { plan with effects := plan.effects.drop maxSchedulerEffects })

end SchedulerRestorePlan

inductive SchedulerRestoreError where
  | taskLimitReached
  | duplicateTaskId (taskId : TaskId)
  | duplicateGid (gid : Gid)
  | missingQueue (queueClass : QueueClass)
  | duplicateQueue (queueClass : QueueClass)
  | duplicateQueueMember (gid : Gid)
  | unknownQueueTask (gid : Gid)
  | missingQueueTask (gid : Gid)
  | queueClassMismatch (gid : Gid) (expected actual : QueueClass)
  | invalidState (gid : Gid) (state : TaskState)
  | invalidConditions (gid : Gid)
  | invalidRetryWait (gid : Gid)
  | invalidSlowState (gid : Gid)
  | invalidHostKeyState (gid : Gid)
  | invalidStoppedResult (gid : Gid)
  | unexpectedTaskMetadata (gid : Gid)
  | invalidSnapshot (gid : Gid)
  | correlationIdExhausted
  deriving DecidableEq

namespace RecoveredSchedulerTask

variable (task : RecoveredSchedulerTask)

def hasRecoverableState : Bool :=
  match task.state with
  | .waiting | .waitingSlow | .retryWait | .paused | .pausedSlow | .pausedHostKey
  | .stoppedResult => true
  | _ => false

/-- The slow-state check: a demoted task carries consistent slow-slot
metadata, and no other task carries any. -/
def validateSlowState (maxTasks : ℕ) : Except SchedulerRestoreError Unit :=
  match task.state, task.slowSlot with
  | .waitingSlow, none => .error (.invalidSlowState task.gid)
  | .waitingSlow, some slowSlot =>
    if task.slowDemotionCount = 0 ∨ slowSlot.demotionCount ≠ task.slowDemotionCount ∨
        maxTasks ≤ slowSlot.originalPosition ∨ slowSlot.decision.delayMs = 0 ∨
        maxPersistedMilliseconds < slowSlot.decision.scheduledAtMs.val then
      .error (.invalidSlowState task.gid)
    else
      .ok ()
  | _, some _ => .error (.invalidSlowState task.gid)
  | _, none => .ok ()

/-- The terminal check: a stopped result carries a terminal status with an
error exactly when it failed, and no other task carries either. -/
def validateStoppedResult : Except SchedulerRestoreError Unit :=
  match task.state, task.stoppedStatus with
  | .stoppedResult, none => .error (.invalidStoppedResult task.gid)
  | .stoppedResult, some status =>
    if !status.isTerminal || (decide (status = .error) != task.error.isSome) then
      .error (.invalidStoppedResult task.gid)
    else
      .ok ()
  | _, status =>
    if status.isSome || task.error.isSome then
      .error (.unexpectedTaskMetadata task.gid)
    else
      .ok ()

def validateRecoveredTask (maxTasks : ℕ) : Except SchedulerRestoreError Unit := do
  rejectIf (!task.hasRecoverableState) (.invalidState task.gid task.state)
  rejectIf (decide (task.state = .retryWait) ≠ task.retryAt.isSome) (.invalidRetryWait task.gid)
  task.validateSlowState maxTasks
  rejectIf (decide (task.state = .pausedHostKey) ≠ task.hostKeyChallenge.isSome)
    (.invalidHostKeyState task.gid)
  task.validateStoppedResult

/-- The scheduled task before its timers are drawn. -/
def scheduledTask : ScheduledTask :=
  { ScheduledTask.new task.taskId task.gid task.desiredPaused task.conditions with
    state := task.state
    generation := task.generation
    generationStarted := task.generationStarted
    slowDemotionCount := task.slowDemotionCount
    slowSlot := task.slowSlot
    slowRemainingPosition := (task.slowSlot.map SlowSlotPersistence.originalPosition).getD 0
    hostKeyChallenge := task.hostKeyChallenge
    error := task.error
    stoppedStatus := task.stoppedStatus
    terminalPersisted := decide (task.state = .stoppedResult) }

end RecoveredSchedulerTask

/-! ## Queues -/

/-- The queue orders read so far, with the classes and members seen. -/
structure RestoredQueues where
  queues : SchedulerQueues := {}
  seenClasses : Finset QueueClass := ∅
  memberships : OrderedMap Gid QueueClass := ∅

namespace RestoredQueues

def addMember (queueClass : QueueClass) (memberships : OrderedMap Gid QueueClass) (gid : Gid) :
    Except SchedulerRestoreError (OrderedMap Gid QueueClass) :=
  if memberships.contains gid then
    .error (.duplicateQueueMember gid)
  else
    .ok (memberships.insert gid queueClass)

def addQueue (maxTasks : ℕ) (restored : RestoredQueues) (order : QueueOrder) :
    Except SchedulerRestoreError RestoredQueues := do
  rejectIf (order.queueClass ∈ restored.seenClasses) (.duplicateQueue order.queueClass)
  rejectIf (maxTasks < order.order.length) .taskLimitReached
  let memberships ← order.order.foldlM (addMember order.queueClass) restored.memberships
  return {
    queues := restored.queues.set order.queueClass order.order
    seenClasses := insert order.queueClass restored.seenClasses
    memberships }

/-- Reads every queue order of a batch; each class occurs exactly once. -/
def ofOrders (maxTasks : ℕ) (orders : List QueueOrder) :
    Except SchedulerRestoreError RestoredQueues := do
  let restored ← orders.foldlM (addQueue maxTasks) {}
  match allQueueClasses.find? fun queueClass => queueClass ∉ restored.seenClasses with
  | some queueClass => throw (.missingQueue queueClass)
  | none => return restored

end RestoredQueues

/-! ## Tasks -/

structure RestoredTasks where
  scheduler : RequestScheduler
  timerEffects : OrderedMap Gid (List TransitionEffect)

namespace RestoredTasks

def exhausted {α : Type} (draw : Except SchedulerError α) : Except SchedulerRestoreError α :=
  match draw with
  | .ok value => .ok value
  | .error _ => .error .correlationIdExhausted

section

variable (recovered : RecoveredSchedulerTask) (draft : Draft) (ids : IdCounters)

def redrawTimer : Except SchedulerRestoreError (Draft × IdCounters) :=
  match recovered.state with
  | .retryWait =>
    match recovered.retryAt with
    | none => .error (.invalidRetryWait recovered.gid)
    | some retryAt => do
        let (retryTimerId, ids) ← exhausted ids.drawRetryTimer
        return ({
          task := { draft.task with retryTimer := some (retryTimerId, retryAt) }
          effects := draft.effects ++ [.scheduleRetry recovered.taskId recovered.gid
            recovered.generation retryTimerId retryAt] }, ids)
  | .waitingSlow =>
    match recovered.slowSlot with
    | none => .error (.invalidSlowState recovered.gid)
    | some slowSlot => do
        let (readmissionId, ids) ← exhausted ids.drawSlowReadmission
        let readmitAt := slowSlot.decision.readmitAt
        return ({
          task := { draft.task with slowReadmission := some (readmissionId, readmitAt) }
          effects := draft.effects ++ [.scheduleSlowReadmission recovered.taskId
            recovered.gid recovered.generation readmissionId readmitAt] }, ids)
  | _ => .ok (draft, ids)

def redrawProbe : Except SchedulerRestoreError (Draft × IdCounters) :=
  match recovered.conditions.noSpace.bind NoSpaceCondition.retryAt with
  | none => .ok (draft, ids)
  | some retryAt => do
      let (probeId, ids) ← exhausted ids.drawNoSpaceProbe
      return ({
        task := { draft.task with noSpaceProbe := some (probeId, .automaticRetry) }
        effects := draft.effects ++ [.probeNoSpace recovered.taskId recovered.gid
          recovered.generation probeId .automaticRetry retryAt] }, ids)

end

def addTask (restored : RestoredTasks) (recovered : RecoveredSchedulerTask) :
    Except SchedulerRestoreError RestoredTasks := do
  let scheduler := restored.scheduler
  rejectIf (scheduler.tasks.contains recovered.gid) (.duplicateGid recovered.gid)
  rejectIf (scheduler.taskIds.contains recovered.taskId) (.duplicateTaskId recovered.taskId)
  recovered.conditions.validate.mapError fun _ => .invalidConditions recovered.gid
  recovered.validateRecoveredTask scheduler.config.maxTasks
  let (draft, ids) ← redrawTimer recovered recovered.scheduledTask.draft scheduler.ids
  let (draft, ids) ← redrawProbe recovered draft ids
  return {
    scheduler := { scheduler with
      ids := ids
      highestTaskId := some
        ((scheduler.highestTaskId.map (max · recovered.taskId)).getD recovered.taskId)
      taskIds := scheduler.taskIds.insert recovered.taskId recovered.gid
      tasks := scheduler.tasks.insert recovered.gid draft.task }
    timerEffects :=
      -- a GID occurs once in the batch, so its effects are collected in one place
      if draft.effects = [] then restored.timerEffects
      else restored.timerEffects.insert recovered.gid draft.effects }

end RestoredTasks

/-! ## The restored scheduler -/

namespace RequestScheduler

def checkMembershipCount (self : RequestScheduler) (memberships : OrderedMap Gid QueueClass) :
    Except SchedulerRestoreError Unit :=
  if memberships.size = self.tasks.size then
    .ok ()
  else
    match self.tasks.keys.find? fun gid => !memberships.contains gid with
    | some gid => .error (.missingQueueTask gid)
    | none =>
      match memberships.keys.find? fun gid => !self.tasks.contains gid with
      | some gid => .error (.unknownQueueTask gid)
      | none => .error .taskLimitReached

def checkMembership (self : RequestScheduler) (member : Gid × QueueClass) :
    Except SchedulerRestoreError Unit :=
  match self.tasks[member.1]? with
  | none => .error (.unknownQueueTask member.1)
  | some task =>
    match task.queueClass with
    | none => .error (.invalidState member.1 task.state)
    | some expected =>
      if expected ≠ member.2 then
        .error (.queueClassMismatch member.1 expected member.2)
      else
        .ok ()

def restorePublication (timerEffects : OrderedMap Gid (List TransitionEffect))
    (state : RequestScheduler × List TransitionEffect) (gid : Gid) :
    Except SchedulerRestoreError (RequestScheduler × List TransitionEffect) :=
  match state.1.tasks[gid]? with
  | none => .error (.unknownQueueTask gid)
  | some task =>
    match task.snapshot state.1.config.retryWaitHoldsSlot with
    | .error _ => .error (.invalidSnapshot gid)
    | .ok snapshot =>
      .ok ({ state.1 with
          publishedSnapshots := state.1.publishedSnapshots.insert gid snapshot },
        state.2 ++ timerEffects.getD gid [] ++ [.publishSnapshot task.taskId snapshot])

def restore (config : SchedulerConfig) (batch : SchedulerRestoreBatch) :
    Except SchedulerRestoreError (RequestScheduler × SchedulerRestorePlan) := do
  rejectIf (config.maxTasks < batch.tasks.length) .taskLimitReached
  let restoredQueues ← RestoredQueues.ofOrders config.maxTasks batch.queues
  let restored ← batch.tasks.foldlM RestoredTasks.addTask ⟨new config, ∅⟩
  restored.scheduler.checkMembershipCount restoredQueues.memberships
  let _ ← restoredQueues.memberships.toList.mapM restored.scheduler.checkMembership
  let scheduler := { restored.scheduler with queues := restoredQueues.queues }
  let members := allQueueClasses.flatMap scheduler.queues.get
  let (scheduler, effects) ←
    members.foldlM (restorePublication restored.timerEffects) (scheduler, [])
  return (scheduler, {
    effects
    initialEffectCount := effects.length
    boundScheduler := scheduler })

end RequestScheduler

end Ariax
