import Ariax.Scheduler.Commit

/-!
# Steps shared by the handlers

The associated functions of `scheduler.rs` that edit a task and its effect
list together: slot release, timer cancellation, disk-space probes, worker
cancellation, terminal persistence, deferred user controls and admission.
-/

namespace Ariax

/-- The two values a handler mutates: the updated task and its effects so far. -/
structure Draft where
  task : ScheduledTask
  effects : List TransitionEffect

namespace ScheduledTask

variable (task : ScheduledTask)

def draft : Draft := ⟨task, []⟩

def releaseEffects : List TransitionEffect :=
  if task.slot.ownsSlot then [.releaseSlot task.taskId task.gid task.slot] else []

def cancelRetryEffects : List TransitionEffect :=
  match task.retryTimer with
  | some (retryTimerId, _) =>
    [.cancelRetry task.taskId task.gid task.generation retryTimerId]
  | none => []

def cancelSlowReadmissionEffects : List TransitionEffect :=
  match task.slowReadmission with
  | some (readmissionId, _) =>
    [.cancelSlowReadmission task.taskId task.gid task.generation readmissionId]
  | none => []

def rejectedKeyEffects : List TransitionEffect :=
  match task.hostKeyChallenge with
  | some challenge =>
    [.persistHostKeyChallengeRejected task.taskId task.gid challenge.summary.id]
  | none => []

/-- The task holds a slot for its generation, whose start is being persisted. -/
def reserveSlot (target : TaskState) : ScheduledTask :=
  { task with
    generationStarted := true
    state := target
    slot := .reserved
    retryReady := false
    slowReadmissionReady := false
    pendingBarrier := some (.generationPersistence task.generation) }

def markNonTokenEvent (kind : TaskEventKind) : ScheduledTask :=
  { task with seenEvents := insert kind task.seenEvents }

end ScheduledTask

namespace PendingBarrier

def defersUserControl : PendingBarrier → Bool
  | optionPatchPersistence .. | optionPatchApplication .. | hostKeyResolution .. => true
  | _ => false

end PendingBarrier

namespace Draft

variable (draft : Draft)

section

variable (original : ScheduledTask) (action : SchedulerAction) (instant : MonotonicInstant)
  (publish : Bool) (ids : IdCounters)

def call : FinishCall where
  original := original
  updated := some draft.task
  originalPresent := true
  action := action
  instant := instant
  effects := draft.effects
  publish := publish
  ids := ids

/-- The tail call of a handler whose task stays in the scheduler. -/
def finish : Planned :=
  .finish (draft.call original action instant publish ids)

end

def push (effects : List TransitionEffect) : Draft :=
  { draft with effects := draft.effects ++ effects }

def releaseSlot : Draft where
  task := { draft.task with slot := .none }
  effects := draft.effects ++ draft.task.releaseEffects

def cancelTimers : Draft where
  task := { draft.task with
    retryTimer := none
    retryReady := false
    slowReadmission := none
    slowReadmissionReady := false
    pendingSlowReadmission := none
    slowSlot := none }
  effects := draft.effects ++ draft.task.cancelRetryEffects ++
    draft.task.cancelSlowReadmissionEffects

/-- The part of timer cancellation that `resume` performs by itself. -/
def cancelSlowReadmission : Draft where
  task := { draft.task with
    slowReadmission := none
    slowReadmissionReady := false
    slowSlot := none }
  effects := draft.effects ++ draft.task.cancelSlowReadmissionEffects

def awaitProbe (probeId : NoSpaceProbeId) (origin : NoSpaceProbeOrigin)
    (instant : MonotonicInstant) :
    Draft where
  task := { draft.task with noSpaceProbe := some (probeId, origin) }
  effects := draft.effects ++ [.probeNoSpace draft.task.taskId draft.task.gid
    draft.task.generation probeId origin instant]

def scheduleNoSpaceProbe (origin : NoSpaceProbeOrigin) (instant : MonotonicInstant)
    (ids : IdCounters) : Except SchedulerError (Draft × IdCounters) :=
  if draft.task.noSpaceProbe.isSome then
    .ok (draft, ids)
  else if draft.task.conditions.noSpace.isNone then
    .error .internalInvariant
  else do
    let (probeId, ids) ← ids.drawNoSpaceProbe
    return (draft.awaitProbe probeId origin instant, ids)

def awaitDrain (target : DrainTarget) (force : Bool) (effects : List TransitionEffect) : Draft where
  task := { draft.task with
    pendingBarrier := some (.cancellationDrain draft.task.generation target force) }
  effects := draft.effects ++ effects

def beginCancellation (target : DrainTarget) (force : Bool) (operation : String) :
    Except SchedulerError Draft :=
  let task := draft.task
  match task.pendingBarrier with
  | none | some (.generationPersistence _) =>
    .ok (draft.awaitDrain target force
      [.cancelGeneration task.taskId task.gid task.generation force])
  | some (.cancellationDrain generation existingTarget existingForce) =>
    if generation = task.generation then
      .ok (draft.awaitDrain target (existingForce || force)
        (if force && !existingForce then
          [.cancelGeneration task.taskId task.gid task.generation true]
        else []))
    else
      .error (.pendingBarrier
        (.cancellationDrain generation existingTarget existingForce) operation)
  | some barrier => .error (.pendingBarrier barrier operation)

section

variable (status : Aria2Status) (error : Option PublicError)

def awaitTerminal : Draft :=
  { draft with
    task := { draft.task with
      error := error
      stoppedStatus := none
      terminalPersisted := false
      pendingBarrier := some (.terminalPersistence draft.task.generation status) } }

def beginTerminal : Except SchedulerError Draft :=
  if !status.isTerminal || (decide (status = .error) && error.isNone) then
    .error .internalInvariant
  else
    .ok (draft.awaitTerminal status error)

end

def dropOptionPatch : Draft :=
  { draft with
    task := { draft.task with
      pendingOptionPatch := none
      pendingOptionPatchMode := none
      pendingCredentialRequirement := none } }

def setState (state : TaskState) : Draft :=
  { draft with task := { draft.task with state := state } }

def setControl (control : Option PendingUserControl) : Draft :=
  { draft with task := { draft.task with pendingUserControl := control } }

def dropProbe : Draft :=
  { draft with task := { draft.task with noSpaceProbe := none } }

def mark (kind : TaskEventKind) : Draft :=
  { draft with task := draft.task.markNonTokenEvent kind }

/-- What a removal drops: timers, probe, option patch, control, and the
presented host key, which is reported as rejected. -/
def discard (state : TaskState) : Draft where
  task := { draft.task with
    state := state
    retryTimer := none
    retryReady := false
    slowReadmission := none
    slowReadmissionReady := false
    pendingSlowReadmission := none
    slowSlot := none
    noSpaceProbe := none
    hostKeyChallenge := none
    pendingOptionPatch := none
    pendingOptionPatchMode := none
    pendingCredentialRequirement := none
    pendingUserControl := none }
  effects := draft.effects ++ draft.task.cancelRetryEffects ++
    draft.task.cancelSlowReadmissionEffects ++ draft.task.rejectedKeyEffects

/-- Applies the control that waited behind a barrier, if there is one. -/
def completePendingUserControl (original : ScheduledTask) :
    Except SchedulerError (Option SchedulerAction × Draft) :=
  let taken := draft.setControl none
  match draft.task.pendingUserControl with
  | none => .ok (none, draft)
  | some (.pause force) => do
      let action := SchedulerAction.deferredPauseCompleted
      let state ← original.targetState action
      let draft := { taken with
        task := { taken.task with state := state, desiredPaused := true } }
      if draft.task.slot.ownsSlot then
        return (some action, ← draft.beginCancellation .paused force "deferred_pause")
      else
        return (some action, draft)
  | some .resume => do
      let action := SchedulerAction.deferredResumeCompleted
      let state ← original.targetState action
      let draft := { taken with
        task := { taken.task with
          state := state, desiredPaused := false, slowDemotionCount := 0 } }
      return (some action, draft.cancelTimers)
  | some (.remove force) => do
      let action := SchedulerAction.deferredRemoveCompleted
      let state ← original.targetState action
      let draft := draft.discard state
      if draft.task.slot.ownsSlot then
        return (some action, ← draft.beginCancellation .removed force "deferred_remove")
      else
        return (some action, ← draft.beginTerminal .removed none)

end Draft

namespace ScheduledTask

/-- The generation an admission runs: a task that has started one moves on. -/
def admittedGeneration (task : ScheduledTask) : Except SchedulerError Generation :=
  if task.generationStarted then
    match task.generation.checkedNext with
    | some generation => .ok generation
    | none => .error .generationExhausted
  else
    .ok task.generation

def enterGeneration (task : ScheduledTask) (generation : Generation) : ScheduledTask :=
  if generation ≠ task.generation then
    { task with generation := generation }.clearGenerationEventHistory
  else
    task

end ScheduledTask

namespace RequestScheduler

/-- Reserves a slot and starts a fresh generation for a task. -/
def planAdmission (self : RequestScheduler) (draft : Draft) (action : SchedulerAction) :
    Except SchedulerError Draft := do
  let task := draft.task
  task.rejectPending action.code
  rejectIf (task.desiredPaused || task.conditions.blocksAdmission) .noEligibleTask
  rejectIf (!task.slot.ownsSlot && decide (self.config.maxActiveTasks ≤ self.activeSlotCount))
    .activeLimitReached
  let target ← task.targetState action
  rejectIf (target ≠ .allocating) .internalInvariant
  let generation ← task.admittedGeneration
  let task := task.enterGeneration generation
  return {
    task := task.reserveSlot target
    effects := draft.effects ++
      [.persistGenerationStarted task.taskId task.gid generation] }

end RequestScheduler

/-! ## Ignored events -/

namespace ScheduledTask

def ignoredOutcome (task : ScheduledTask) (action : SchedulerAction)
    (instant : MonotonicInstant) : Except SchedulerError SchedulerOutcome :=
  let contract := transitionContract task.state action
  if contract.kind ≠ .ignore then
    .error .internalInvariant
  else
    SchedulerOutcome.checked (some {
      task := task.taskId
      gid := task.gid
      generation := task.generation
      fromState := task.state
      toState := task.state
      reason := contract.reason
      instant := instant }) none []

section

variable (task : ScheduledTask) (disposition : EventDisposition) (instant : MonotonicInstant)

def ignoredForDisposition : Except SchedulerError SchedulerOutcome :=
  match disposition with
  | .fresh => .error .internalInvariant
  | .duplicate => task.ignoredOutcome .duplicateEventIgnored instant
  | .stale => task.ignoredOutcome .staleEventIgnored instant

def ignored : Except SchedulerError Planned :=
  (task.ignoredForDisposition disposition instant).map .reply

end

/-- Continues with an event the contract accepts, and ignores it as stale otherwise. -/
def staleIfRejectedEvent (task : ScheduledTask) (action : SchedulerAction)
    (instant : MonotonicInstant) (handler : Except SchedulerError Planned) :
    Except SchedulerError Planned :=
  if (transitionContract task.state action).accepts then handler
  else task.ignored .stale instant

end ScheduledTask

def generationDisposition (expected actual : Generation) : Except SchedulerError EventDisposition :=
  if actual < expected then .ok .stale
  else if expected < actual then .error (.staleGeneration expected actual)
  else .ok .fresh

def tokenDisposition {family : IdFamily} (expected last : Option (NonzeroId family))
    (actual : NonzeroId family) : EventDisposition :=
  if expected = some actual then .fresh
  else if last = some actual then .duplicate
  else .stale

end Ariax
