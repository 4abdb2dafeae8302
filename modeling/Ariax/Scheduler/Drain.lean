import Ariax.Scheduler.Events

/-!
# Drains, probes and terminal results

The remaining event handlers of `scheduler.rs`: work that ends in a
cancellation drain, the drain itself, disk-space probes, and the
acknowledgements of terminal results and stopped-result deletions.
-/

namespace Ariax

open SchedulerAction

def ScheduledTask.deletionCall (original : ScheduledTask) (action : SchedulerAction)
    (instant : MonotonicInstant) (ids : IdCounters) : FinishCall where
  original := original
  updated := none
  originalPresent := true
  action := action
  instant := instant
  effects := []
  publish := false
  ids := ids

namespace RequestScheduler

/-! ## Work that has to be drained -/

section

variable (self : RequestScheduler) (original : ScheduledTask)

def noSpace (condition : NoSpaceCondition) (instant : MonotonicInstant) :
    Except SchedulerError Planned :=
  match condition.validate with
  | .error _ => .error .invalidTaskConditions
  | .ok _ =>
    let action := midTransferNoSpace
    original.staleIfRejectedEvent action instant do
      let state ← original.targetState action
      let conditions := { original.conditions with noSpace := some condition }
      let draft := { original with state := state, conditions := conditions }.draft
      let draft := draft.push
        [.persistConditions original.taskId original.gid conditions]
      let draft ← draft.beginCancellation .waiting false "no_space"
      return (draft.mark .noSpace).finish original action instant true self.ids

def terminalFailure (error : PublicError) (instant : MonotonicInstant) :
    Except SchedulerError Planned :=
  let action := terminalWorkFailure
  original.staleIfRejectedEvent action instant do
    let state ← original.targetState action
    let draft := { original with state := state, error := some error }.draft
    let draft ← draft.beginCancellation .error false "terminal_failure"
    return (draft.mark .terminalFailure).finish original action instant false self.ids

def slowDemoted (decision : SlowReadmissionDecision) (instant : MonotonicInstant) :
    Except SchedulerError Planned :=
  if decision.delayMs = 0 ∨ maxPersistedMilliseconds < decision.scheduledAtMs.val then
    .error .invalidSlowReadmissionDecision
  else
    let action := slowSlotDemote
    original.staleIfRejectedEvent action instant do
      let state ← original.targetState action
      match (self.queues.get .active).idxOf? original.gid with
      | none => throw .internalInvariant
      | some originalPosition =>
        match checkedSucc original.slowDemotionCount with
        | none => throw .internalInvariant
        | some demotionCount =>
          let draft := { original with
            state := state
            pendingSlowReadmission := some decision
            slowDemotionCount := demotionCount
            slowSlot := some { originalPosition, demotionCount, decision }
            slowRemainingPosition := originalPosition }.draft
          let draft ← draft.beginCancellation .waitingSlow false "slow_demoted"
          return (draft.mark .slowDemoted).finish original action instant true self.ids

def slowPaused (instant : MonotonicInstant) : Except SchedulerError Planned :=
  let action := slowSlotPause
  original.staleIfRejectedEvent action instant do
    let state ← original.targetState action
    let draft := { original with state := state, desiredPaused := true }.draft
    let draft ← draft.beginCancellation .pausedSlow false "slow_paused"
    return (draft.mark .slowPaused).finish original action instant true self.ids

end

/-! ## The end of a drain -/

/-- What a drained task does next, and whether its snapshot is published. -/
def drainDestination (original : ScheduledTask) (draft : Draft) (target : DrainTarget)
    (action : SchedulerAction) (ids : IdCounters) :
    Except SchedulerError (Draft × Bool × IdCounters) :=
  let task := draft.task
  match target with
  | .pausedRestarting =>
    if task.pendingSourceReplacement then
      .ok (draft, true, ids)
    else
      match task.pendingOptionPatch with
      | none => .error .internalInvariant
      | some patchId =>
        if task.pendingOptionPatchMode ≠ some .activeRestart then
          .error .internalInvariant
        else do
          let state ← original.targetState action
          return ({
            task := { task with
              state := state
              pendingBarrier := some (.optionPatchApplication task.generation patchId) }
            effects := draft.effects ++ [.applyOptionPatch task.taskId task.gid patchId
              task.pendingCredentialRequirement] }, false, ids)
  | .waitingSlow =>
    match task.pendingSlowReadmission with
    | none => .ok (draft, true, ids)
    | some decision => do
        let (readmissionId, ids) ← ids.drawSlowReadmission
        return ({
          task := { task with
            pendingSlowReadmission := none
            slowReadmission := some (readmissionId, decision.readmitAt) }
          effects := draft.effects ++ [.scheduleSlowReadmission task.taskId task.gid
            task.generation readmissionId decision.readmitAt] }, true, ids)
  | .error =>
    match task.error with
    | none => .error .internalInvariant
    | some error => do
        return (← draft.beginTerminal .error (some error), false, ids)
  | .removed => do
      return (← draft.beginTerminal .removed none, false, ids)
  | .paused | .pausedSlow | .waiting => .ok (draft, true, ids)

def probeAfterDrain (draft : Draft) (ids : IdCounters) :
    Except SchedulerError (Draft × IdCounters) :=
  if draft.task.state.retainsConditions then
    match draft.task.conditions.noSpace.bind NoSpaceCondition.retryAt with
    | some probeAt => draft.scheduleNoSpaceProbe .automaticRetry probeAt ids
    | none => .ok (draft, ids)
  else
    .ok (draft, ids)

def cancellationDrained (self : RequestScheduler) (original : ScheduledTask)
    (generation : Generation) (instant : MonotonicInstant) : Except SchedulerError Planned :=
  match original.pendingBarrier with
  | some (.cancellationDrain expected target _) =>
    if expected ≠ generation then
      original.ignored .stale instant
    else
      let action :=
        if target = .pausedRestarting then restartQuiesced
        else cancellationDrainSucceeded
      original.staleIfRejectedEvent action instant <|
        if target ≠ .pausedRestarting ∧ original.state ≠ target.state then
          .error .internalInvariant
        else do
          let draft := { original with pendingBarrier := none }.draft.releaseSlot
          let (draft, publish, ids) ←
            drainDestination original draft target action self.ids
          let (draft, ids) ← probeAfterDrain draft ids
          return (draft.mark .cancellationDrained).finish original action instant publish ids
  | _ => original.ignored .stale instant

/-! ## Disk-space probes -/

def probedConditions (conditions : TaskConditions) (ready : Bool)
    (nextRetryAt : Option MonotonicInstant) : Except SchedulerError TaskConditions :=
  if ready then
    .ok { conditions with noSpace := none }
  else
    match conditions.noSpace with
    | some condition =>
      .ok { conditions with noSpace := some { condition with retryAt := nextRetryAt } }
    | none => .error .internalInvariant

section

variable (self : RequestScheduler) (original : ScheduledTask)

def noSpaceProbeCompleted (probeId : NoSpaceProbeId) (origin : NoSpaceProbeOrigin) (ready : Bool)
    (nextRetryAt : Option MonotonicInstant) (instant : MonotonicInstant) :
    Except SchedulerError Planned :=
  let disposition := tokenDisposition (original.noSpaceProbe.map Prod.fst)
    original.lastNoSpaceProbe probeId
  if disposition ≠ .fresh ∨ original.noSpaceProbe.map Prod.snd ≠ some origin then
    original.ignored (if disposition = .duplicate then .duplicate else .stale) instant
  else
    match forNoSpaceProbeResult original.state origin original.desiredPaused
      ready with
    | none => .error (.conflict original.state "no_space_probe_completed")
    | some action =>
      original.staleIfRejectedEvent action instant do
        let conditions ← probedConditions original.conditions ready nextRetryAt
        let state ← original.targetState action
        let draft := { original with
          noSpaceProbe := none
          lastNoSpaceProbe := some probeId
          conditions := conditions
          state := state }.draft
        let draft := draft.push
          [.persistConditions original.taskId original.gid conditions]
        let (draft, ids) ←
          match ready, nextRetryAt with
          | false, some probeAt => draft.scheduleNoSpaceProbe .automaticRetry probeAt self.ids
          | _, _ => pure (draft, self.ids)
        return draft.finish original action instant true ids

/-! ## Terminal results -/

def terminalPersisted (generation : Generation) (status : Aria2Status)
    (instant : MonotonicInstant) :
    Except SchedulerError Planned :=
  if original.pendingBarrier ≠ some (.terminalPersistence generation status) then
    if original.state = .stoppedResult ∧ original.stoppedStatus = some status ∧
        original.terminalPersisted then
      original.ignored .duplicate instant
    else
      .error .invalidTerminalAcknowledgement
  else
    let action := terminalPersistenceSucceeded
    original.staleIfRejectedEvent action instant do
      let state ← original.targetState action
      let updated := { original with
        pendingBarrier := none
        state := state
        stoppedStatus := some status
        terminalPersisted := true }.markNonTokenEvent .terminalPersisted
      return updated.draft.finish original action instant true self.ids

end

def expectedDeletion (task : ScheduledTask) : Option StoppedResultDeletionId :=
  match task.pendingBarrier with
  | some (.stoppedResultDeletion generation deletionId) =>
    if generation = task.generation then some deletionId else none
  | _ => none

def stoppedResultDeletionCompleted (self : RequestScheduler) (original : ScheduledTask)
    (deletionId : StoppedResultDeletionId) (succeeded : Bool) (instant : MonotonicInstant) :
    Except SchedulerError Planned :=
  let disposition := tokenDisposition (expectedDeletion original)
    original.lastStoppedDeletion deletionId
  if disposition ≠ .fresh then
    original.ignored disposition instant
  else if succeeded then
    let action := stoppedResultDeletionSucceeded
    original.staleIfRejectedEvent action instant <|
      .ok (.finish (original.deletionCall action instant self.ids))
  else
    let action := stoppedResultDeletionFailed
    original.staleIfRejectedEvent action instant <|
      let updated := { original with
        pendingBarrier := none, lastStoppedDeletion := some deletionId }
      .ok (updated.draft.finish original action instant false self.ids)

end RequestScheduler

end Ariax
