import Ariax.Scheduler.Commands

/-!
# Event handlers

One handler per task event (`scheduler.rs`), called with the task the event
names once its task identity, generation and barrier have been checked.
-/

namespace Ariax

open SchedulerAction

namespace RequestScheduler

/-! ## Acknowledgements of barriers -/

def generationPersisted (self : RequestScheduler) (original : ScheduledTask)
    (generation : Generation) (instant : MonotonicInstant) : Except SchedulerError Planned :=
  let action := generationPersistenceSucceeded
  if original.pendingBarrier ≠ some (.generationPersistence generation) then
    original.ignored .stale instant
  else
    original.staleIfRejectedEvent action instant <|
      let updated := { original with pendingBarrier := none, slot := .active }
      let draft := (updated.markNonTokenEvent .generationPersisted).draft
      let draft := draft.push [.startAllocation original.taskId original.gid generation]
      .ok (draft.finish original action instant true self.ids)

def expectedPatchPersistence (task : ScheduledTask) : Option OptionPatchId :=
  match task.pendingBarrier with
  | some (.optionPatchPersistence generation patchId) =>
    if generation = task.generation then some patchId else none
  | _ => none

/-- The barrier of a staged patch is lifted; a patch that was not persisted is forgotten. -/
def patchPersistenceDraft (original : ScheduledTask) (patchId : OptionPatchId)
    (succeeded : Bool) : Draft :=
  let draft := { original with
    pendingBarrier := none, lastOptionPatchPersistence := some patchId }.draft
  if succeeded then draft else draft.dropOptionPatch

def optionPatchPersistenceCompleted (self : RequestScheduler) (original : ScheduledTask)
    (patchId : OptionPatchId) (succeeded : Bool) (instant : MonotonicInstant) :
    Except SchedulerError Planned := do
  let disposition := tokenDisposition (expectedPatchPersistence original)
    original.lastOptionPatchPersistence patchId
  if disposition ≠ .fresh then
    original.ignored disposition instant
  else
    rejectIf (original.pendingOptionPatch ≠ some patchId) .internalInvariant
    rejectIf (original.pendingOptionPatchMode ≠ some .activeRestart) .internalInvariant
    let draft := patchPersistenceDraft original patchId succeeded
    match ← draft.completePendingUserControl original with
    | (some action, draft) =>
      let publish := match action with
        | .deferredRemoveCompleted => false
        | .deferredPauseCompleted | .deferredResumeCompleted => true
        | _ => succeeded
      return draft.finish original action instant publish self.ids
    | (none, draft) =>
      let action :=
        if succeeded then activeRestartOptionPatchPersisted
        else activeRestartOptionPatchPersistenceFailed
      original.staleIfRejectedEvent action instant do
        let state ← original.targetState action
        let draft := draft.setState state
        let draft ←
          if succeeded then
            draft.beginCancellation .pausedRestarting false "option_patch_persisted"
          else
            pure draft
        return draft.finish original action instant succeeded self.ids

def expectedPatchApplication (task : ScheduledTask) : Option OptionPatchId :=
  match task.pendingBarrier with
  | some (.optionPatchApplication generation patchId) =>
    if generation = task.generation then some patchId else none
  | _ => none

/-- The action of an applied or failed patch that no user control overrides. -/
def patchApplicationAction (mode : PendingOptionPatchMode)
    (credentialRequirement : Option CredentialRequirementKey) (succeeded : Bool) :
    Except SchedulerError SchedulerAction :=
  match mode, credentialRequirement, succeeded with
  | .activeRestart, _, true => .ok .restartApplicationSucceeded
  | .activeRestart, _, false => .error .internalInvariant
  | .inPlace, some _, true => .ok .credentialsSatisfied
  | .inPlace, some _, false => .ok .credentialSatisfactionFailed
  | .inPlace, none, true => .ok .inPlaceOptionPatchApplied
  | .inPlace, none, false => .ok .inPlaceOptionPatchApplicationFailed
  | .matchingHostKey, _, _ => .error .internalInvariant

def publishesPatchApplication : SchedulerAction → Bool
  | .deferredPauseCompleted | .deferredResumeCompleted | .restartApplicationSucceeded
  | .credentialsSatisfied => true
  | _ => false

/-- The patch application itself: the barrier and the patch are gone, and a
successful one satisfies the credentials it was bound to. -/
def patchApplicationDraft (original : ScheduledTask) (patchId : OptionPatchId)
    (succeeded : Bool) : Draft :=
  { original with
    pendingBarrier := none
    pendingOptionPatch := none
    pendingOptionPatchMode := none
    pendingCredentialRequirement := none
    lastOptionPatchApplication := some patchId
    conditions :=
      if succeeded && original.pendingCredentialRequirement.isSome then
        { original.conditions with needsCredentials := none }
      else
        original.conditions }.draft

section

variable (self : RequestScheduler) (original : ScheduledTask)

def restartApplicationFailed (draft : Draft) (error : PublicError) (instant : MonotonicInstant) :
    Except SchedulerError Planned :=
  let action := SchedulerAction.restartApplicationFailed
  original.staleIfRejectedEvent action instant do
    let state ← original.targetState action
    let draft := (draft.setControl none).setState state
    let draft ← draft.beginTerminal .error (some error)
    return draft.finish original action instant false self.ids

def optionPatchApplicationCompleted (patchId : OptionPatchId) (error : Option PublicError)
    (instant : MonotonicInstant) : Except SchedulerError Planned := do
  let disposition := tokenDisposition (expectedPatchApplication original)
    original.lastOptionPatchApplication patchId
  if disposition ≠ .fresh then
    original.ignored disposition instant
  else
    rejectIf (original.pendingOptionPatch ≠ some patchId) .internalInvariant
    match original.pendingOptionPatchMode with
    | none | some .matchingHostKey => throw .internalInvariant
    | some mode =>
      let requirement := original.pendingCredentialRequirement
      rejectIf (requirement.isSome ∧ original.credentialKey ≠ requirement)
        .staleCredentialRequirement
      let draft := patchApplicationDraft original patchId error.isNone
      let conclude (action : SchedulerAction) (draft : Draft) : Planned :=
        draft.finish original action instant (publishesPatchApplication action) self.ids
      match mode, error, original.removePending with
      | .activeRestart, some error, false =>
        self.restartApplicationFailed original draft error instant
      | _, _, _ =>
        match ← draft.completePendingUserControl original with
        | (some action, draft) => return conclude action draft
        | (none, draft) =>
          let action ← patchApplicationAction mode requirement error.isNone
          original.staleIfRejectedEvent action instant do
            let state ← original.targetState action
            return conclude action (draft.setState state)

end

def expectedResolution (task : ScheduledTask) :
    Option HostKeyResolutionId × Option HostKeyChallengeId :=
  match task.pendingBarrier with
  | some (.hostKeyResolution generation resolutionId challenge) =>
    if generation = task.generation then (some resolutionId, some challenge)
    else (none, none)
  | _ => (none, none)

/-- The barrier of a resolution is lifted; a persisted one clears the challenge. -/
def hostKeyDraft (original : ScheduledTask) (resolutionId : HostKeyResolutionId)
    (succeeded : Bool) : Draft :=
  { original with
    pendingBarrier := none
    pendingOptionPatch := none
    pendingOptionPatchMode := none
    lastHostKeyResolution := some resolutionId
    hostKeyChallenge := if succeeded then none else original.hostKeyChallenge }.draft

section

variable (self : RequestScheduler) (original : ScheduledTask)

def hostKeyResolutionCompleted (resolutionId : HostKeyResolutionId) (succeeded : Bool)
    (instant : MonotonicInstant) : Except SchedulerError Planned := do
  let (expected, challenge) := expectedResolution original
  let disposition := tokenDisposition expected original.lastHostKeyResolution resolutionId
  if disposition ≠ .fresh then
    original.ignored disposition instant
  else
    rejectIf (original.hostKeyChallenge.map (fun value => value.summary.id) ≠ challenge)
      .internalInvariant
    rejectIf (original.pendingOptionPatch.isSome ∧
        original.pendingOptionPatchMode ≠ some .matchingHostKey)
      .internalInvariant
    let draft := hostKeyDraft original resolutionId succeeded
    match original.pendingUserControl with
    | some (.remove _) =>
      match ← draft.completePendingUserControl original with
      | (some action, draft) =>
        return draft.finish original action instant
          (succeeded && decide (action ≠ .deferredRemoveCompleted)) self.ids
      | (none, _) => throw .internalInvariant
    | _ =>
      let action :=
        if succeeded then forHostKeyResolution original.desiredPaused
        else hostKeyResolutionFailed
      original.staleIfRejectedEvent action instant do
        let state ← original.targetState action
        return (draft.setState state).finish original action instant
          (succeeded && decide (action ≠ .deferredRemoveCompleted)) self.ids

/-! ## Worker progress -/

/-- An event that only moves the task to the next working state. -/
def advanceWork (action : SchedulerAction) (kind : TaskEventKind) (instant : MonotonicInstant) :
    Except SchedulerError Planned :=
  original.staleIfRejectedEvent action instant do
    let state ← original.targetState action
    let updated := { original with state := state }.markNonTokenEvent kind
    return updated.draft.finish original action instant true self.ids

def allocationSucceeded (instant : MonotonicInstant) : Except SchedulerError Planned :=
  self.advanceWork original .allocationSucceeded .allocationSucceeded instant

def dataComplete (seed : Bool) (instant : MonotonicInstant) : Except SchedulerError Planned :=
  if seed then
    self.advanceWork original .bitTorrentPayloadComplete .bitTorrentPayloadComplete instant
  else
    self.advanceWork original .allRequiredDataReceived .dataComplete instant

/-- An idle worker waits for a retry timer, with or without its slot. -/
def enterRetryWait (action : SchedulerAction) (kind : TaskEventKind)
    (retryAt instant : MonotonicInstant) : Except SchedulerError Planned :=
  original.staleIfRejectedEvent action instant do
    let (retryTimerId, ids) ← self.ids.drawRetryTimer
    let state ← original.targetState action
    let draft := { original with
      state := state
      retryTimer := some (retryTimerId, retryAt)
      retryReady := false }.draft
    let draft :=
      if self.config.retryWaitHoldsSlot then
        { draft with task := { draft.task with slot := .retryRetained } }
      else
        draft.releaseSlot
    let draft := draft.push [.scheduleRetry original.taskId original.gid original.generation
      retryTimerId retryAt]
    return (draft.mark kind).finish original action instant true ids

def allocationRetryable (retryAt instant : MonotonicInstant) : Except SchedulerError Planned :=
  self.enterRetryWait original .allocationRetryableFailure .allocationRetryable retryAt instant

def activeRetryIdle (retryAt instant : MonotonicInstant) : Except SchedulerError Planned :=
  self.enterRetryWait original .leaseRetryableWithoutRunnableWork .activeRetryIdle retryAt
    instant

def allocationHostKeyChallenge (challenge : PresentedHostKeyChallenge) (active : Bool)
    (instant : MonotonicInstant) : Except SchedulerError Planned :=
  let action :=
    if active then activeHostKeyChallengeRequired
    else hostKeyChallengeRequired
  original.staleIfRejectedEvent action instant do
    let state ← original.targetState action
    let draft := { original with state := state, hostKeyChallenge := some challenge }.draft
    let draft := draft.push
      [.persistHostKeyChallenge original.taskId original.gid challenge]
    let draft := draft.releaseSlot
    let kind :=
      if active then TaskEventKind.activeHostKeyChallenge
      else TaskEventKind.allocationHostKeyChallenge
    return (draft.mark kind).finish original action instant true self.ids

def endWork (action : SchedulerAction) (kind : TaskEventKind) (status : Aria2Status)
    (error : Option PublicError) (instant : MonotonicInstant) : Except SchedulerError Planned :=
  original.staleIfRejectedEvent action instant do
    let state ← original.targetState action
    let draft := { original with state := state }.draft.releaseSlot
    let draft ← draft.beginTerminal status error
    return (draft.mark kind).finish original action instant false self.ids

def allocationFailed (error : PublicError) (instant : MonotonicInstant) :
    Except SchedulerError Planned :=
  self.endWork original .allocationTerminalFailure .allocationFailed .error (some error) instant

def verificationSucceeded (instant : MonotonicInstant) : Except SchedulerError Planned :=
  self.endWork original .verificationSucceeded .verificationSucceeded .complete none instant

def verificationFailed (error : PublicError) (instant : MonotonicInstant) :
    Except SchedulerError Planned :=
  self.endWork original .verificationTerminalFailure .verificationFailed .error (some error)
    instant

def seedingComplete (instant : MonotonicInstant) : Except SchedulerError Planned :=
  self.endWork original .seedingStopped .seedingComplete .complete none instant

def seedingFailed (error : PublicError) (instant : MonotonicInstant) :
    Except SchedulerError Planned :=
  self.endWork original .bitTorrentFailure .seedingFailed .error (some error) instant

def verificationRecoverable (instant : MonotonicInstant) : Except SchedulerError Planned :=
  let action := verificationRecoverableFailure
  original.staleIfRejectedEvent action instant do
    let state ← original.targetState action
    let draft := { original with state := state }.draft.releaseSlot
    return (draft.mark .verificationRecoverable).finish original action instant true self.ids

def activeRepresentationRestart (instant : MonotonicInstant) : Except SchedulerError Planned :=
  let action := representationRestart
  original.staleIfRejectedEvent action instant do
    let draft ← self.planAdmission original.draft action
    return (draft.mark .activeRepresentationRestart).finish original action instant true
      self.ids

/-! ## Readmission timers -/

def retryReady (retryTimerId : RetryTimerId) (instant : MonotonicInstant) :
    Except SchedulerError Planned :=
  let disposition := tokenDisposition (original.retryTimer.map Prod.fst)
    original.lastRetryTimer retryTimerId
  if disposition ≠ .fresh then
    original.ignored disposition instant
  else
    let canAdmit := original.slot.ownsSlot ||
      decide (self.activeSlotCount < self.config.maxActiveTasks)
    let updated := { original with
      retryTimer := none
      lastRetryTimer := some retryTimerId
      retryReady := true }
    if canAdmit && !original.desiredPaused && !original.conditions.blocksAdmission then
      let action := retryReadmissionSucceeded
      original.staleIfRejectedEvent action instant do
        let draft ← self.planAdmission updated.draft action
        return draft.finish original action instant true self.ids
    else
      let action := retryReadmissionBlocked
      original.staleIfRejectedEvent action instant do
        return updated.draft.finish original action instant true self.ids

end

variable (self : RequestScheduler)

def waitingCandidate : Bool :=
  (self.queues.get .waiting).any fun gid =>
    match self.tasks[gid]? with
    | none => false
    | some task =>
      !task.desiredPaused && task.pendingBarrier.isNone &&
        !task.conditions.blocksAdmission &&
        (decide (task.state = .waiting) || (decide (task.state = .retryWait) && task.retryReady))

/-- Whether the policy lets waiting tasks go before a ready slow one. -/
def yieldsToWaiting (task : ScheduledTask) : Bool :=
  match self.config.slowReadmissionPolicy with
  | .front => false
  | .originalPosition => decide (task.slowRemainingPosition ≠ 0)
  | .back => true

def readmitSlow (original : ScheduledTask) (readmissionId : SlowReadmissionId)
    (instant : MonotonicInstant) : Except SchedulerError Planned :=
  let disposition := tokenDisposition (original.slowReadmission.map Prod.fst)
    original.lastSlowReadmission readmissionId
  if disposition ≠ .fresh then
    original.ignored disposition instant
  else
    let waitingFirst := self.waitingCandidate && self.yieldsToWaiting original
    let canAdmit := !waitingFirst &&
      decide (self.activeSlotCount < self.config.maxActiveTasks) &&
      !original.desiredPaused && !original.conditions.blocksAdmission
    let updated := { original with
      slowReadmission := none
      lastSlowReadmission := some readmissionId
      slowReadmissionReady := true }
    if canAdmit then
      let action := slowReadmissionSucceeded
      original.staleIfRejectedEvent action instant do
        let draft ← self.planAdmission updated.draft action
        return draft.finish original action instant true self.ids
    else
      let action := slowReadmissionBlocked
      original.staleIfRejectedEvent action instant do
        return updated.draft.finish original action instant true self.ids

end RequestScheduler

end Ariax
