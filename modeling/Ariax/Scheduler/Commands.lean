import Ariax.Scheduler.Draft

/-!
# Command handlers

One handler per scheduler command (`scheduler.rs`). Each reads the
scheduler and returns the arguments of its tail call, or rejects the
command; none of them writes.

A task is stored under its own GID, so where the source writes the GID it
looked the task up by, the shared steps below read the one in the record.
-/

namespace Ariax

namespace ScheduledTask

variable (task : ScheduledTask)

/-- Whether a live worker has to be drained before the task may stop. -/
def needsDrain : Bool :=
  match task.state with
  | .allocating | .active | .pausedRestarting | .verifying | .seeding => true
  | _ =>
    match task.pendingBarrier with
    | some (.cancellationDrain ..) => true
    | _ => false

/-- The barrier behind which user controls wait, if there is one. -/
def deferringBarrier : Option PendingBarrier :=
  task.pendingBarrier.filter PendingBarrier.defersUserControl

def pausePending : Bool :=
  match task.pendingUserControl with
  | some (.pause _) => true
  | _ => false

def removePending : Bool :=
  match task.pendingUserControl with
  | some (.remove _) => true
  | _ => false

/-- The slow states, whose demotion count a resume forgets. -/
def isSlow : Bool :=
  match task.state with
  | .waitingSlow | .pausedSlow => true
  | _ => false

def credentialKey : Option CredentialRequirementKey :=
  task.conditions.needsCredentials.map CredentialRequirement.key

/-- A patch that satisfies credentials names the blocker of its task, and pins no key. -/
def rejectUnboundCredentials (kind : ValidatedOptionPatchKind)
    (satisfiesCredentials : Option CredentialRequirementKey) : Except SchedulerError Unit :=
  match satisfiesCredentials with
  | none => .ok ()
  | some expected =>
    if task.credentialKey ≠ some expected then
      .error .staleCredentialRequirement
    else
      match kind with
      | .matchingHostKey .. =>
        .error (.conflict task.state "credential_satisfying_host_key_patch")
      | _ => .ok ()

end ScheduledTask

namespace PendingBarrier

def isHostKeyResolution : PendingBarrier → Bool
  | hostKeyResolution .. => true
  | _ => false

end PendingBarrier

namespace RequestScheduler

def usizeMax : ℕ := 2 ^ 64 - 1

section

variable (self : RequestScheduler)

def addValidatedTask (taskId : TaskId) (gid : Gid) (desiredPaused : Bool)
    (conditions : TaskConditions) (position : Option ℕ) (instant : MonotonicInstant) :
    Except SchedulerError Planned := do
  conditions.validate.mapError fun _ => .invalidTaskConditions
  rejectIf (self.config.maxTasks ≤ self.tasks.size) .taskLimitReached
  rejectIf (self.tasks.contains gid) .gidCollision
  rejectIf (self.taskIds.contains taskId) .taskIdCollision
  rejectIf (self.highestTaskId.any (fun highest => taskId ≤ highest)) .taskIdCollision
  let original := ScheduledTask.new taskId gid desiredPaused conditions
  let action := SchedulerAction.forValidatedAdd desiredPaused
  let state ← original.targetState action
  let updated := { original with state := state }
  match updated.queueClass with
  | none => throw .internalInvariant
  | some queue =>
    return .finish {
      original
      updated := some updated
      originalPresent := false
      action
      instant
      effects := [.persistTask taskId gid queue
        (min (position.getD usizeMax) (self.queues.get queue).length) desiredPaused 0
        conditions]
      publish := true
      ids := self.ids }

/-! ## Pause and resume -/

def pauseDeferred (original : ScheduledTask) (barrier : PendingBarrier) (force : Bool)
    (instant : MonotonicInstant) : Except SchedulerError Planned :=
  match original.pendingUserControl with
  | some (.remove _) => .error (.pendingBarrier barrier "pause_after_remove")
  | control =>
    let draft := { original with desiredPaused := true }.draft.cancelTimers
    let force := force || decide (control = some (.pause true))
    let control := if barrier.isHostKeyResolution then control else some (.pause force)
    .ok ((draft.setControl control).finish original .pauseDeferred instant true self.ids)

def pause (gid : Gid) (force : Bool) (instant : MonotonicInstant) :
    Except SchedulerError Planned := do
  let original ← self.taskClone gid
  if let some barrier := original.deferringBarrier then
    self.pauseDeferred original barrier force instant
  else
    let action := SchedulerAction.pause
    if (transitionContract original.state action).kind = .noOp then
      return .reply .noop
    let target ← original.targetState action
    let draft := { original with desiredPaused := true }.draft.cancelTimers
    let draft ←
      if original.needsDrain then
        draft.beginCancellation .paused force "pause"
      else if original.state = .retryWait then
        pure draft.releaseSlot
      else
        match original.pendingBarrier with
        | some barrier =>
          -- a host-key resolution defers the pause, so its exemption never applies here
          if original.state = .pausedHostKey ∧ barrier.isHostKeyResolution then
            pure draft
          else
            throw (.pendingBarrier barrier "pause")
        | none => pure draft
    return (draft.setState target).finish original action instant true self.ids

def resumeDeferred (original : ScheduledTask) (barrier : PendingBarrier)
    (instant : MonotonicInstant) : Except SchedulerError Planned :=
  match original.pendingUserControl with
  | some (.remove _) => .error (.pendingBarrier barrier "resume_after_remove")
  | _ =>
    if !original.desiredPaused && !original.pausePending then
      .ok (.reply .noop)
    else
      let draft := { original with
        desiredPaused := false
        slowDemotionCount := if original.isSlow then 0 else original.slowDemotionCount }.draft
      let draft := draft.cancelSlowReadmission
      let control : Option PendingUserControl :=
        if barrier.isHostKeyResolution then none
        else if original.state = .paused ∨ original.state = .pausedSlow then some .resume
        else none
      .ok ((draft.setControl control).finish original .resumeDeferred instant true self.ids)

def resumeWithProbe (original : ScheduledTask) (target : TaskState) (instant : MonotonicInstant) :
    Except SchedulerError Planned :=
  if original.noSpaceProbe.isSome && !original.desiredPaused && !original.isSlow then
    .ok (.reply .noop)
  else do
    let draft := { original with desiredPaused := false, state := target }.draft
    let draft :=
      if original.isSlow then
        let draft := draft.cancelSlowReadmission
        { draft with
          task := { draft.task with slowDemotionCount := 0, pendingSlowReadmission := none } }
      else
        draft
    let (draft, ids) ← draft.scheduleNoSpaceProbe .explicitResume instant self.ids
    return draft.finish original .explicitNoSpaceProbeRequested instant true ids

def resume (gid : Gid) (instant : MonotonicInstant) : Except SchedulerError Planned := do
  let original ← self.taskClone gid
  rejectIf original.pendingSourceReplacement
    (.conflict original.state "source_replacement_pending")
  if let some barrier := original.deferringBarrier then
    self.resumeDeferred original barrier instant
  else
    original.rejectPending "resume"
    let action := SchedulerAction.forResume original.state original.conditions.snapshot
    if (transitionContract original.state action).kind = .noOp then
      return .reply .noop
    let target ← original.targetState action
    if action = .explicitNoSpaceProbeRequested then
      self.resumeWithProbe original target instant
    else
      let draft := { original with
        desiredPaused := false
        slowDemotionCount := if original.isSlow then 0 else original.slowDemotionCount
        state := target }.draft
      return draft.cancelSlowReadmission.finish original action instant true self.ids

/-! ## Host keys, source replacement and option patches -/

def approveHostKey (gid : Gid) (challenge : HostKeyChallengeId)
    (fingerprintSha256 : HostKeyFingerprint) (instant : MonotonicInstant) :
    Except SchedulerError Planned := do
  let original ← self.taskClone gid
  original.rejectPending "approve_host_key"
  match original.hostKeyChallenge with
  | none => throw .staleChallenge
  | some presented =>
    rejectIf (presented.summary.id ≠ challenge ∨
        presented.summary.fingerprintSha256 ≠ fingerprintSha256)
      .staleChallenge
    let action := SchedulerAction.approveHostKey
    let target ← original.targetState action
    let (resolutionId, ids) ← self.ids.drawHostKeyResolution
    let draft := { original with
      state := target
      pendingBarrier := some
        (.hostKeyResolution original.generation resolutionId challenge) }.draft
    let draft := draft.push [.persistHostKeyPinAndClearChallenge original.taskId gid
      resolutionId challenge fingerprintSha256 presented.presentedPublicKey none]
    return draft.finish original action instant false ids

def beginSourceReplacement (gid : Gid) (instant : MonotonicInstant) :
    Except SchedulerError Planned := do
  let original ← self.taskClone gid
  original.rejectPending "begin_source_replacement"
  rejectIf (original.pendingSourceReplacement || original.pendingOptionPatch.isSome)
    (.conflict original.state "source_replacement_pending")
  let action := SchedulerAction.sourceReplacementRequested
  let target ← original.targetState action
  let draft := { original with
    state := target, pendingSourceReplacement := true }.draft.cancelTimers
  let draft ←
    if draft.task.slot.ownsSlot then
      draft.beginCancellation .pausedRestarting false "source_replacement"
    else
      pure draft
  return draft.finish original action instant true self.ids

end

def sourceSatisfies (key : CredentialRequirementKey) : Bool :=
  match key.kind with
  | .sourceUri | .httpAuthentication => true
  | _ => false

def commitSourceReplacement (self : RequestScheduler) (gid : Gid)
    (satisfiesCredentials : Option CredentialRequirementKey) (instant : MonotonicInstant) :
    Except SchedulerError Planned := do
  let original ← self.taskClone gid
  original.rejectPending "commit_source_replacement"
  rejectIf (satisfiesCredentials.any (fun key => !sourceSatisfies key) ∨
      (satisfiesCredentials.isSome ∧ original.credentialKey ≠ satisfiesCredentials))
    .staleCredentialRequirement
  rejectIf (!original.pendingSourceReplacement || original.slot.ownsSlot)
    (.conflict original.state "source_replacement_not_quiesced")
  let action := SchedulerAction.sourceReplacementCommitted
  let target ← original.targetState action
  let updated := { original with
    state := target
    pendingSourceReplacement := false
    conditions :=
      if satisfiesCredentials.isSome then
        { original.conditions with needsCredentials := none }
      else
        original.conditions }
  match original.queueClass with
  | none => throw .internalInvariant
  | some queue =>
    rejectIf (updated.queueClass ≠ some queue) .internalInvariant
    let draft := updated.draft.push [.persistQueueTransition original.taskId gid
      (some queue) (some queue) updated.desiredPaused updated.slowDemotionCount
      updated.slowSlot [⟨queue, self.queues.get queue⟩]]
    return draft.finish original action instant true self.ids

def optionPatchAction (original : ScheduledTask) (kind : ValidatedOptionPatchKind) :
    Except SchedulerError SchedulerAction :=
  match kind with
  | .inPlace => .ok .inPlaceOptionPatchAccepted
  | .activeRestart =>
    match original.state with
    | .allocating | .active | .verifying => .ok .activeRestartOptionPatchAccepted
    | _ => .ok .inPlaceOptionPatchAccepted
  | .matchingHostKey challenge fingerprintSha256 =>
    match original.hostKeyChallenge with
    | none => .error .staleChallenge
    | some presented =>
      if presented.summary.id ≠ challenge ∨
          presented.summary.fingerprintSha256 ≠ fingerprintSha256 then
        .error .staleChallenge
      else
        .ok .applyMatchingHostKeyOption

section

variable (draft : Draft) (patchId : OptionPatchId)
  (satisfiesCredentials : Option CredentialRequirementKey)

def acceptInPlacePatch : Draft where
  task := { draft.task with
    pendingOptionPatch := some patchId
    pendingOptionPatchMode := some .inPlace
    pendingCredentialRequirement := satisfiesCredentials
    pendingBarrier := some (.optionPatchApplication draft.task.generation patchId) }
  effects := draft.effects ++
    [.applyOptionPatch draft.task.taskId draft.task.gid patchId satisfiesCredentials]

def acceptRestartPatch : Draft where
  task := { draft.task with
    pendingOptionPatch := some patchId
    pendingOptionPatchMode := some .activeRestart
    pendingCredentialRequirement := satisfiesCredentials
    pendingBarrier := some (.optionPatchPersistence draft.task.generation patchId) }
  effects := draft.effects ++
    [.stageOptionPatch draft.task.taskId draft.task.gid patchId satisfiesCredentials]

end

def acceptHostKeyPatch (draft : Draft) (patchId : OptionPatchId)
    (challenge : HostKeyChallengeId) (fingerprintSha256 : HostKeyFingerprint)
    (resolutionId : HostKeyResolutionId) (presented : PresentedHostKeyChallenge) : Draft where
  task := { draft.task with
    pendingOptionPatch := some patchId
    pendingOptionPatchMode := some .matchingHostKey
    pendingBarrier := some
      (.hostKeyResolution draft.task.generation resolutionId challenge) }
  effects := draft.effects ++
    [.persistHostKeyPinAndClearChallenge draft.task.taskId draft.task.gid resolutionId
      challenge fingerprintSha256 presented.presentedPublicKey (some patchId)]

variable (self : RequestScheduler)

def applyOptionPatch (gid : Gid) (patchId : OptionPatchId) (kind : ValidatedOptionPatchKind)
    (satisfiesCredentials : Option CredentialRequirementKey) (instant : MonotonicInstant) :
    Except SchedulerError Planned := do
  let original ← self.taskClone gid
  original.rejectPending "apply_option_patch"
  rejectIf original.pendingSourceReplacement
    (.conflict original.state "source_replacement_pending")
  rejectIf (original.highestOptionPatchId.any (fun highest => patchId ≤ highest))
    .optionPatchIdCollision
  original.rejectUnboundCredentials kind satisfiesCredentials
  let action ← optionPatchAction original kind
  let target ← original.targetState action
  let draft := { original with
    state := target, highestOptionPatchId := some patchId }.draft
  match kind with
  | .inPlace =>
    return (acceptInPlacePatch draft patchId satisfiesCredentials).finish original action
      instant false self.ids
  | .activeRestart =>
    if action = .inPlaceOptionPatchAccepted then
      return (acceptInPlacePatch draft patchId satisfiesCredentials).finish original action
        instant false self.ids
    else
      return (acceptRestartPatch draft patchId satisfiesCredentials).finish original action
        instant false self.ids
  | .matchingHostKey challenge fingerprintSha256 =>
    match original.hostKeyChallenge with
    | none => throw .staleChallenge
    | some presented =>
      let (resolutionId, ids) ← self.ids.drawHostKeyResolution
      return (acceptHostKeyPatch draft patchId challenge fingerprintSha256 resolutionId
        presented).finish original action instant false ids

/-! ## Removal -/

def removeDeferred (original : ScheduledTask) (force : Bool) (instant : MonotonicInstant) :
    Planned :=
  let draft := original.draft.cancelTimers.dropProbe
  let force := force || decide (original.pendingUserControl = some (.remove true))
  (draft.setControl (some (.remove force))).finish original .removeDeferred instant false self.ids

def remove (gid : Gid) (force : Bool) (instant : MonotonicInstant) :
    Except SchedulerError Planned := do
  let original ← self.taskClone gid
  if original.deferringBarrier.isSome then
    return self.removeDeferred original force instant
  let action := SchedulerAction.remove
  if (transitionContract original.state action).kind = .noOp then
    return .reply .noop
  let target ← original.targetState action
  let draft := original.draft.discard target
  let draft ←
    if original.needsDrain then
      draft.beginCancellation .removed force "remove"
    else
      match original.pendingBarrier with
      | some barrier => throw (.pendingBarrier barrier "remove")
      | none => draft.releaseSlot.beginTerminal .removed none
  return draft.finish original action instant false self.ids

def removeStoppedResult (gid : Gid) (instant : MonotonicInstant) :
    Except SchedulerError Planned := do
  let original ← self.taskClone gid
  original.rejectPending "remove_stopped_result"
  self.rejectPendingDeletion "remove_stopped_result"
  let action := SchedulerAction.removeStoppedResult
  let target ← original.targetState action
  let (deletionId, ids) ← self.ids.drawStoppedDeletion
  let updated := { original with
    state := target
    pendingBarrier := some (.stoppedResultDeletion original.generation deletionId) }
  let stopped := self.queues.get .stopped
  match stopped.idxOf? gid with
  | none => throw .internalInvariant
  | some position =>
    let draft := updated.draft.push [.deleteStoppedTaskMetadata original.taskId gid
      deletionId (stopped.eraseIdx position)]
    return draft.finish original action instant false ids

end RequestScheduler

end Ariax
