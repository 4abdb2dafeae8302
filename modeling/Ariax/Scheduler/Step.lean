import Ariax.Scheduler.Rules

/-!
# What a handler may plan for a task

`TaskStep` lists every call of `finish_action` that a handler can make for a
task that stays in the scheduler: what caused it, the state it was made in,
the edited task with its effects, and whether a snapshot is published. The
handlers are taken apart once, in `Scheduler.CommandPlans` and
`Scheduler.EventPlans`; every property of the scheduler is then a case
analysis over these rules.
-/

namespace Ariax

open RequestScheduler (patchPersistenceDraft patchApplicationDraft hostKeyDraft acceptInPlacePatch
  acceptRestartPatch acceptHostKeyPatch patchApplicationAction publishesPatchApplication)

inductive StepCause where
  | command (command : SchedulerCommand)
  | admission
  | event (body : TaskEventBody)

/-- A call of `finish_action` planned for the task stored under a GID, by
its cause: the action, the draft, whether a snapshot is published, and the
counters after the call. -/
inductive TaskStep (self : RequestScheduler) (gid : Gid) (t : ScheduledTask) :
    StepCause → SchedulerAction → Draft → Bool → IdCounters → Prop
  -- pause
  | pauseDeferred {barrier : PendingBarrier} {force : Bool}
      (deferring : t.deferringBarrier = some barrier)
      (kept : ∀ f, t.pendingUserControl ≠ some (.remove f)) :
      TaskStep self gid t (.command (.pause gid force)) .pauseDeferred
        ({ t with desiredPaused := true }.draft.cancelTimers.setControl
          (if barrier.isHostKeyResolution then t.pendingUserControl
          else some (.pause
            (force || decide (t.pendingUserControl = some (PendingUserControl.pause true))))))
        true self.ids
  | pauseDraining {force f : Bool} {effects : List TransitionEffect}
      (direct : t.deferringBarrier = none) (live : t.state.isTerminal = false)
      (drains : t.needsDrain = true) (cancels : t.draft.Cancels force f effects) :
      TaskStep self gid t (.command (.pause gid force)) .pause
        (({ t with desiredPaused := true }.draft.cancelTimers.awaitDrain .paused f effects).setState
          t.state.afterPause) true self.ids
  | pauseRetry {force : Bool} (direct : t.deferringBarrier = none)
      (drained : t.needsDrain = false) (state : t.state = .retryWait) :
      TaskStep self gid t (.command (.pause gid force)) .pause
        ({ t with desiredPaused := true }.draft.cancelTimers.releaseSlot.setState .paused)
        true self.ids
  | pauseIdle {force : Bool} (idle : t.pendingBarrier = none)
      (drained : t.needsDrain = false) (live : t.state.isTerminal = false)
      (state : t.state ≠ .retryWait) :
      TaskStep self gid t (.command (.pause gid force)) .pause
        ({ t with desiredPaused := true }.draft.cancelTimers.setState t.state.afterPause)
        true self.ids
  -- resume
  | resumeDeferred {barrier : PendingBarrier}
      (deferring : t.deferringBarrier = some barrier)
      (source : t.pendingSourceReplacement = false)
      (kept : ∀ f, t.pendingUserControl ≠ some (.remove f))
      (paused : t.desiredPaused = true ∨ ∃ f, t.pendingUserControl = some (.pause f)) :
      TaskStep self gid t (.command (.resume gid)) .resumeDeferred
        ({ t with
          desiredPaused := false
          slowDemotionCount := if t.isSlow then 0 else t.slowDemotionCount
          }.draft.cancelSlowReadmission.setControl
          (if barrier.isHostKeyResolution then none
          else if t.state = TaskState.paused ∨ t.state = TaskState.pausedSlow then some .resume
          else none)) true self.ids
  | resumeProbing {instant : MonotonicInstant} {draft : Draft} {ids : IdCounters}
      (idle : t.pendingBarrier = none) (source : t.pendingSourceReplacement = false)
      (blocked : t.conditions.noSpace.isSome = true) (retains : t.state.retainsConditions = true)
      (probes : Draft.Probes
        (if t.isSlow then
          ⟨{ t with
            desiredPaused := false
            state := t.state.afterProbeRequest
            slowReadmission := none
            slowReadmissionReady := false
            slowSlot := none
            slowDemotionCount := 0
            pendingSlowReadmission := none }, t.cancelSlowReadmissionEffects⟩
        else
          ⟨{ t with desiredPaused := false, state := t.state.afterProbeRequest }, []⟩)
        .explicitResume instant self.ids draft ids) :
      TaskStep self gid t (.command (.resume gid)) .explicitNoSpaceProbeRequested draft true ids
  | resume (idle : t.pendingBarrier = none) (source : t.pendingSourceReplacement = false)
      (ready : t.conditions.noSpace = none)
      (state : t.state = .waitingSlow ∨ t.state = .paused ∨ t.state = .pausedSlow) :
      TaskStep self gid t (.command (.resume gid)) .resume
        { t with
          desiredPaused := false
          slowDemotionCount := if t.isSlow then 0 else t.slowDemotionCount
          state := .waiting }.draft.cancelSlowReadmission true self.ids
  -- host keys, source replacement and option patches
  | approveHostKey {challenge : HostKeyChallengeId} {fingerprint : HostKeyFingerprint}
      {presented : PresentedHostKeyChallenge} {resolutionId : HostKeyResolutionId}
      {ids : IdCounters} (idle : t.pendingBarrier = none) (state : t.state = .pausedHostKey)
      (shown : t.hostKeyChallenge = some presented) (same : presented.summary.id = challenge)
      (draw : self.ids.drawHostKeyResolution = .ok (resolutionId, ids)) :
      TaskStep self gid t (.command (.approveHostKey gid challenge fingerprint)) .approveHostKey
        ⟨{ t with
            state := .pausedHostKey
            pendingBarrier := some (.hostKeyResolution t.generation resolutionId challenge) },
          [.persistHostKeyPinAndClearChallenge t.taskId gid resolutionId challenge fingerprint
            presented.presentedPublicKey none]⟩ false ids
  | sourceDraining (idle : t.pendingBarrier = none)
      (fresh : t.pendingSourceReplacement = false) (unpatched : t.pendingOptionPatch = none)
      (state : t.state.restartable = true ∨ t.state = .retryWait ∨ t.state = .waiting ∨
        t.state = .paused) (slot : t.slot ≠ .none) :
      TaskStep self gid t (.command (.beginSourceReplacement gid)) .sourceReplacementRequested
        ({ t with
          state := t.state.afterSourceRequest
          pendingSourceReplacement := true }.draft.cancelTimers.awaitDrain .pausedRestarting false
            [.cancelGeneration t.taskId t.gid t.generation false]) true self.ids
  | sourceIdle (idle : t.pendingBarrier = none)
      (fresh : t.pendingSourceReplacement = false) (unpatched : t.pendingOptionPatch = none)
      (state : t.state.restartable = true ∨ t.state = .retryWait ∨ t.state = .waiting ∨
        t.state = .paused) (slot : t.slot = .none) :
      TaskStep self gid t (.command (.beginSourceReplacement gid)) .sourceReplacementRequested
        { t with
          state := t.state.afterSourceRequest
          pendingSourceReplacement := true }.draft.cancelTimers true self.ids
  | sourceCommitted {satisfies : Option CredentialRequirementKey} {state : TaskState}
      {conditions : TaskConditions} {queue : QueueClass} (idle : t.pendingBarrier = none)
      (pending : t.pendingSourceReplacement = true) (slot : t.slot = .none)
      (target : (t.state = .pausedRestarting ∧ state = .waiting) ∨
        (t.state = .waiting ∧ state = .waiting) ∨ (t.state = .paused ∧ state = .paused))
      (cleared : conditions = if satisfies.isSome then
        { t.conditions with needsCredentials := none } else t.conditions)
      (queued : t.queueClass = some queue) :
      TaskStep self gid t (.command (.commitSourceReplacement gid satisfies))
        .sourceReplacementCommitted
        ⟨{ t with
            state := state, pendingSourceReplacement := false, conditions := conditions },
          [.persistQueueTransition t.taskId gid (some queue) (some queue) t.desiredPaused
            t.slowDemotionCount t.slowSlot [⟨queue, self.queues.get queue⟩]]⟩ true self.ids
  | patchInPlace {patchId : OptionPatchId} {kind : ValidatedOptionPatchKind}
      {satisfies : Option CredentialRequirementKey} (idle : t.pendingBarrier = none)
      (source : t.pendingSourceReplacement = false)
      (bound : ∀ key, satisfies = some key → t.credentialKey = some key)
      (live : t.state.isTerminal = false) (validated : t.state ≠ .accepted)
      (staged : kind = .inPlace ∨ (kind = .activeRestart ∧ t.state.restartable = false)) :
      TaskStep self gid t (.command (.applyOptionPatch gid patchId kind satisfies))
        .inPlaceOptionPatchAccepted
        (acceptInPlacePatch
          { t with highestOptionPatchId := some patchId }.draft patchId satisfies) false self.ids
  | patchRestart {patchId : OptionPatchId} {satisfies : Option CredentialRequirementKey}
      (idle : t.pendingBarrier = none) (source : t.pendingSourceReplacement = false)
      (bound : ∀ key, satisfies = some key → t.credentialKey = some key)
      (state : t.state.restartable = true) :
      TaskStep self gid t (.command (.applyOptionPatch gid patchId .activeRestart satisfies))
        .activeRestartOptionPatchAccepted
        (acceptRestartPatch
          { t with highestOptionPatchId := some patchId }.draft patchId satisfies) false self.ids
  | patchHostKey {patchId : OptionPatchId} {challenge : HostKeyChallengeId}
      {fingerprint : HostKeyFingerprint} {presented : PresentedHostKeyChallenge}
      {resolutionId : HostKeyResolutionId} {ids : IdCounters}
      (idle : t.pendingBarrier = none) (source : t.pendingSourceReplacement = false)
      (state : t.state = .pausedHostKey) (shown : t.hostKeyChallenge = some presented)
      (same : presented.summary.id = challenge)
      (draw : self.ids.drawHostKeyResolution = .ok (resolutionId, ids)) :
      TaskStep self gid t
        (.command (.applyOptionPatch gid patchId (.matchingHostKey challenge fingerprint) none))
        .applyMatchingHostKeyOption
        (acceptHostKeyPatch
          { t with state := .pausedHostKey, highestOptionPatchId := some patchId }.draft patchId
          challenge fingerprint resolutionId presented) false ids
  -- removal
  | removeDeferred {force : Bool} (deferring : t.deferringBarrier.isSome = true) :
      TaskStep self gid t (.command (.remove gid force)) .removeDeferred
        (t.draft.cancelTimers.dropProbe.setControl (some (.remove
          (force || decide (t.pendingUserControl = some (PendingUserControl.remove true))))))
        false self.ids
  | removeDraining {force f : Bool} {effects : List TransitionEffect}
      (direct : t.deferringBarrier = none) (live : t.state.isTerminal = false)
      (drains : t.needsDrain = true) (cancels : t.draft.Cancels force f effects) :
      TaskStep self gid t (.command (.remove gid force)) .remove
        ((t.draft.discard .removed).awaitDrain .removed f effects) false self.ids
  | removeIdle {force : Bool} (idle : t.pendingBarrier = none)
      (live : t.state.isTerminal = false) (drained : t.needsDrain = false) :
      TaskStep self gid t (.command (.remove gid force)) .remove
        ((t.draft.discard .removed).releaseSlot.awaitTerminal .removed none) false self.ids
  | removeStopped {deletionId : StoppedResultDeletionId} {ids : IdCounters} {position : ℕ}
      (idle : t.pendingBarrier = none) (alone : self.pendingStoppedDeletion = none)
      (state : t.state = .stoppedResult)
      (draw : self.ids.drawStoppedDeletion = .ok (deletionId, ids))
      (found : (self.queues.get .stopped).idxOf? gid = some position) :
      TaskStep self gid t (.command (.removeStoppedResult gid)) .removeStoppedResult
        ⟨{ t with
            state := .stoppedResult
            pendingBarrier := some (.stoppedResultDeletion t.generation deletionId) },
          [.deleteStoppedTaskMetadata t.taskId gid deletionId
            ((self.queues.get .stopped).eraseIdx position)]⟩ false ids
  -- the admission scan
  | applyRestartPatch {patchId : OptionPatchId} (idle : t.pendingBarrier = none)
      (state : t.state = .waiting) (mode : t.pendingOptionPatchMode = some .activeRestart)
      (staged : t.pendingOptionPatch = some patchId) :
      TaskStep self gid t .admission .restartApplicationScheduled
        ⟨{ t with pendingBarrier := some (.optionPatchApplication t.generation patchId) },
          [.applyOptionPatch t.taskId t.gid patchId t.pendingCredentialRequirement]⟩
        false self.ids
  | admitted {source : TaskState} {action : SchedulerAction} {entered : ScheduledTask}
      (state : t.state = source) (row : AdmissionRow source action)
      (unstaged : ¬(t.state = .waiting ∧ t.pendingOptionPatchMode = some .activeRestart))
      (admits : Admits self t entered) (due : t.Due) :
      TaskStep self gid t .admission action (admissionDraft entered) true self.ids
  -- acknowledgements of barriers
  | generationPersisted (barrier : t.pendingBarrier = some (.generationPersistence t.generation))
      (state : t.state = .allocating) :
      TaskStep self gid t (.event .generationPersisted) .generationPersistenceSucceeded
        ⟨{ t with pendingBarrier := none, slot := .active }.markNonTokenEvent
            .generationPersisted,
          [.startAllocation t.taskId t.gid t.generation]⟩ true self.ids
  | patchPersistedControl {patchId : OptionPatchId} {body : TaskEventBody} {succeeded : Bool}
      {action : SchedulerAction} {draft : Draft}
      (barrier : t.pendingBarrier = some (.optionPatchPersistence t.generation patchId))
      (row : PatchPersistenceRow patchId body succeeded)
      (controls : (patchPersistenceDraft t patchId succeeded).Controls t action draft) :
      TaskStep self gid t (.event body) action draft
        (decide (action ≠ .deferredRemoveCompleted)) self.ids
  | patchPersisted {patchId : OptionPatchId}
      (barrier : t.pendingBarrier = some (.optionPatchPersistence t.generation patchId))
      (uncontrolled : t.pendingUserControl = none) (state : t.state.restartable = true) :
      TaskStep self gid t (.event (.optionPatchPersisted patchId))
        .activeRestartOptionPatchPersisted
        (((patchPersistenceDraft t patchId true).setState .pausedRestarting).awaitDrain
          .pausedRestarting false [.cancelGeneration t.taskId t.gid t.generation false])
        true self.ids
  | patchPersistenceFailed {patchId : OptionPatchId}
      (barrier : t.pendingBarrier = some (.optionPatchPersistence t.generation patchId))
      (uncontrolled : t.pendingUserControl = none) (state : t.state.restartable = true) :
      TaskStep self gid t (.event (.optionPatchPersistenceFailed patchId))
        .activeRestartOptionPatchPersistenceFailed (patchPersistenceDraft t patchId false)
        false self.ids
  | patchAppliedControl {patchId : OptionPatchId} {body : TaskEventBody}
      {error : Option PublicError} {action : SchedulerAction} {draft : Draft}
      (barrier : t.pendingBarrier = some (.optionPatchApplication t.generation patchId))
      (row : PatchApplicationRow patchId body error)
      (controls : (patchApplicationDraft t patchId error.isNone).Controls t
        action draft) :
      TaskStep self gid t (.event body) action draft
        (decide (action ≠ .deferredRemoveCompleted)) self.ids
  | restartApplied {patchId : OptionPatchId}
      (barrier : t.pendingBarrier = some (.optionPatchApplication t.generation patchId))
      (mode : t.pendingOptionPatchMode = some .activeRestart)
      (uncontrolled : t.pendingUserControl = none)
      (state : t.state = .pausedRestarting ∨ t.state = .waiting) :
      TaskStep self gid t (.event (.optionPatchApplied patchId)) .restartApplicationSucceeded
        ((patchApplicationDraft t patchId true).setState .waiting)
        true self.ids
  | restartFailed {patchId : OptionPatchId} {error : PublicError}
      (barrier : t.pendingBarrier = some (.optionPatchApplication t.generation patchId))
      (mode : t.pendingOptionPatchMode = some .activeRestart)
      (state : t.state = .pausedRestarting ∨ t.state = .waiting) :
      TaskStep self gid t (.event (.optionPatchApplicationFailed patchId error))
        .restartApplicationFailed
        ((((patchApplicationDraft t patchId false).setControl none).setState
          .error).awaitTerminal .error (some error)) false self.ids
  | patchApplied {patchId : OptionPatchId} {body : TaskEventBody} {error : Option PublicError}
      {action : SchedulerAction}
      (barrier : t.pendingBarrier = some (.optionPatchApplication t.generation patchId))
      (mode : t.pendingOptionPatchMode = some .inPlace)
      (uncontrolled : t.pendingUserControl = none) (row : PatchApplicationRow patchId body error)
      (selected : patchApplicationAction .inPlace t.pendingCredentialRequirement
        error.isNone = .ok action) :
      TaskStep self gid t (.event body) action
        (patchApplicationDraft t patchId error.isNone)
        (publishesPatchApplication action) self.ids
  | hostKeyRemoved {resolutionId : HostKeyResolutionId} {challenge : HostKeyChallengeId}
      {body : TaskEventBody} {succeeded : Bool} {draft : Draft}
      (barrier : t.pendingBarrier =
        some (.hostKeyResolution t.generation resolutionId challenge))
      (row : HostKeyRow resolutionId body succeeded)
      (controls : (hostKeyDraft t resolutionId succeeded).Controls t .deferredRemoveCompleted
        draft) :
      TaskStep self gid t (.event body) .deferredRemoveCompleted draft false self.ids
  | hostKeyResolved {resolutionId : HostKeyResolutionId} {challenge : HostKeyChallengeId}
      (barrier : t.pendingBarrier =
        some (.hostKeyResolution t.generation resolutionId challenge))
      (kept : ∀ f, t.pendingUserControl ≠ some (.remove f)) (state : t.state = .pausedHostKey) :
      TaskStep self gid t (.event (.hostKeyResolutionPersisted resolutionId))
        (.forHostKeyResolution t.desiredPaused)
        ((hostKeyDraft t resolutionId true).setState
          (if t.desiredPaused then .paused else .waiting)) true self.ids
  | hostKeyUnresolved {resolutionId : HostKeyResolutionId} {challenge : HostKeyChallengeId}
      (barrier : t.pendingBarrier =
        some (.hostKeyResolution t.generation resolutionId challenge))
      (kept : ∀ f, t.pendingUserControl ≠ some (.remove f)) (state : t.state = .pausedHostKey) :
      TaskStep self gid t (.event (.hostKeyResolutionFailed resolutionId))
        .hostKeyResolutionFailed
        ((hostKeyDraft t resolutionId false).setState .pausedHostKey) false self.ids
  -- worker progress
  | advance {source target : TaskState} {body : TaskEventBody} {action : SchedulerAction}
      (state : t.state = source) (row : AdvanceRow source body action target) :
      TaskStep self gid t (.event body) action
        ({ t with state := target }.markNonTokenEvent body.kind).draft true self.ids
  | retryRetained {source : TaskState} {body : TaskEventBody} {action : SchedulerAction}
      {retryAt : MonotonicInstant} {timer : RetryTimerId} {ids : IdCounters}
      (state : t.state = source) (row : RetryRow source body action retryAt)
      (draw : self.ids.drawRetryTimer = .ok (timer, ids))
      (policy : self.config.retryWaitHoldsSlot = true) :
      TaskStep self gid t (.event body) action
        (Draft.mark ⟨{ t with
            state := .retryWait
            retryTimer := some (timer, retryAt)
            retryReady := false
            slot := .retryRetained },
          [.scheduleRetry t.taskId t.gid t.generation timer retryAt]⟩ body.kind) true ids
  | retryReleased {source : TaskState} {body : TaskEventBody} {action : SchedulerAction}
      {retryAt : MonotonicInstant} {timer : RetryTimerId} {ids : IdCounters}
      (state : t.state = source) (row : RetryRow source body action retryAt)
      (draw : self.ids.drawRetryTimer = .ok (timer, ids))
      (policy : self.config.retryWaitHoldsSlot = false) :
      TaskStep self gid t (.event body) action
        (Draft.mark ⟨{ t with
            state := .retryWait
            retryTimer := some (timer, retryAt)
            retryReady := false
            slot := .none },
          t.releaseEffects ++ [.scheduleRetry t.taskId t.gid t.generation timer retryAt]⟩
          body.kind) true ids
  | challenge {source : TaskState} {body : TaskEventBody} {action : SchedulerAction}
      {challenge : PresentedHostKeyChallenge}
      (state : t.state = source) (row : ChallengeRow source body action challenge) :
      TaskStep self gid t (.event body) action
        (Draft.mark ⟨{ t with
            state := .pausedHostKey
            hostKeyChallenge := some challenge
            slot := .none },
          .persistHostKeyChallenge t.taskId t.gid challenge :: t.releaseEffects⟩ body.kind)
        true self.ids
  | endWork {source target : TaskState} {body : TaskEventBody} {action : SchedulerAction}
      {status : Aria2Status} {error : Option PublicError}
      (state : t.state = source) (row : EndRow source body action target status error) :
      TaskStep self gid t (.event body) action
        (({ t with state := target }.draft.releaseSlot.awaitTerminal status error).mark body.kind)
        false self.ids
  | verificationRecoverable (state : t.state = .verifying) :
      TaskStep self gid t (.event .verificationRecoverable) .verificationRecoverableFailure
        ({ t with state := .waiting }.draft.releaseSlot.mark .verificationRecoverable)
        true self.ids
  | representationRestart {entered : ScheduledTask} (state : t.state = .active)
      (admits : Admits self t entered) :
      TaskStep self gid t (.event .activeRepresentationRestart) .representationRestart
        ((admissionDraft entered).mark .activeRepresentationRestart) true self.ids
  -- readmission timers
  | retryAdmitted {timer : RetryTimerId} {instant : MonotonicInstant} {entered : ScheduledTask}
      (state : t.state = .retryWait) (armed : t.retryTimer = some (timer, instant))
      (admits : Admits self
        { t with retryTimer := none, lastRetryTimer := some timer, retryReady := true } entered) :
      TaskStep self gid t (.event (.retryReady timer)) .retryReadmissionSucceeded
        (admissionDraft entered) true self.ids
  | retryBlocked {timer : RetryTimerId} {instant : MonotonicInstant}
      (state : t.state = .retryWait) (armed : t.retryTimer = some (timer, instant)) :
      TaskStep self gid t (.event (.retryReady timer)) .retryReadmissionBlocked
        { t with
          retryTimer := none, lastRetryTimer := some timer, retryReady := true }.draft
        true self.ids
  | slowAdmitted {timer : SlowReadmissionId} {instant : MonotonicInstant}
      {entered : ScheduledTask} (state : t.state = .waitingSlow)
      (armed : t.slowReadmission = some (timer, instant))
      (admits : Admits self
        { t with
          slowReadmission := none
          lastSlowReadmission := some timer
          slowReadmissionReady := true } entered) :
      TaskStep self gid t (.event (.readmitSlow timer)) .slowReadmissionSucceeded
        (admissionDraft entered) true self.ids
  | slowBlocked {timer : SlowReadmissionId} {instant : MonotonicInstant}
      (state : t.state = .waitingSlow) (armed : t.slowReadmission = some (timer, instant)) :
      TaskStep self gid t (.event (.readmitSlow timer)) .slowReadmissionBlocked
        { t with
          slowReadmission := none
          lastSlowReadmission := some timer
          slowReadmissionReady := true }.draft true self.ids
  -- work that has to be drained
  | noSpace {condition : NoSpaceCondition} {f : Bool} {effects : List TransitionEffect}
      (state : t.state = .active) (cancels : t.draft.Cancels false f effects) :
      TaskStep self gid t (.event (.noSpace condition)) .midTransferNoSpace
        ((Draft.awaitDrain ⟨{ t with
            state := .waiting
            conditions := { t.conditions with noSpace := some condition } },
          [.persistConditions t.taskId t.gid { t.conditions with noSpace := some condition }]⟩
          .waiting f effects).mark .noSpace) true self.ids
  | terminalFailure {error : PublicError} {f : Bool} {effects : List TransitionEffect}
      (state : t.state = .active) (cancels : t.draft.Cancels false f effects) :
      TaskStep self gid t (.event (.terminalFailure error)) .terminalWorkFailure
        (({ t with state := .error, error := some error }.draft.awaitDrain .error f effects).mark
          .terminalFailure) false self.ids
  | slowDemoted {decision : SlowReadmissionDecision} {position : ℕ} {count : U32} {f : Bool}
      {effects : List TransitionEffect} (state : t.state = .active ∨ t.state = .waitingSlow)
      (valid : decision.delayMs ≠ 0 ∧ decision.scheduledAtMs.val ≤ maxPersistedMilliseconds)
      (found : (self.queues.get .active).idxOf? t.gid = some position)
      (succ : checkedSucc t.slowDemotionCount = some count)
      (cancels : t.draft.Cancels false f effects) :
      TaskStep self gid t (.event (.slowDemoted decision)) .slowSlotDemote
        (({ t with
          state := .waitingSlow
          pendingSlowReadmission := some decision
          slowDemotionCount := count
          slowSlot := some ⟨position, count, decision⟩
          slowRemainingPosition := position }.draft.awaitDrain .waitingSlow f effects).mark
            .slowDemoted) true self.ids
  | slowPaused {f : Bool} {effects : List TransitionEffect}
      (state : t.state = .active ∨ t.state = .pausedSlow)
      (cancels : t.draft.Cancels false f effects) :
      TaskStep self gid t (.event .slowPaused) .slowSlotPause
        (({ t with state := .pausedSlow, desiredPaused := true }.draft.awaitDrain .pausedSlow f
          effects).mark .slowPaused) true self.ids
  | restartQuiesced {force publish : Bool} {settled reprobed : Draft} {ids ids' : IdCounters}
      (barrier : t.pendingBarrier =
        some (.cancellationDrain t.generation .pausedRestarting force))
      (state : t.state = .pausedRestarting)
      (settles : Settles { t with pendingBarrier := none }.draft.releaseSlot self.ids
        .pausedRestarting settled publish ids)
      (reprobes : Reprobes settled ids reprobed ids') :
      TaskStep self gid t (.event .cancellationDrained) .restartQuiesced
        (reprobed.mark .cancellationDrained) publish ids'
  | drained {target : DrainTarget} {force publish : Bool} {settled reprobed : Draft}
      {ids ids' : IdCounters}
      (barrier : t.pendingBarrier = some (.cancellationDrain t.generation target force))
      (state : t.state = target.state) (moving : target ≠ .pausedRestarting)
      (settles : Settles { t with pendingBarrier := none }.draft.releaseSlot self.ids target
        settled publish ids)
      (reprobes : Reprobes settled ids reprobed ids') :
      TaskStep self gid t (.event .cancellationDrained) .cancellationDrainSucceeded
        (reprobed.mark .cancellationDrained) publish ids'
  -- probes and terminal results
  | probed {probeId : NoSpaceProbeId} {origin : NoSpaceProbeOrigin} {ready : Bool}
      {nextRetryAt : Option MonotonicInstant} {action : SchedulerAction}
      {conditions : TaskConditions} {draft : Draft} {ids : IdCounters}
      (probe : t.noSpaceProbe = some (probeId, origin))
      (selected : SchedulerAction.forNoSpaceProbeResult t.state origin t.desiredPaused ready =
        some action)
      (remaining : RequestScheduler.probedConditions t.conditions ready nextRetryAt =
        .ok conditions)
      (reprobes : ProbeReschedules ⟨{ t with
          noSpaceProbe := none
          lastNoSpaceProbe := some probeId
          conditions := conditions
          state := t.state.afterProbe t.desiredPaused },
        [.persistConditions t.taskId t.gid conditions]⟩ ready nextRetryAt self.ids draft ids) :
      TaskStep self gid t (.event (.noSpaceProbeCompleted probeId origin ready nextRetryAt))
        action draft true ids
  | terminalPersisted {status : Aria2Status}
      (barrier : t.pendingBarrier = some (.terminalPersistence t.generation status))
      (state : t.state.isTerminal = true) :
      TaskStep self gid t (.event (.terminalPersisted status)) .terminalPersistenceSucceeded
        ({ t with
          pendingBarrier := none
          state := .stoppedResult
          stoppedStatus := some status
          terminalPersisted := true }.markNonTokenEvent .terminalPersisted).draft true self.ids
  | deletionFailed {deletionId : StoppedResultDeletionId}
      (barrier : t.pendingBarrier = some (.stoppedResultDeletion t.generation deletionId))
      (state : t.state = .stoppedResult) :
      TaskStep self gid t (.event (.stoppedResultDeletionFailed deletionId))
        .stoppedResultDeletionFailed
        { t with pendingBarrier := none, lastStoppedDeletion := some deletionId }.draft
        false self.ids

/-- How a handler may end: in a step for its task, in the deletion of its
task, or in a reply that changes nothing. -/
inductive Plans (self : RequestScheduler) (gid : Gid) (t : ScheduledTask) (cause : StepCause)
    (instant : MonotonicInstant) : Planned → Prop
  | step {action : SchedulerAction} {draft : Draft} {publish : Bool} {ids : IdCounters}
      (step : TaskStep self gid t cause action draft publish ids) :
      Plans self gid t cause instant (draft.finish t action instant publish ids)
  | delete {deletionId : StoppedResultDeletionId}
      (deleted : cause = .event (.stoppedResultDeleted deletionId))
      (barrier : t.pendingBarrier = some (.stoppedResultDeletion t.generation deletionId))
      (state : t.state = .stoppedResult) :
      Plans self gid t cause instant
        (.finish (t.deletionCall .stoppedResultDeletionSucceeded instant self.ids))
  | noop : Plans self gid t cause instant (.reply .noop)
  | ignored {disposition : EventDisposition} {outcome : SchedulerOutcome}
      (ignored : t.ignoredForDisposition disposition instant = .ok outcome) :
      Plans self gid t cause instant (.reply outcome)

end Ariax
