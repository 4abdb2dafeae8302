import Ariax.Scheduler.Rules

/-!
# The rows of the contract matrix the handlers use

For each action a handler asks the matrix about, the states it accepts the
action in and the state it leads to.
-/

namespace Ariax

/-- The state an action leads to where the matrix names one. -/
def actionTarget (state : TaskState) (action : SchedulerAction) : Option TaskState :=
  let contract := transitionContract state action
  match contract.kind with
  | .transition | .stay => contract.targets.head?
  | .noOp | .ignore => some state
  | .delete | .conditional | .conflict => none

namespace ScheduledTask

theorem targetState_eq_ok {t : ScheduledTask} {action : SchedulerAction} {s : TaskState} :
    t.targetState action = .ok s ↔ actionTarget t.state action = some s := by
  unfold targetState targetForAction actionTarget
  cases hk : (transitionContract t.state action).kind <;> simp only [hk, Except.bind_eq_ok]
  case transition | stay =>
    cases (transitionContract t.state action).targets.head? <;> simp
  case conflict =>
    split <;> simp
  all_goals simp

end ScheduledTask

variable {state s : TaskState}

theorem actionTarget_pause :
    actionTarget state .pause =
      if state.isTerminal = false then some state.afterPause else none := by
  cases state <;> rfl

theorem actionTarget_deferredPause : actionTarget state .deferredPauseCompleted =
      if state.isTerminal = false ∧ state ≠ .pausedHostKey then some state.afterPause
      else none := by
  cases state <;> rfl

theorem actionTarget_resume (h : (transitionContract state .resume).kind ≠ .noOp) :
    actionTarget state .resume =
      if state = .waitingSlow ∨ state = .paused ∨ state = .pausedSlow then some .waiting
      else none := by
  cases state <;> first | rfl | exact absurd rfl h

theorem actionTarget_explicitNoSpaceProbe : actionTarget state .explicitNoSpaceProbeRequested =
      if state.retainsConditions then some state.afterProbeRequest else none := by
  cases state <;> rfl

theorem actionTarget_deferredResume : actionTarget state .deferredResumeCompleted =
      if state = .paused ∨ state = .pausedSlow then some .waiting else none := by
  cases state <;> rfl

theorem actionTarget_remove (h : (transitionContract state .remove).kind ≠ .noOp) :
    actionTarget state .remove = if state.isTerminal = false then some .removed else none := by
  cases state <;> first | rfl | exact absurd rfl h

theorem actionTarget_deferredRemove : actionTarget state .deferredRemoveCompleted =
      if state.isTerminal = false then some .removed else none := by
  cases state <;> rfl

theorem actionTarget_sourceRequested : actionTarget state .sourceReplacementRequested =
      if state.restartable = true ∨ state = .retryWait ∨ state = .waiting ∨ state = .paused then
        some state.afterSourceRequest
      else none := by
  cases state <;> rfl

theorem actionTarget_sourceCommitted : actionTarget state .sourceReplacementCommitted = some s ↔
      (state = .pausedRestarting ∧ s = .waiting) ∨ (state = .waiting ∧ s = .waiting) ∨
        (state = .paused ∧ s = .paused) := by
  cases state <;> cases s <;> decide

theorem actionTarget_inPlaceAccepted : actionTarget state .inPlaceOptionPatchAccepted =
      if state.isTerminal = false ∧ state ≠ .accepted then some state else none := by
  cases state <;> rfl

theorem actionTarget_restartAccepted : actionTarget state .activeRestartOptionPatchAccepted =
      if state.restartable then some state else none := by
  cases state <;> rfl

theorem actionTarget_restartPersisted : actionTarget state .activeRestartOptionPatchPersisted =
      if state.restartable then some .pausedRestarting else none := by
  cases state <;> rfl

theorem actionTarget_restartPersistenceFailed :
    actionTarget state .activeRestartOptionPatchPersistenceFailed =
      if state.restartable then some state else none := by
  cases state <;> rfl

theorem actionTarget_restartApplied : actionTarget state .restartApplicationSucceeded =
      if state = .pausedRestarting ∨ state = .waiting then some .waiting else none := by
  cases state <;> rfl

theorem actionTarget_restartFailed : actionTarget state .restartApplicationFailed =
      if state = .pausedRestarting ∨ state = .waiting then some .error else none := by
  cases state <;> rfl

variable {action : SchedulerAction} {source : TaskState} {body : TaskEventBody}

theorem inPlace_of_patchApplicationAction {requirement : Option CredentialRequirementKey}
    {succeeded : Bool}
    (selected : RequestScheduler.patchApplicationAction .inPlace requirement succeeded =
      .ok action) :
    action = .credentialsSatisfied ∨ action = .credentialSatisfactionFailed ∨
      action = .inPlaceOptionPatchApplied ∨ action = .inPlaceOptionPatchApplicationFailed := by
  cases requirement <;> cases succeeded <;> cases selected <;> simp

theorem actionTarget_patchApplication
    (row : action = .credentialsSatisfied ∨ action = .credentialSatisfactionFailed ∨
      action = .inPlaceOptionPatchApplied ∨ action = .inPlaceOptionPatchApplicationFailed) :
    actionTarget state action =
      if (transitionContract state action).accepts then some state else none := by
  rcases row with rfl | rfl | rfl | rfl <;> cases state <;> rfl

theorem actionTarget_hostKey
    (row : action = .approveHostKey ∨ action = .applyMatchingHostKeyOption ∨
      action = .hostKeyResolutionFailed) :
    actionTarget state action =
      if state = .pausedHostKey then some .pausedHostKey else none := by
  rcases row with rfl | rfl | rfl <;> cases state <;> rfl

variable {desiredPaused : Bool} {target : TaskState}

theorem actionTarget_hostKeyResolved : actionTarget state (.forHostKeyResolution desiredPaused) =
      if state = .pausedHostKey then some (if desiredPaused then .paused else .waiting)
      else none := by
  cases desiredPaused <;> cases state <;> rfl

theorem actionTarget_advance (row : AdvanceRow source body action target) :
    actionTarget state action = if state = source then some target else none := by
  cases row <;> cases state <;> rfl

theorem actionTarget_retry {retryAt : MonotonicInstant} (row : RetryRow source body action retryAt)
    :
    actionTarget state action = if state = source then some .retryWait else none := by
  cases row <;> cases state <;> rfl

theorem actionTarget_challenge {challenge : PresentedHostKeyChallenge}
    (row : ChallengeRow source body action challenge) :
    actionTarget state action = if state = source then some .pausedHostKey else none := by
  cases row <;> cases state <;> rfl

theorem actionTarget_end {status : Aria2Status} {error : Option PublicError}
    (row : EndRow source body action target status error) :
    actionTarget state action = if state = source then some target else none := by
  cases row <;> cases state <;> rfl

theorem actionTarget_admission (row : AdmissionRow source action) :
    actionTarget state action = if state = source then some .allocating else none := by
  cases row <;> cases state <;> rfl

/-- An action that one state takes, and the state it leads to. -/
inductive SingleRow : TaskState → SchedulerAction → TaskState → Prop where
  | representationRestart : SingleRow .active .representationRestart .allocating
  | verificationRecoverable : SingleRow .verifying .verificationRecoverableFailure .waiting
  | noSpace : SingleRow .active .midTransferNoSpace .waiting
  | terminalFailure : SingleRow .active .terminalWorkFailure .error
  | restartQuiesced : SingleRow .pausedRestarting .restartQuiesced .pausedRestarting
  | removeStopped : SingleRow .stoppedResult .removeStoppedResult .stoppedResult

theorem SingleRow.target_eq (row : SingleRow source action target) :
    actionTarget state action = if state = source then some target else none := by
  cases row <;> cases state <;> rfl

theorem actionTarget_slowDemote : actionTarget state .slowSlotDemote =
      if state = .active ∨ state = .waitingSlow then some .waitingSlow else none := by
  cases state <;> rfl

theorem actionTarget_slowPause : actionTarget state .slowSlotPause =
      if state = .active ∨ state = .pausedSlow then some .pausedSlow else none := by
  cases state <;> rfl

theorem actionTarget_terminalPersisted : actionTarget state .terminalPersistenceSucceeded =
      if state.isTerminal then some .stoppedResult else none := by
  cases state <;> rfl

theorem actionTarget_probe {origin : NoSpaceProbeOrigin} {ready : Bool}
    (selected : SchedulerAction.forNoSpaceProbeResult state origin desiredPaused ready =
      some action) : actionTarget state action = some (state.afterProbe desiredPaused) := by
  cases state <;> cases desiredPaused <;> cases ready <;> cases selected <;> rfl

end Ariax
