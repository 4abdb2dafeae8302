import Ariax.Core.Command

/-!
# The transition contract matrix

The semantic actions of the scheduler and the total state/action matrix of
`transition.rs`. The matrix says, for every task state and every action,
whether the action moves the task, leaves it in place, deletes it, is
redundant, is ignored or is rejected.
-/

namespace Ariax

inductive StateReason where
  | validationSucceeded
  | validationFailed
  | userPause
  | userResume
  | userRemove
  | schedulerAdmission
  | admissionBlocked
  | planningFailed
  | optionPatch
  | optionPatchApplicationFailed
  | credentialsSatisfied
  | credentialUpdateFailed
  | noSpaceProbeRequested
  | noSpaceProbeSucceeded
  | noSpaceProbeFailed
  | generationPersistenceSucceeded
  | allocationSucceeded
  | allocationRetryableFailure
  | hostKeyChallenge
  | hostKeyApprovalRequired
  | allocationTerminalFailure
  | leaseRetry
  | representationRestart
  | payloadReceived
  | bitTorrentSeeding
  | slowSlotDemotion
  | slowSlotPause
  | noSpace
  | terminalWorkFailure
  | retryReadmission
  | retryExhausted
  | slowReadmission
  | hostKeyApproved
  | hostKeyResolutionFailed
  | optionPatchPersistenceSucceeded
  | optionPatchPersistenceFailed
  | cancellationDrained
  | restartQuiesced
  | sourceReplacement
  | restartApplicationSucceeded
  | restartApplicationFailed
  | verificationSucceeded
  | verificationRecoverableFailure
  | verificationTerminalFailure
  | seedingStopped
  | bitTorrentFailure
  | terminalPersistenceSucceeded
  | stoppedResultRemovalRequested
  | stoppedResultRemovalFailed
  | stoppedResultRemoved
  | orderlyShutdown
  | duplicateEventIgnored
  | staleEventIgnored
  | idempotent
  | conflict
  deriving DecidableEq

structure StateTransition where
  task : TaskId
  gid : Gid
  generation : Generation
  fromState : TaskState
  toState : TaskState
  reason : StateReason
  instant : MonotonicInstant
  deriving DecidableEq

structure TaskDeletion where
  task : TaskId
  gid : Gid
  generation : Generation
  fromState : TaskState
  reason : StateReason
  instant : MonotonicInstant
  deriving DecidableEq

/-- The semantic action alphabet of the state machine. -/
inductive SchedulerAction where
  | validationSucceeded
  | validationSucceededPaused
  | validationFailed
  | pause
  | pauseDeferred
  | resume
  | resumeDeferred
  | remove
  | removeDeferred
  | schedulerAdmission
  | admissionBlocked
  | planningFailed
  | inPlaceOptionPatchAccepted
  | inPlaceOptionPatchApplied
  | inPlaceOptionPatchApplicationFailed
  | credentialsSatisfied
  | credentialSatisfactionFailed
  | explicitNoSpaceProbeRequested
  | waitingNoSpaceProbeSucceeded
  | waitingNoSpaceProbeFailed
  | pausedNoSpaceResumeProbeSucceeded
  | pausedNoSpaceResumeProbeFailed
  | pausedNoSpacePausePreservingProbeSucceeded
  | pausedNoSpacePausePreservingProbeFailed
  | generationPersistenceSucceeded
  | allocationSucceeded
  | allocationRetryableFailure
  | activeHostKeyChallengeRequired
  | hostKeyChallengeRequired
  | allocationTerminalFailure
  | activeRestartOptionPatchAccepted
  | sourceReplacementRequested
  | sourceReplacementCommitted
  | activeRestartOptionPatchPersisted
  | activeRestartOptionPatchPersistenceFailed
  | leaseRetryableWithRunnableWork
  | leaseRetryableWithoutRunnableWork
  | representationRestart
  | allRequiredDataReceived
  | bitTorrentPayloadComplete
  | slowSlotDemote
  | slowSlotPause
  | midTransferNoSpace
  | terminalWorkFailure
  | retryReadmissionSucceeded
  | retryReadmissionBlocked
  | retryExhausted
  | slowReadmissionSucceeded
  | slowReadmissionBlocked
  | approveHostKey
  | applyMatchingHostKeyOption
  | hostKeyResolutionSucceeded
  | hostKeyResolutionSucceededPreservingPause
  | hostKeyResolutionFailed
  | cancellationDrainSucceeded
  | restartQuiesced
  | restartApplicationScheduled
  | restartApplicationSucceeded
  | restartApplicationFailed
  | deferredPauseCompleted
  | deferredResumeCompleted
  | deferredRemoveCompleted
  | verificationSucceeded
  | verificationRecoverableFailure
  | verificationTerminalFailure
  | seedingStopped
  | bitTorrentFailure
  | terminalPersistenceSucceeded
  | removeStoppedResult
  | stoppedResultDeletionSucceeded
  | stoppedResultDeletionFailed
  | orderlyShutdown
  | duplicateEventIgnored
  | staleEventIgnored
  deriving DecidableEq

namespace SchedulerAction

def code : SchedulerAction → String
  | validationSucceeded => "validation_succeeded"
  | validationSucceededPaused => "validation_succeeded_paused"
  | validationFailed => "validation_failed"
  | pause => "pause"
  | pauseDeferred => "pause_deferred"
  | resume => "resume"
  | resumeDeferred => "resume_deferred"
  | remove => "remove"
  | removeDeferred => "remove_deferred"
  | schedulerAdmission => "scheduler_admission"
  | admissionBlocked => "admission_blocked"
  | planningFailed => "planning_failed"
  | inPlaceOptionPatchAccepted => "in_place_option_patch_accepted"
  | inPlaceOptionPatchApplied => "in_place_option_patch_applied"
  | inPlaceOptionPatchApplicationFailed => "in_place_option_patch_application_failed"
  | credentialsSatisfied => "credentials_satisfied"
  | credentialSatisfactionFailed => "credential_satisfaction_failed"
  | explicitNoSpaceProbeRequested => "explicit_no_space_probe_requested"
  | waitingNoSpaceProbeSucceeded => "waiting_no_space_probe_succeeded"
  | waitingNoSpaceProbeFailed => "waiting_no_space_probe_failed"
  | pausedNoSpaceResumeProbeSucceeded => "paused_no_space_resume_probe_succeeded"
  | pausedNoSpaceResumeProbeFailed => "paused_no_space_resume_probe_failed"
  | pausedNoSpacePausePreservingProbeSucceeded => "paused_no_space_pause_preserving_probe_succeeded"
  | pausedNoSpacePausePreservingProbeFailed => "paused_no_space_pause_preserving_probe_failed"
  | generationPersistenceSucceeded => "generation_persistence_succeeded"
  | allocationSucceeded => "allocation_succeeded"
  | allocationRetryableFailure => "allocation_retryable_failure"
  | activeHostKeyChallengeRequired => "active_host_key_challenge_required"
  | hostKeyChallengeRequired => "host_key_challenge_required"
  | allocationTerminalFailure => "allocation_terminal_failure"
  | activeRestartOptionPatchAccepted => "active_restart_option_patch_accepted"
  | sourceReplacementRequested => "source_replacement_requested"
  | sourceReplacementCommitted => "source_replacement_committed"
  | activeRestartOptionPatchPersisted => "active_restart_option_patch_persisted"
  | activeRestartOptionPatchPersistenceFailed => "active_restart_option_patch_persistence_failed"
  | leaseRetryableWithRunnableWork => "lease_retryable_with_runnable_work"
  | leaseRetryableWithoutRunnableWork => "lease_retryable_without_runnable_work"
  | representationRestart => "representation_restart"
  | allRequiredDataReceived => "all_required_data_received"
  | bitTorrentPayloadComplete => "bit_torrent_payload_complete"
  | slowSlotDemote => "slow_slot_demote"
  | slowSlotPause => "slow_slot_pause"
  | midTransferNoSpace => "mid_transfer_no_space"
  | terminalWorkFailure => "terminal_work_failure"
  | retryReadmissionSucceeded => "retry_readmission_succeeded"
  | retryReadmissionBlocked => "retry_readmission_blocked"
  | retryExhausted => "retry_exhausted"
  | slowReadmissionSucceeded => "slow_readmission_succeeded"
  | slowReadmissionBlocked => "slow_readmission_blocked"
  | approveHostKey => "approve_host_key"
  | applyMatchingHostKeyOption => "apply_matching_host_key_option"
  | hostKeyResolutionSucceeded => "host_key_resolution_succeeded"
  | hostKeyResolutionSucceededPreservingPause => "host_key_resolution_succeeded_preserving_pause"
  | hostKeyResolutionFailed => "host_key_resolution_failed"
  | cancellationDrainSucceeded => "cancellation_drain_succeeded"
  | restartQuiesced => "restart_quiesced"
  | restartApplicationScheduled => "restart_application_scheduled"
  | restartApplicationSucceeded => "restart_application_succeeded"
  | restartApplicationFailed => "restart_application_failed"
  | deferredPauseCompleted => "deferred_pause_completed"
  | deferredResumeCompleted => "deferred_resume_completed"
  | deferredRemoveCompleted => "deferred_remove_completed"
  | verificationSucceeded => "verification_succeeded"
  | verificationRecoverableFailure => "verification_recoverable_failure"
  | verificationTerminalFailure => "verification_terminal_failure"
  | seedingStopped => "seeding_stopped"
  | bitTorrentFailure => "bit_torrent_failure"
  | terminalPersistenceSucceeded => "terminal_persistence_succeeded"
  | removeStoppedResult => "remove_stopped_result"
  | stoppedResultDeletionSucceeded => "stopped_result_deletion_succeeded"
  | stoppedResultDeletionFailed => "stopped_result_deletion_failed"
  | orderlyShutdown => "orderly_shutdown"
  | duplicateEventIgnored => "duplicate_event_ignored"
  | staleEventIgnored => "stale_event_ignored"

def forValidatedAdd (desiredPaused : Bool) : SchedulerAction :=
  if desiredPaused then validationSucceededPaused else validationSucceeded

def forResume (state : TaskState) (conditions : TaskConditionsSnapshot) : SchedulerAction :=
  if conditions.noSpace && state.retainsConditions then
    explicitNoSpaceProbeRequested
  else
    resume

def forHostKeyResolution (desiredPaused : Bool) : SchedulerAction :=
  if desiredPaused then hostKeyResolutionSucceededPreservingPause
  else hostKeyResolutionSucceeded

def forNoSpaceProbeResult (state : TaskState) (_origin : NoSpaceProbeOrigin)
    (desiredPaused ready : Bool) : Option SchedulerAction :=
  match state, desiredPaused, ready with
  | .waiting, _, true | .waitingSlow, _, true | .retryWait, _, true =>
    some waitingNoSpaceProbeSucceeded
  | .waiting, _, false | .waitingSlow, _, false | .retryWait, _, false =>
    some waitingNoSpaceProbeFailed
  | .paused, false, true => some pausedNoSpaceResumeProbeSucceeded
  | .paused, false, false => some pausedNoSpaceResumeProbeFailed
  | .paused, true, true | .pausedSlow, true, true =>
    some pausedNoSpacePausePreservingProbeSucceeded
  | .paused, true, false | .pausedSlow, true, false =>
    some pausedNoSpacePausePreservingProbeFailed
  | _, _, _ => none

end SchedulerAction

/-- Identity disposition computed before a task event enters the state matrix. -/
inductive EventDisposition where
  | fresh
  | duplicate
  | stale
  deriving DecidableEq

/-! ## Matrix cells -/

inductive TransitionContractKind where
  | transition
  | stay
  | conditional
  | delete
  | noOp
  | ignore
  | conflict
  deriving DecidableEq

inductive TransitionRejection where
  | conflict
  | hostKeyApprovalRequired
  deriving DecidableEq

structure TransitionContract where
  kind : TransitionContractKind
  reason : StateReason
  targets : List TaskState
  rejection : Option TransitionRejection
  deriving DecidableEq

namespace TransitionContract

def accepts (contract : TransitionContract) : Bool :=
  contract.kind ≠ .conflict

def transition (reason : StateReason) (target : TaskState) : TransitionContract :=
  ⟨.transition, reason, [target], none⟩

def stay (state : TaskState) (reason : StateReason) : TransitionContract :=
  ⟨.stay, reason, [state], none⟩

/-- Recovery context selects one of several permitted target states. -/
def conditional (reason : StateReason) (targets : List TaskState) : TransitionContract :=
  ⟨.conditional, reason, targets, none⟩

def delete (reason : StateReason) : TransitionContract :=
  ⟨.delete, reason, [], none⟩

def noOp (state : TaskState) : TransitionContract :=
  ⟨.noOp, .idempotent, [state], none⟩

def ignore (state : TaskState) (reason : StateReason) : TransitionContract :=
  ⟨.ignore, reason, [state], none⟩

def conflict : TransitionContract :=
  ⟨.conflict, .conflict, [], some .conflict⟩

def rejected (reason : StateReason) (rejection : TransitionRejection) : TransitionContract :=
  ⟨.conflict, reason, [], some rejection⟩

end TransitionContract

def shutdownRecoveryTargets : List TaskState := [.waiting, .paused, .stoppedResult]

open TransitionContract in
/-- The normative contract for every task-state and semantic-action pair. -/
def transitionContract (state : TaskState) (action : SchedulerAction) : TransitionContract :=
  match action with
  | .validationSucceeded => match state with
      | .accepted => transition .validationSucceeded .waiting
      | _ => conflict
  | .validationSucceededPaused => match state with
      | .accepted => transition .validationSucceeded .paused
      | _ => conflict
  | .validationFailed => match state with
      | .accepted => transition .validationFailed .error
      | _ => conflict
  | .pause => match state with
      | .accepted | .waiting | .waitingSlow | .allocating | .active | .retryWait
      | .pausedRestarting | .verifying | .seeding => transition .userPause .paused
      | .paused | .pausedSlow | .pausedHostKey => stay state .userPause
      | .complete | .error | .removed | .stoppedResult => conflict
  | .pauseDeferred => match state with
      | .waiting | .waitingSlow | .allocating | .active | .retryWait | .paused | .pausedSlow
      | .pausedHostKey | .pausedRestarting | .verifying | .seeding => stay state .userPause
      | .accepted | .complete | .error | .removed | .stoppedResult => conflict
  | .resume => match state with
      | .accepted | .waiting | .allocating | .active | .retryWait | .pausedRestarting
      | .verifying | .seeding => noOp state
      | .waitingSlow | .paused | .pausedSlow => transition .userResume .waiting
      | .pausedHostKey => rejected .hostKeyApprovalRequired .hostKeyApprovalRequired
      | .complete | .error | .removed | .stoppedResult => conflict
  | .resumeDeferred => match state with
      | .waiting | .waitingSlow | .allocating | .active | .retryWait | .paused | .pausedSlow
      | .pausedHostKey | .pausedRestarting | .verifying | .seeding => stay state .userResume
      | .accepted | .complete | .error | .removed | .stoppedResult => conflict
  | .remove => match state with
      | .accepted | .waiting | .waitingSlow | .allocating | .active | .retryWait | .paused
      | .pausedSlow | .pausedHostKey | .pausedRestarting | .verifying | .seeding =>
        transition .userRemove .removed
      | .removed => noOp state
      | .complete | .error | .stoppedResult => conflict
  | .removeDeferred => match state with
      | .accepted | .waiting | .waitingSlow | .allocating | .active | .retryWait | .paused
      | .pausedSlow | .pausedHostKey | .pausedRestarting | .verifying | .seeding =>
        stay state .userRemove
      | .complete | .error | .removed | .stoppedResult => conflict
  | .schedulerAdmission => match state with
      | .waiting => transition .schedulerAdmission .allocating
      | _ => conflict
  | .admissionBlocked => match state with
      | .waiting => stay state .admissionBlocked
      | _ => conflict
  | .planningFailed => match state with
      | .waiting => transition .planningFailed .error
      | _ => conflict
  | .inPlaceOptionPatchAccepted => match state with
      | .waiting | .waitingSlow | .allocating | .active | .retryWait | .paused | .pausedSlow
      | .pausedHostKey | .pausedRestarting | .verifying | .seeding => stay state .optionPatch
      | _ => conflict
  | .inPlaceOptionPatchApplied => match state with
      | .waiting | .waitingSlow | .allocating | .active | .retryWait | .paused | .pausedSlow
      | .pausedHostKey | .pausedRestarting | .verifying | .seeding => stay state .optionPatch
      | _ => conflict
  | .inPlaceOptionPatchApplicationFailed => match state with
      | .waiting | .waitingSlow | .allocating | .active | .retryWait | .paused | .pausedSlow
      | .pausedHostKey | .pausedRestarting | .verifying | .seeding =>
        stay state .optionPatchApplicationFailed
      | _ => conflict
  | .credentialsSatisfied => match state with
      | .waiting | .waitingSlow | .retryWait | .paused | .pausedSlow =>
        stay state .credentialsSatisfied
      | _ => conflict
  | .credentialSatisfactionFailed => match state with
      | .waiting | .waitingSlow | .retryWait | .paused | .pausedSlow =>
        stay state .credentialUpdateFailed
      | _ => conflict
  | .explicitNoSpaceProbeRequested => match state with
      | .waiting | .retryWait | .paused => stay state .noSpaceProbeRequested
      | .waitingSlow | .pausedSlow => transition .noSpaceProbeRequested .waiting
      | _ => conflict
  | .waitingNoSpaceProbeSucceeded => match state with
      | .waiting | .waitingSlow | .retryWait => stay state .noSpaceProbeSucceeded
      | _ => conflict
  | .waitingNoSpaceProbeFailed => match state with
      | .waiting | .waitingSlow | .retryWait => stay state .noSpaceProbeFailed
      | _ => conflict
  | .pausedNoSpaceResumeProbeSucceeded => match state with
      | .paused => transition .noSpaceProbeSucceeded .waiting
      | _ => conflict
  | .pausedNoSpaceResumeProbeFailed => match state with
      | .paused => transition .noSpaceProbeFailed .waiting
      | _ => conflict
  | .pausedNoSpacePausePreservingProbeSucceeded => match state with
      | .paused | .pausedSlow => stay state .noSpaceProbeSucceeded
      | _ => conflict
  | .pausedNoSpacePausePreservingProbeFailed => match state with
      | .paused | .pausedSlow => stay state .noSpaceProbeFailed
      | _ => conflict
  | .generationPersistenceSucceeded => match state with
      | .allocating => stay state .generationPersistenceSucceeded
      | _ => conflict
  | .allocationSucceeded => match state with
      | .allocating => transition .allocationSucceeded .active
      | _ => conflict
  | .allocationRetryableFailure => match state with
      | .allocating => transition .allocationRetryableFailure .retryWait
      | _ => conflict
  | .activeHostKeyChallengeRequired => match state with
      | .active => transition .hostKeyChallenge .pausedHostKey
      | _ => conflict
  | .hostKeyChallengeRequired => match state with
      | .allocating => transition .hostKeyChallenge .pausedHostKey
      | _ => conflict
  | .allocationTerminalFailure => match state with
      | .allocating => transition .allocationTerminalFailure .error
      | _ => conflict
  | .activeRestartOptionPatchAccepted => match state with
      | .allocating | .active | .verifying => stay state .optionPatch
      | _ => conflict
  | .sourceReplacementRequested => match state with
      | .allocating | .active | .verifying | .retryWait =>
        transition .sourceReplacement .pausedRestarting
      | .waiting | .paused => stay state .sourceReplacement
      | _ => conflict
  | .sourceReplacementCommitted => match state with
      | .pausedRestarting => transition .sourceReplacement .waiting
      | .waiting | .paused => stay state .sourceReplacement
      | _ => conflict
  | .activeRestartOptionPatchPersisted => match state with
      | .allocating | .active | .verifying =>
        transition .optionPatchPersistenceSucceeded .pausedRestarting
      | _ => conflict
  | .activeRestartOptionPatchPersistenceFailed => match state with
      | .allocating | .active | .verifying => stay state .optionPatchPersistenceFailed
      | _ => conflict
  | .leaseRetryableWithRunnableWork => match state with
      | .active => stay state .leaseRetry
      | _ => conflict
  | .leaseRetryableWithoutRunnableWork => match state with
      | .active => transition .leaseRetry .retryWait
      | _ => conflict
  | .representationRestart => match state with
      | .active => transition .representationRestart .allocating
      | _ => conflict
  | .allRequiredDataReceived => match state with
      | .active => transition .payloadReceived .verifying
      | _ => conflict
  | .bitTorrentPayloadComplete => match state with
      | .active => transition .bitTorrentSeeding .seeding
      | _ => conflict
  | .slowSlotDemote => match state with
      | .active => transition .slowSlotDemotion .waitingSlow
      | .waitingSlow => noOp state
      | _ => conflict
  | .slowSlotPause => match state with
      | .active => transition .slowSlotPause .pausedSlow
      | .pausedSlow => noOp state
      | _ => conflict
  | .midTransferNoSpace => match state with
      | .active => transition .noSpace .waiting
      | _ => conflict
  | .terminalWorkFailure => match state with
      | .active => transition .terminalWorkFailure .error
      | _ => conflict
  | .retryReadmissionSucceeded => match state with
      | .retryWait => transition .retryReadmission .allocating
      | _ => conflict
  | .retryReadmissionBlocked => match state with
      | .retryWait => stay state .admissionBlocked
      | _ => conflict
  | .retryExhausted => match state with
      | .retryWait => transition .retryExhausted .error
      | _ => conflict
  | .slowReadmissionSucceeded => match state with
      | .waitingSlow => transition .slowReadmission .allocating
      | _ => conflict
  | .slowReadmissionBlocked => match state with
      | .waitingSlow => stay state .admissionBlocked
      | _ => conflict
  | .approveHostKey => match state with
      | .pausedHostKey => stay state .hostKeyApproved
      | _ => conflict
  | .applyMatchingHostKeyOption => match state with
      | .pausedHostKey => stay state .optionPatch
      | _ => conflict
  | .hostKeyResolutionSucceeded => match state with
      | .pausedHostKey => transition .hostKeyApproved .waiting
      | _ => conflict
  | .hostKeyResolutionSucceededPreservingPause => match state with
      | .pausedHostKey => transition .hostKeyApproved .paused
      | _ => conflict
  | .hostKeyResolutionFailed => match state with
      | .pausedHostKey => stay state .hostKeyResolutionFailed
      | _ => conflict
  | .cancellationDrainSucceeded => match state with
      | .waiting | .waitingSlow | .paused | .pausedSlow | .error | .removed =>
        stay state .cancellationDrained
      | _ => conflict
  | .restartQuiesced => match state with
      | .pausedRestarting => stay state .restartQuiesced
      | _ => conflict
  | .restartApplicationScheduled => match state with
      | .waiting => stay state .optionPatch
      | _ => conflict
  | .restartApplicationSucceeded => match state with
      | .pausedRestarting => transition .restartApplicationSucceeded .waiting
      | .waiting => stay state .restartApplicationSucceeded
      | _ => conflict
  | .restartApplicationFailed => match state with
      | .pausedRestarting | .waiting => transition .restartApplicationFailed .error
      | _ => conflict
  | .deferredPauseCompleted => match state with
      | .accepted | .waiting | .waitingSlow | .allocating | .active | .retryWait
      | .pausedRestarting | .verifying | .seeding => transition .userPause .paused
      | .paused | .pausedSlow => stay state .userPause
      | .pausedHostKey | .complete | .error | .removed | .stoppedResult => conflict
  | .deferredResumeCompleted => match state with
      | .paused | .pausedSlow => transition .userResume .waiting
      | _ => conflict
  | .deferredRemoveCompleted => match state with
      | .accepted | .waiting | .waitingSlow | .allocating | .active | .retryWait | .paused
      | .pausedSlow | .pausedHostKey | .pausedRestarting | .verifying | .seeding =>
        transition .userRemove .removed
      | .complete | .error | .removed | .stoppedResult => conflict
  | .verificationSucceeded => match state with
      | .verifying => transition .verificationSucceeded .complete
      | _ => conflict
  | .verificationRecoverableFailure => match state with
      | .verifying => transition .verificationRecoverableFailure .waiting
      | _ => conflict
  | .verificationTerminalFailure => match state with
      | .verifying => transition .verificationTerminalFailure .error
      | _ => conflict
  | .seedingStopped => match state with
      | .seeding => transition .seedingStopped .complete
      | _ => conflict
  | .bitTorrentFailure => match state with
      | .seeding => transition .bitTorrentFailure .error
      | _ => conflict
  | .terminalPersistenceSucceeded => match state with
      | .complete | .error | .removed =>
        transition .terminalPersistenceSucceeded .stoppedResult
      | .stoppedResult => noOp state
      | _ => conflict
  | .removeStoppedResult => match state with
      | .stoppedResult => stay state .stoppedResultRemovalRequested
      | _ => conflict
  | .stoppedResultDeletionSucceeded => match state with
      | .stoppedResult => delete .stoppedResultRemoved
      | _ => conflict
  | .stoppedResultDeletionFailed => match state with
      | .stoppedResult => stay state .stoppedResultRemovalFailed
      | _ => conflict
  | .orderlyShutdown => match state with
      | .accepted | .waiting | .waitingSlow | .allocating | .active | .retryWait | .paused
      | .pausedSlow | .pausedHostKey | .pausedRestarting | .verifying | .seeding =>
        conditional .orderlyShutdown shutdownRecoveryTargets
      | .complete | .error | .removed | .stoppedResult => noOp state
  | .duplicateEventIgnored => ignore state .duplicateEventIgnored
  | .staleEventIgnored => ignore state .staleEventIgnored

end Ariax
