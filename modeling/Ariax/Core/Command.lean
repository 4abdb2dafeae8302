import Ariax.Core.State
import Mathlib.Data.PNat.Basic

/-!
# Commands, barriers and task events

The payload-bearing inputs of the scheduler (`command.rs`): configuration,
queue and slot vocabulary, pending barriers, commands, and the asynchronous
events delivered back to it.

Every variant of the source's `TaskEvent` carries a GID and a generation;
here they are fields of the event and the variants keep the rest.
-/

namespace Ariax

def maxSchedulerEffects : ℕ := 8

def maxPersistedMilliseconds : ℕ := 2 ^ 63 - 1

inductive SlowReadmissionPolicy where
  | front
  | originalPosition
  | back
  deriving DecidableEq

structure SchedulerConfig where
  maxTasks : ℕ+
  maxActiveTasks : ℕ+
  retryWaitHoldsSlot : Bool
  slowReadmissionPolicy : SlowReadmissionPolicy
  deriving DecidableEq

inductive QueueClass where
  | waiting
  | demoted
  | paused
  | active
  | stopped
  deriving DecidableEq

structure QueueOrder where
  queueClass : QueueClass
  order : List Gid
  deriving DecidableEq

structure SlowReadmissionDecision where
  readmitAt : MonotonicInstant
  scheduledAtMs : U64
  delayMs : U64
  deriving DecidableEq

structure SlowSlotPersistence where
  originalPosition : ℕ
  demotionCount : U32
  decision : SlowReadmissionDecision
  deriving DecidableEq

inductive SlotOwnership where
  | none
  | reserved
  | active
  | retryRetained
  deriving DecidableEq

namespace SlotOwnership

def ownsSlot : SlotOwnership → Bool
  | none => false
  | _ => true

@[simp] theorem ownsSlot_eq_false {slot : SlotOwnership} : slot.ownsSlot = false ↔ slot = none := by
  cases slot <;> simp [ownsSlot]

@[simp] theorem ownsSlot_eq_true {slot : SlotOwnership} : slot.ownsSlot = true ↔ slot ≠ none := by
  cases slot <;> simp [ownsSlot]

end SlotOwnership

inductive DrainTarget where
  | paused
  | pausedSlow
  | waiting
  | waitingSlow
  | pausedRestarting
  | error
  | removed
  deriving DecidableEq

namespace DrainTarget

def state : DrainTarget → TaskState
  | paused => .paused
  | pausedSlow => .pausedSlow
  | waiting => .waiting
  | waitingSlow => .waitingSlow
  | pausedRestarting => .pausedRestarting
  | error => .error
  | removed => .removed

end DrainTarget

/-- An asynchronous durability or cancellation acknowledgement still required. -/
inductive PendingBarrier where
  | generationPersistence (generation : Generation)
  | cancellationDrain (generation : Generation) (target : DrainTarget) (force : Bool)
  | terminalPersistence (generation : Generation) (status : Aria2Status)
  | optionPatchPersistence (generation : Generation) (patchId : OptionPatchId)
  | optionPatchApplication (generation : Generation) (patchId : OptionPatchId)
  | hostKeyResolution (generation : Generation) (resolutionId : HostKeyResolutionId)
      (challenge : HostKeyChallengeId)
  | stoppedResultDeletion (generation : Generation) (deletionId : StoppedResultDeletionId)
  deriving DecidableEq

inductive ValidatedOptionPatchKind where
  | inPlace
  | activeRestart
  | matchingHostKey (challenge : HostKeyChallengeId) (fingerprintSha256 : HostKeyFingerprint)
  deriving DecidableEq

inductive SchedulerCommand where
  | addValidatedTask (taskId : TaskId) (gid : Gid) (desiredPaused : Bool)
      (conditions : TaskConditions)
  | addValidatedTaskAt (taskId : TaskId) (gid : Gid) (desiredPaused : Bool)
      (conditions : TaskConditions) (position : ℕ)
  | pause (gid : Gid) (force : Bool)
  | resume (gid : Gid)
  | approveHostKey (gid : Gid) (challenge : HostKeyChallengeId)
      (fingerprintSha256 : HostKeyFingerprint)
  | applyOptionPatch (gid : Gid) (patchId : OptionPatchId) (kind : ValidatedOptionPatchKind)
      (satisfiesCredentials : Option CredentialRequirementKey)
  | beginSourceReplacement (gid : Gid)
  | commitSourceReplacement (gid : Gid)
      (satisfiesCredentials : Option CredentialRequirementKey)
  | remove (gid : Gid) (force : Bool)
  | removeStoppedResult (gid : Gid)
  | changePosition (gid : Gid) (position : ℕ)
  | orderlyShutdown
  deriving DecidableEq

/-! ## Task events -/

inductive NoSpaceProbeOrigin where
  | explicitResume
  | automaticRetry
  deriving DecidableEq

/-- What an asynchronous result reports, without its task and generation. -/
inductive TaskEventBody where
  | generationPersisted
  | optionPatchPersisted (patchId : OptionPatchId)
  | optionPatchPersistenceFailed (patchId : OptionPatchId)
  | optionPatchApplied (patchId : OptionPatchId)
  | optionPatchApplicationFailed (patchId : OptionPatchId) (error : PublicError)
  | allocationSucceeded
  | allocationRetryable (retryAt : MonotonicInstant)
  | activeHostKeyChallenge (challenge : PresentedHostKeyChallenge)
  | allocationHostKeyChallenge (challenge : PresentedHostKeyChallenge)
  | allocationFailed (error : PublicError)
  | retryReady (retryTimerId : RetryTimerId)
  | activeRetryIdle (retryAt : MonotonicInstant)
  | activeRepresentationRestart
  | dataComplete (seed : Bool)
  | noSpace (condition : NoSpaceCondition)
  | terminalFailure (error : PublicError)
  | slowDemoted (decision : SlowReadmissionDecision)
  | slowPaused
  | readmitSlow (readmissionId : SlowReadmissionId)
  | verificationSucceeded
  | verificationRecoverable
  | verificationFailed (error : PublicError)
  | seedingComplete
  | seedingFailed (error : PublicError)
  | cancellationDrained
  | noSpaceProbeCompleted (probeId : NoSpaceProbeId) (origin : NoSpaceProbeOrigin)
      (ready : Bool) (nextRetryAt : Option MonotonicInstant)
  | terminalPersisted (status : Aria2Status)
  | hostKeyResolutionPersisted (resolutionId : HostKeyResolutionId)
  | hostKeyResolutionFailed (resolutionId : HostKeyResolutionId)
  | stoppedResultDeleted (deletionId : StoppedResultDeletionId)
  | stoppedResultDeletionFailed (deletionId : StoppedResultDeletionId)
  deriving DecidableEq

structure TaskEvent where
  gid : Gid
  generation : Generation
  body : TaskEventBody
  deriving DecidableEq

structure TaskEventEnvelope where
  taskId : TaskId
  event : TaskEvent
  deriving DecidableEq

/-- Typed identity carried by events that may outlive the state which scheduled them. -/
inductive TaskEventToken where
  | retryTimer (id : RetryTimerId)
  | slowReadmission (id : SlowReadmissionId)
  | noSpaceProbe (id : NoSpaceProbeId)
  | optionPatch (id : OptionPatchId)
  | hostKeyResolution (id : HostKeyResolutionId)
  | stoppedResultDeletion (id : StoppedResultDeletionId)
  deriving DecidableEq

inductive TaskEventKind where
  | generationPersisted
  | optionPatchPersisted
  | optionPatchPersistenceFailed
  | optionPatchApplied
  | optionPatchApplicationFailed
  | allocationSucceeded
  | allocationRetryable
  | activeHostKeyChallenge
  | allocationHostKeyChallenge
  | allocationFailed
  | retryReady
  | activeRetryIdle
  | activeRepresentationRestart
  | dataComplete
  | bitTorrentPayloadComplete
  | noSpace
  | terminalFailure
  | slowDemoted
  | slowPaused
  | readmitSlow
  | verificationSucceeded
  | verificationRecoverable
  | verificationFailed
  | seedingComplete
  | seedingFailed
  | cancellationDrained
  | noSpaceProbeCompleted
  | terminalPersisted
  | hostKeyResolutionPersisted
  | hostKeyResolutionFailed
  | stoppedResultDeleted
  | stoppedResultDeletionFailed
  deriving DecidableEq

namespace TaskEventKind

def code : TaskEventKind → String
  | generationPersisted => "generation_persisted"
  | optionPatchPersisted => "option_patch_persisted"
  | optionPatchPersistenceFailed => "option_patch_persistence_failed"
  | optionPatchApplied => "option_patch_applied"
  | optionPatchApplicationFailed => "option_patch_application_failed"
  | allocationSucceeded => "allocation_succeeded"
  | allocationRetryable => "allocation_retryable"
  | activeHostKeyChallenge => "active_host_key_challenge"
  | allocationHostKeyChallenge => "allocation_host_key_challenge"
  | allocationFailed => "allocation_failed"
  | retryReady => "retry_ready"
  | activeRetryIdle => "active_retry_idle"
  | activeRepresentationRestart => "active_representation_restart"
  | dataComplete => "data_complete"
  | bitTorrentPayloadComplete => "bt_payload_complete"
  | noSpace => "no_space"
  | terminalFailure => "terminal_failure"
  | slowDemoted => "slow_demoted"
  | slowPaused => "slow_paused"
  | readmitSlow => "slow_readmit"
  | verificationSucceeded => "verification_succeeded"
  | verificationRecoverable => "verification_recoverable"
  | verificationFailed => "verification_failed"
  | seedingComplete => "seeding_complete"
  | seedingFailed => "seeding_failed"
  | cancellationDrained => "cancellation_drained"
  | noSpaceProbeCompleted => "no_space_probe_completed"
  | terminalPersisted => "terminal_persisted"
  | hostKeyResolutionPersisted => "host_key_resolution_persisted"
  | hostKeyResolutionFailed => "host_key_resolution_failed"
  | stoppedResultDeleted => "stopped_result_deleted"
  | stoppedResultDeletionFailed => "stopped_result_deletion_failed"

end TaskEventKind

namespace TaskEventBody

def kind : TaskEventBody → TaskEventKind
  | generationPersisted => .generationPersisted
  | optionPatchPersisted _ => .optionPatchPersisted
  | optionPatchPersistenceFailed _ => .optionPatchPersistenceFailed
  | optionPatchApplied _ => .optionPatchApplied
  | optionPatchApplicationFailed _ _ => .optionPatchApplicationFailed
  | allocationSucceeded => .allocationSucceeded
  | allocationRetryable _ => .allocationRetryable
  | activeHostKeyChallenge _ => .activeHostKeyChallenge
  | allocationHostKeyChallenge _ => .allocationHostKeyChallenge
  | allocationFailed _ => .allocationFailed
  | retryReady _ => .retryReady
  | activeRetryIdle _ => .activeRetryIdle
  | activeRepresentationRestart => .activeRepresentationRestart
  | dataComplete false => .dataComplete
  | dataComplete true => .bitTorrentPayloadComplete
  | noSpace _ => .noSpace
  | terminalFailure _ => .terminalFailure
  | slowDemoted _ => .slowDemoted
  | slowPaused => .slowPaused
  | readmitSlow _ => .readmitSlow
  | verificationSucceeded => .verificationSucceeded
  | verificationRecoverable => .verificationRecoverable
  | verificationFailed _ => .verificationFailed
  | seedingComplete => .seedingComplete
  | seedingFailed _ => .seedingFailed
  | cancellationDrained => .cancellationDrained
  | noSpaceProbeCompleted _ _ _ _ => .noSpaceProbeCompleted
  | terminalPersisted _ => .terminalPersisted
  | hostKeyResolutionPersisted _ => .hostKeyResolutionPersisted
  | hostKeyResolutionFailed _ => .hostKeyResolutionFailed
  | stoppedResultDeleted _ => .stoppedResultDeleted
  | stoppedResultDeletionFailed _ => .stoppedResultDeletionFailed

/-- The scheduler-issued identity of an acknowledgement or timer, if it has one. -/
def token : TaskEventBody → Option TaskEventToken
  | retryReady id => some (.retryTimer id)
  | readmitSlow id => some (.slowReadmission id)
  | noSpaceProbeCompleted id _ _ _ => some (.noSpaceProbe id)
  | optionPatchPersisted id => some (.optionPatch id)
  | optionPatchPersistenceFailed id => some (.optionPatch id)
  | optionPatchApplied id => some (.optionPatch id)
  | optionPatchApplicationFailed id _ => some (.optionPatch id)
  | hostKeyResolutionPersisted id => some (.hostKeyResolution id)
  | hostKeyResolutionFailed id => some (.hostKeyResolution id)
  | stoppedResultDeleted id => some (.stoppedResultDeletion id)
  | stoppedResultDeletionFailed id => some (.stoppedResultDeletion id)
  | _ => none

end TaskEventBody

namespace TaskEvent

def kind (event : TaskEvent) : TaskEventKind := event.body.kind

def token (event : TaskEvent) : Option TaskEventToken := event.body.token

end TaskEvent

end Ariax
