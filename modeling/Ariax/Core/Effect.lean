import Ariax.Core.Transition

/-!
# Effects, outcomes and errors

The ordered work the scheduler hands to persistence, worker, timer and
snapshot adapters, and the result type of one scheduler operation
(`command.rs`).
-/

namespace Ariax

inductive TransitionEffectKind where
  | persistTask
  | persistQueueTransition
  | stageOptionPatch
  | applyOptionPatch
  | persistGenerationStarted
  | startAllocation
  | cancelGeneration
  | releaseSlot
  | scheduleRetry
  | cancelRetry
  | scheduleSlowReadmission
  | cancelSlowReadmission
  | probeNoSpace
  | persistConditions
  | persistHostKeyChallenge
  | persistHostKeyPinAndClearChallenge
  | persistHostKeyChallengeRejected
  | persistTerminal
  | deleteStoppedTaskMetadata
  | publishSnapshot
  deriving DecidableEq

structure TransitionEffectIdentity where
  taskId : TaskId
  gid : Gid
  kind : TransitionEffectKind
  generation : Option Generation
  token : Option TaskEventToken
  deriving DecidableEq

inductive TransitionEffect where
  | persistTask (taskId : TaskId) (gid : Gid) (queue : QueueClass) (position : ℕ)
      (desiredPaused : Bool) (slowDemotionCount : U32) (conditions : TaskConditions)
  | persistQueueTransition (taskId : TaskId) (gid : Gid) (fromClass toClass : Option QueueClass)
      (desiredPaused : Bool) (slowDemotionCount : U32) (slowSlot : Option SlowSlotPersistence)
      (orders : List QueueOrder)
  | stageOptionPatch (taskId : TaskId) (gid : Gid) (patchId : OptionPatchId)
      (satisfiesCredentials : Option CredentialRequirementKey)
  | applyOptionPatch (taskId : TaskId) (gid : Gid) (patchId : OptionPatchId)
      (satisfiesCredentials : Option CredentialRequirementKey)
  | persistGenerationStarted (taskId : TaskId) (gid : Gid) (generation : Generation)
  | startAllocation (taskId : TaskId) (gid : Gid) (generation : Generation)
  | cancelGeneration (taskId : TaskId) (gid : Gid) (generation : Generation) (force : Bool)
  | releaseSlot (taskId : TaskId) (gid : Gid) (ownership : SlotOwnership)
  | scheduleRetry (taskId : TaskId) (gid : Gid) (generation : Generation)
      (retryTimerId : RetryTimerId) (instant : MonotonicInstant)
  | cancelRetry (taskId : TaskId) (gid : Gid) (generation : Generation)
      (retryTimerId : RetryTimerId)
  | scheduleSlowReadmission (taskId : TaskId) (gid : Gid) (generation : Generation)
      (readmissionId : SlowReadmissionId) (instant : MonotonicInstant)
  | cancelSlowReadmission (taskId : TaskId) (gid : Gid) (generation : Generation)
      (readmissionId : SlowReadmissionId)
  | probeNoSpace (taskId : TaskId) (gid : Gid) (generation : Generation)
      (probeId : NoSpaceProbeId) (origin : NoSpaceProbeOrigin) (instant : MonotonicInstant)
  | persistConditions (taskId : TaskId) (gid : Gid) (conditions : TaskConditions)
  | persistHostKeyChallenge (taskId : TaskId) (gid : Gid)
      (challenge : PresentedHostKeyChallenge)
  | persistHostKeyPinAndClearChallenge (taskId : TaskId) (gid : Gid)
      (resolutionId : HostKeyResolutionId) (challenge : HostKeyChallengeId)
      (fingerprintSha256 : HostKeyFingerprint) (presentedPublicKey : List UInt8)
      (optionPatch : Option OptionPatchId)
  | persistHostKeyChallengeRejected (taskId : TaskId) (gid : Gid)
      (challenge : HostKeyChallengeId)
  | persistTerminal (taskId : TaskId) (gid : Gid) (generation : Generation)
      (status : Aria2Status) (error : Option PublicError) (fromClass toClass : QueueClass)
      (desiredPaused : Bool) (slowDemotionCount : U32) (slowSlot : Option SlowSlotPersistence)
      (orders : List QueueOrder)
  | deleteStoppedTaskMetadata (taskId : TaskId) (gid : Gid)
      (deletionId : StoppedResultDeletionId) (remainingOrder : List Gid)
  | publishSnapshot (taskId : TaskId) (snapshot : TaskSnapshot)
  deriving DecidableEq

namespace TransitionEffect

def kind : TransitionEffect → TransitionEffectKind
  | persistTask .. => .persistTask
  | persistQueueTransition .. => .persistQueueTransition
  | stageOptionPatch .. => .stageOptionPatch
  | applyOptionPatch .. => .applyOptionPatch
  | persistGenerationStarted .. => .persistGenerationStarted
  | startAllocation .. => .startAllocation
  | cancelGeneration .. => .cancelGeneration
  | releaseSlot .. => .releaseSlot
  | scheduleRetry .. => .scheduleRetry
  | cancelRetry .. => .cancelRetry
  | scheduleSlowReadmission .. => .scheduleSlowReadmission
  | cancelSlowReadmission .. => .cancelSlowReadmission
  | probeNoSpace .. => .probeNoSpace
  | persistConditions .. => .persistConditions
  | persistHostKeyChallenge .. => .persistHostKeyChallenge
  | persistHostKeyPinAndClearChallenge .. => .persistHostKeyPinAndClearChallenge
  | persistHostKeyChallengeRejected .. => .persistHostKeyChallengeRejected
  | persistTerminal .. => .persistTerminal
  | deleteStoppedTaskMetadata .. => .deleteStoppedTaskMetadata
  | publishSnapshot .. => .publishSnapshot

def taskId : TransitionEffect → TaskId
  | persistTask taskId .. => taskId
  | persistQueueTransition taskId .. => taskId
  | stageOptionPatch taskId .. => taskId
  | applyOptionPatch taskId .. => taskId
  | persistGenerationStarted taskId .. => taskId
  | startAllocation taskId .. => taskId
  | cancelGeneration taskId .. => taskId
  | releaseSlot taskId .. => taskId
  | scheduleRetry taskId .. => taskId
  | cancelRetry taskId .. => taskId
  | scheduleSlowReadmission taskId .. => taskId
  | cancelSlowReadmission taskId .. => taskId
  | probeNoSpace taskId .. => taskId
  | persistConditions taskId .. => taskId
  | persistHostKeyChallenge taskId .. => taskId
  | persistHostKeyPinAndClearChallenge taskId .. => taskId
  | persistHostKeyChallengeRejected taskId .. => taskId
  | persistTerminal taskId .. => taskId
  | deleteStoppedTaskMetadata taskId .. => taskId
  | publishSnapshot taskId _ => taskId

def gid : TransitionEffect → Gid
  | persistTask _ gid .. => gid
  | persistQueueTransition _ gid .. => gid
  | stageOptionPatch _ gid .. => gid
  | applyOptionPatch _ gid .. => gid
  | persistGenerationStarted _ gid _ => gid
  | startAllocation _ gid _ => gid
  | cancelGeneration _ gid .. => gid
  | releaseSlot _ gid _ => gid
  | scheduleRetry _ gid .. => gid
  | cancelRetry _ gid .. => gid
  | scheduleSlowReadmission _ gid .. => gid
  | cancelSlowReadmission _ gid .. => gid
  | probeNoSpace _ gid .. => gid
  | persistConditions _ gid _ => gid
  | persistHostKeyChallenge _ gid _ => gid
  | persistHostKeyPinAndClearChallenge _ gid .. => gid
  | persistHostKeyChallengeRejected _ gid _ => gid
  | persistTerminal _ gid .. => gid
  | deleteStoppedTaskMetadata _ gid .. => gid
  | publishSnapshot _ snapshot => snapshot.gid

def generation : TransitionEffect → Option Generation
  | persistGenerationStarted _ _ generation => some generation
  | startAllocation _ _ generation => some generation
  | cancelGeneration _ _ generation _ => some generation
  | scheduleRetry _ _ generation .. => some generation
  | cancelRetry _ _ generation _ => some generation
  | scheduleSlowReadmission _ _ generation .. => some generation
  | cancelSlowReadmission _ _ generation _ => some generation
  | probeNoSpace _ _ generation .. => some generation
  | persistTerminal _ _ generation .. => some generation
  | publishSnapshot _ snapshot => some snapshot.generation
  | _ => none

def token : TransitionEffect → Option TaskEventToken
  | stageOptionPatch _ _ patchId _ => some (.optionPatch patchId)
  | applyOptionPatch _ _ patchId _ => some (.optionPatch patchId)
  | scheduleRetry _ _ _ retryTimerId _ => some (.retryTimer retryTimerId)
  | cancelRetry _ _ _ retryTimerId => some (.retryTimer retryTimerId)
  | scheduleSlowReadmission _ _ _ readmissionId _ => some (.slowReadmission readmissionId)
  | cancelSlowReadmission _ _ _ readmissionId => some (.slowReadmission readmissionId)
  | probeNoSpace _ _ _ probeId .. => some (.noSpaceProbe probeId)
  | persistHostKeyPinAndClearChallenge _ _ resolutionId .. =>
    some (.hostKeyResolution resolutionId)
  | deleteStoppedTaskMetadata _ _ deletionId _ => some (.stoppedResultDeletion deletionId)
  | _ => none

def identity (effect : TransitionEffect) : TransitionEffectIdentity where
  taskId := effect.taskId
  gid := effect.gid
  kind := effect.kind
  generation := effect.generation
  token := effect.token

end TransitionEffect

inductive SchedulerError where
  | taskLimitReached
  | gidCollision
  | taskIdCollision
  | optionPatchIdCollision
  | taskNotFound
  | activeLimitReached
  | noEligibleTask
  | invalidPosition (position queueLen : ℕ)
  | staleGeneration (expected actual : Generation)
  | conflict (state : TaskState) (operation : String)
  | pendingBarrier (barrier : PendingBarrier) (operation : String)
  | generationExhausted
  | hostKeyApprovalRequired
  | staleChallenge
  | staleCredentialRequirement
  | invalidTaskConditions
  | invalidSlowReadmissionDecision
  | invalidTerminalAcknowledgement
  | shutdownBatchRequired
  | effectLimitExceeded
  | internalInvariant
  deriving DecidableEq

structure SchedulerOutcome where
  transition : Option StateTransition
  deletion : Option TaskDeletion
  effects : List TransitionEffect
  deriving DecidableEq

namespace SchedulerOutcome

def checked (transition : Option StateTransition) (deletion : Option TaskDeletion)
    (effects : List TransitionEffect) : Except SchedulerError SchedulerOutcome :=
  if maxSchedulerEffects < effects.length then
    .error .effectLimitExceeded
  else
    .ok { transition, deletion, effects }

theorem eq_of_checked {transition : Option StateTransition} {deletion : Option TaskDeletion}
    {effects : List TransitionEffect} {outcome : SchedulerOutcome}
    (h : checked transition deletion effects = .ok outcome) :
    outcome = ⟨transition, deletion, effects⟩ := by
  unfold checked at h
  split at h <;> cases h
  rfl

def noop : SchedulerOutcome := ⟨none, none, []⟩

end SchedulerOutcome

end Ariax
