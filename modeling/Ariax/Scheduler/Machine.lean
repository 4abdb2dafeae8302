import Ariax.Scheduler.Drain

/-!
# The request scheduler

The public operations of `RequestScheduler`: construction, policy changes,
command execution, admission of the next task, and event handling. Each
takes the scheduler and returns its result with the scheduler it leaves.
-/

namespace Ariax

namespace PendingBarrier

def acceptsEvent : PendingBarrier → TaskEventKind → Bool
  | generationPersistence _, kind => kind = .generationPersisted
  | optionPatchPersistence _ _, kind =>
    kind = .optionPatchPersisted ∨ kind = .optionPatchPersistenceFailed
  | optionPatchApplication _ _, kind =>
    kind = .optionPatchApplied ∨ kind = .optionPatchApplicationFailed
  | hostKeyResolution _ _ _, kind =>
    kind = .hostKeyResolutionPersisted ∨ kind = .hostKeyResolutionFailed
  | terminalPersistence _ _, kind => kind = .terminalPersisted
  | stoppedResultDeletion _ _, kind =>
    kind = .stoppedResultDeleted ∨ kind = .stoppedResultDeletionFailed
  | cancellationDrain _ _ _, _ => true

end PendingBarrier

namespace RequestScheduler

def new (config : SchedulerConfig) : RequestScheduler where
  config := config
  tasks := ∅
  taskIds := ∅
  highestTaskId := none
  queues := {}
  publishedSnapshots := ∅
  ids := {}

variable (self : RequestScheduler)

def configureQueuePolicies (retryWaitHoldsSlot : Bool)
    (slowReadmissionPolicy : SlowReadmissionPolicy) : RequestScheduler :=
  { self with config := { self.config with retryWaitHoldsSlot, slowReadmissionPolicy } }

/-! ## Commands -/

def queueEffectsForReorder (gid : Gid) (queueClass : QueueClass) (position : ℕ) : SchedulerResult :=
  let current := self.queues.get queueClass
  if current.length ≤ position then
    (.error (.invalidPosition position current.length), self)
  else
    match current.idxOf? gid with
    | none => (.error .internalInvariant, self)
    | some oldPosition =>
      if oldPosition = position then
        (.ok .noop, self)
      else
        let order := (current.eraseIdx oldPosition).insertIdx position gid
        match self.tasks[gid]? with
        | none => (.error .taskNotFound, self)
        | some task =>
          let effect := TransitionEffect.persistQueueTransition task.taskId gid
            (some queueClass) (some queueClass) task.desiredPaused task.slowDemotionCount
            task.slowSlot [⟨queueClass, order⟩]
          match SchedulerOutcome.checked none none [effect] with
          | .error error => (.error error, self)
          | .ok outcome =>
            (.ok outcome, { self with queues := self.queues.set queueClass order })

def changePosition (gid : Gid) (position : ℕ) : SchedulerResult :=
  match self.taskClone gid with
  | .error error => (.error error, self)
  | .ok task =>
    match task.pendingBarrier with
    | some barrier => (.error (.pendingBarrier barrier "change_position"), self)
    | none =>
      match task.queueClass with
      | none => (.error (.conflict task.state "change_position"), self)
      | some queueClass =>
        match queueClass, self.rejectPendingDeletion "change_position" with
        | .stopped, .error error => (.error error, self)
        | queueClass, _ => self.queueEffectsForReorder gid queueClass position

def executeAdd (taskId : TaskId) (gid : Gid) (desiredPaused : Bool) (conditions : TaskConditions)
    (position : Option ℕ) (instant : MonotonicInstant) : SchedulerResult :=
  match self.perform
    (self.addValidatedTask taskId gid desiredPaused conditions position instant) with
  | (.ok outcome, self) => (.ok outcome, { self with highestTaskId := some taskId })
  | result => result

def executeCommandAt (command : SchedulerCommand) (instant : MonotonicInstant) : SchedulerResult :=
  match command with
  | .addValidatedTask taskId gid desiredPaused conditions =>
    self.executeAdd taskId gid desiredPaused conditions none instant
  | .addValidatedTaskAt taskId gid desiredPaused conditions position =>
    self.executeAdd taskId gid desiredPaused conditions (some position) instant
  | .pause gid force => self.perform (self.pause gid force instant)
  | .resume gid => self.perform (self.resume gid instant)
  | .beginSourceReplacement gid => self.perform (self.beginSourceReplacement gid instant)
  | .commitSourceReplacement gid satisfiesCredentials =>
    self.perform (self.commitSourceReplacement gid satisfiesCredentials instant)
  | .approveHostKey gid challenge fingerprintSha256 =>
    self.perform (self.approveHostKey gid challenge fingerprintSha256 instant)
  | .applyOptionPatch gid patchId kind satisfiesCredentials =>
    self.perform (self.applyOptionPatch gid patchId kind satisfiesCredentials instant)
  | .remove gid force => self.perform (self.remove gid force instant)
  | .removeStoppedResult gid => self.perform (self.removeStoppedResult gid instant)
  | .changePosition gid position => self.changePosition gid position
  | .orderlyShutdown => (.error .shutdownBatchRequired, self)

/-! ## Admission -/

def firstInQueue (queueClass : QueueClass) (eligible : ScheduledTask → Bool) : Option Gid :=
  (self.queues.get queueClass).find? fun gid => self.tasks[gid]?.any eligible

end RequestScheduler

namespace ScheduledTask

variable (task : ScheduledTask)

def unblocked : Bool :=
  task.pendingBarrier.isNone && !task.desiredPaused && !task.conditions.blocksAdmission

def awaitsRestartPatch : Bool :=
  decide (task.state = .waiting) && task.pendingBarrier.isNone && !task.desiredPaused &&
    task.pendingOptionPatch.isSome &&
    decide (task.pendingOptionPatchMode = some .activeRestart)

def retainedRetry : Bool :=
  decide (task.state = .retryWait) && task.retryReady && decide (task.slot = .retryRetained) &&
    task.unblocked

def isWaiting : Bool :=
  decide (task.state = .waiting) || (decide (task.state = .retryWait) && task.retryReady)

def waitingAdmissible : Bool :=
  !task.pendingSourceReplacement && task.isWaiting && task.unblocked

def isReadySlow : Bool :=
  decide (task.state = .waitingSlow) && task.slowReadmissionReady

end ScheduledTask

namespace RequestScheduler

/-- Whether an otherwise admissible task is held back by the active limit. -/
def blockedBySlots (self : RequestScheduler) : Bool :=
  self.tasks.valuesInOrder.any (fun task =>
    !task.slot.ownsSlot && task.unblocked && (task.isWaiting || task.isReadySlow)) &&
    decide (self.config.maxActiveTasks ≤ self.activeSlotCount)

def admissionCandidate (self : RequestScheduler) : Except SchedulerError Gid :=
  let pendingRestartPatch := self.firstInQueue .waiting ScheduledTask.awaitsRestartPatch
  let retainedRetry := self.firstInQueue .active ScheduledTask.retainedRetry
  let waiting := self.firstInQueue .waiting ScheduledTask.waitingAdmissible
  let demoted := self.firstInQueue .demoted fun task => task.isReadySlow && task.unblocked
  let preferredDemoted := demoted.filter fun gid =>
    match self.config.slowReadmissionPolicy with
    | .front => true
    | .originalPosition => self.tasks[gid]?.any fun task => task.slowRemainingPosition = 0
    | .back => false
  match pendingRestartPatch <|> retainedRetry <|> preferredDemoted <|> waiting <|> demoted with
  | some gid => .ok gid
  | none => .error (if self.blockedBySlots then .activeLimitReached else .noEligibleTask)

def admissionAction : TaskState → Except SchedulerError SchedulerAction
  | .waiting => .ok .schedulerAdmission
  | .retryWait => .ok .retryReadmissionSucceeded
  | .waitingSlow => .ok .slowReadmissionSucceeded
  | _ => .error .internalInvariant

section

variable (self : RequestScheduler)

/-- The admission of the next task, with whether it passes over ready slow tasks. -/
def planNextAdmission (instant : MonotonicInstant) : Except SchedulerError (Planned × Bool) := do
  let gid ← self.admissionCandidate
  let original ← self.taskClone gid
  if original.state = .waiting ∧ original.pendingOptionPatchMode = some .activeRestart then
    match original.pendingOptionPatch with
    | none => throw .internalInvariant
    | some patchId =>
      let draft := { original with
        pendingBarrier := some
          (.optionPatchApplication original.generation patchId) }.draft
      let draft := draft.push [.applyOptionPatch original.taskId original.gid patchId
        original.pendingCredentialRequirement]
      return (draft.finish original .restartApplicationScheduled instant false self.ids, false)
  else
    let action ← admissionAction original.state
    let draft ← self.planAdmission original.draft action
    return (draft.finish original action instant true self.ids,
      decide (original.state ≠ .waitingSlow))

def advanceSlowPositions : RequestScheduler :=
  { self with tasks := self.tasks.map fun _ task =>
      if task.slowReadmissionReady then
        { task with slowRemainingPosition := task.slowRemainingPosition - 1 }
      else
        task }

def admitNextAt (instant : MonotonicInstant) : SchedulerResult :=
  match self.planNextAdmission instant with
  | .error error => (.error error, self)
  | .ok (planned, ordinary) =>
    match self.perform (.ok planned) with
    | (.ok outcome, self) => (.ok outcome, if ordinary then self.advanceSlowPositions else self)
    | result => result

/-! ## Events -/

def dispatchEvent (original : ScheduledTask) (event : TaskEvent) (instant : MonotonicInstant) :
    Except SchedulerError Planned :=
  match event.body with
  | .generationPersisted => self.generationPersisted original event.generation instant
  | .optionPatchPersisted patchId =>
    self.optionPatchPersistenceCompleted original patchId true instant
  | .optionPatchPersistenceFailed patchId =>
    self.optionPatchPersistenceCompleted original patchId false instant
  | .optionPatchApplied patchId =>
    self.optionPatchApplicationCompleted original patchId none instant
  | .optionPatchApplicationFailed patchId error =>
    self.optionPatchApplicationCompleted original patchId (some error) instant
  | .allocationSucceeded => self.allocationSucceeded original instant
  | .allocationRetryable retryAt => self.allocationRetryable original retryAt instant
  | .allocationHostKeyChallenge challenge =>
    self.allocationHostKeyChallenge original challenge false instant
  | .activeHostKeyChallenge challenge =>
    self.allocationHostKeyChallenge original challenge true instant
  | .allocationFailed error => self.allocationFailed original error instant
  | .retryReady retryTimerId => self.retryReady original retryTimerId instant
  | .activeRetryIdle retryAt => self.activeRetryIdle original retryAt instant
  | .activeRepresentationRestart => self.activeRepresentationRestart original instant
  | .dataComplete seed => self.dataComplete original seed instant
  | .noSpace condition => self.noSpace original condition instant
  | .terminalFailure error => self.terminalFailure original error instant
  | .slowDemoted decision => self.slowDemoted original decision instant
  | .slowPaused => self.slowPaused original instant
  | .readmitSlow readmissionId => self.readmitSlow original readmissionId instant
  | .verificationSucceeded => self.verificationSucceeded original instant
  | .verificationRecoverable => self.verificationRecoverable original instant
  | .verificationFailed error => self.verificationFailed original error instant
  | .seedingComplete => self.seedingComplete original instant
  | .seedingFailed error => self.seedingFailed original error instant
  | .cancellationDrained => self.cancellationDrained original event.generation instant
  | .noSpaceProbeCompleted probeId origin ready nextRetryAt =>
    self.noSpaceProbeCompleted original probeId origin ready nextRetryAt instant
  | .terminalPersisted status =>
    self.terminalPersisted original event.generation status instant
  | .hostKeyResolutionPersisted resolutionId =>
    self.hostKeyResolutionCompleted original resolutionId true instant
  | .hostKeyResolutionFailed resolutionId =>
    self.hostKeyResolutionCompleted original resolutionId false instant
  | .stoppedResultDeleted deletionId =>
    self.stoppedResultDeletionCompleted original deletionId true instant
  | .stoppedResultDeletionFailed deletionId =>
    self.stoppedResultDeletionCompleted original deletionId false instant

end

/-- The duplicate filter for events without a token of their own. -/
def isDuplicate (original : ScheduledTask) (event : TaskEvent) : Bool :=
  event.token.isNone && decide (event.kind ≠ .terminalPersisted) &&
    decide (event.kind ∈ original.seenEvents)

def rejectInvalidEvent (event : TaskEvent) : Except SchedulerError Unit :=
  match event.body with
  | .noSpace condition =>
    match condition.validate with
    | .error _ => .error .invalidTaskConditions
    | .ok _ => .ok ()
  | _ => .ok ()

def rejectBarred (original : ScheduledTask) (event : TaskEvent) : Except SchedulerError Unit :=
  match original.pendingBarrier with
  | none => .ok ()
  | some barrier =>
    if barrier.acceptsEvent event.kind then .ok ()
    else .error (.pendingBarrier barrier event.kind.code)

variable (self : RequestScheduler) (envelope : TaskEventEnvelope) (instant : MonotonicInstant)

/-- Checks identity, generation, duplication and barrier, then dispatches. -/
def planEvent : Except SchedulerError Planned := do
  let event := envelope.event
  let original ← self.taskClone event.gid
  if original.taskId ≠ envelope.taskId then
    original.ignored .stale instant
  else
    let disposition ← generationDisposition original.generation event.generation
    if disposition ≠ .fresh then
      original.ignored disposition instant
    else if isDuplicate original event then
      original.ignored .duplicate instant
    else
      rejectBarred original event
      rejectInvalidEvent event
      self.dispatchEvent original event instant

def handleEventAt : SchedulerResult :=
  self.perform (self.planEvent envelope instant)

end RequestScheduler

end Ariax
