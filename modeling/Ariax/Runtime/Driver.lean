import Ariax.Lib.Machine
import Ariax.Runtime.StatusSnapshot
import Ariax.Scheduler.Restore

/-!
# The scheduler driver

The single mutable owner of the scheduler, of ordered effect dispatch and of
status publication (`scheduler_driver.rs`). An external input is applied to
the scheduler at once; polls then dispatch the effects of its outcome to the
sink one at a time, apply the acknowledgements that the sink returns, and
publish the staged status root when nothing is left to do.
-/

namespace Ariax

inductive Poll (α : Type) where
  | pending
  | ready (value : α)

/-- One effect with the task generation and the sequence number expected by its completion. -/
structure DispatchedEffect where
  dispatchId : EffectDispatchId
  taskGeneration : Generation
  effect : TransitionEffect
  deriving DecidableEq

def DispatchedEffect.identity (dispatched : DispatchedEffect) : TransitionEffectIdentity :=
  dispatched.effect.identity

inductive EffectSinkError where
  | closed
  | failed
  deriving DecidableEq

inductive EffectCompletion where
  | completed (dispatchId : EffectDispatchId) (acknowledgement : Option TaskEventEnvelope)
  | unrepresentableFailure (dispatchId : EffectDispatchId)
  deriving DecidableEq

def EffectCompletion.dispatchId : EffectCompletion → EffectDispatchId
  | completed dispatchId _ => dispatchId
  | unrepresentableFailure dispatchId => dispatchId

/-- Nonblocking adapter contract used by the scheduler owner. -/
class SchedulerEffectSink (σ : Type) where
  /-- `pending` means that the exact effect must be offered again later. -/
  pollDispatch : DispatchedEffect → σ → Poll (Except EffectSinkError Unit) × σ
  /-- The next completion for an already accepted effect. -/
  pollCompletion : σ → Poll EffectCompletion × σ

inductive SchedulerDriverFault where
  | dispatchIdExhausted
  | effectTaskMissing (identity : TransitionEffectIdentity)
  | effectTaskIdentityMismatch (identity : TransitionEffectIdentity) (actualTaskId : TaskId)
  | effectGenerationMismatch (identity : TransitionEffectIdentity) (actualGeneration : Generation)
  | sinkClosed (dispatchId : EffectDispatchId) (identity : TransitionEffectIdentity)
  | sinkFailed (dispatchId : EffectDispatchId) (identity : TransitionEffectIdentity)
  | unrepresentableEffectFailure (dispatchId : EffectDispatchId)
      (identity : TransitionEffectIdentity)
  | completionOutOfOrder (expected actual : EffectDispatchId)
  | missingAcknowledgement (dispatchId : EffectDispatchId) (identity : TransitionEffectIdentity)
  | unexpectedAcknowledgement (dispatchId : EffectDispatchId)
      (identity : TransitionEffectIdentity) (eventKind : TaskEventKind)
  | mismatchedAcknowledgement (dispatchId : EffectDispatchId)
      (identity : TransitionEffectIdentity) (eventTaskId : TaskId) (eventGid : Gid)
      (eventKind : TaskEventKind)
  | scheduler (error : SchedulerError)
  | snapshot (error : StatusSnapshotError)
  | internalInvariant
  deriving DecidableEq

inductive SchedulerDriverInputError where
  | busy
  | faulted (fault : SchedulerDriverFault)
  | restorePlanMismatch
  | scheduler (error : SchedulerError)
  | snapshot (error : StatusSnapshotError)
  deriving DecidableEq

inductive SchedulerDriverPoll where
  | idle
  | progressed
  | backpressured (dispatchId : EffectDispatchId)
  | waitingForCompletion (dispatchId : EffectDispatchId)
  | completed (revision : U64) (published : Bool)
  | faulted (fault : SchedulerDriverFault)
  deriving DecidableEq

/-! ## Acknowledgements -/

/-- The events that may acknowledge an effect; most effects have none. -/
def acknowledgementKinds : TransitionEffectKind → List TaskEventKind
  | .stageOptionPatch => [.optionPatchPersisted, .optionPatchPersistenceFailed]
  | .applyOptionPatch => [.optionPatchApplied, .optionPatchApplicationFailed]
  | .persistGenerationStarted => [.generationPersisted]
  | .persistHostKeyPinAndClearChallenge =>
    [.hostKeyResolutionPersisted, .hostKeyResolutionFailed]
  | .persistTerminal => [.terminalPersisted]
  | .deleteStoppedTaskMetadata => [.stoppedResultDeleted, .stoppedResultDeletionFailed]
  | .persistTask | .persistQueueTransition | .startAllocation | .cancelGeneration | .releaseSlot
  | .scheduleRetry | .cancelRetry | .scheduleSlowReadmission | .cancelSlowReadmission
  | .probeNoSpace | .persistConditions | .persistHostKeyChallenge
  | .persistHostKeyChallengeRejected | .publishSnapshot => []

def terminalStatusMatches : TransitionEffect → TaskEventBody → Bool
  | .persistTerminal _ _ _ status .., .terminalPersisted acknowledged => status = acknowledged
  | .persistTerminal .., _ => false
  | _, _ => true

/-- A completion must carry the acknowledgement that its effect requires. The
faults are those of `AcknowledgementFault::with_dispatch_id`. -/
def validateAcknowledgement (dispatched : DispatchedEffect)
    (acknowledgement : Option TaskEventEnvelope) (dispatchId : EffectDispatchId) :
    Except SchedulerDriverFault Unit :=
  let identity := dispatched.identity
  let required := acknowledgementKinds identity.kind
  match acknowledgement with
  | none =>
    if required.isEmpty then .ok () else .error (.missingAcknowledgement dispatchId identity)
  | some acknowledgement =>
    let event := acknowledgement.event
    let ownerMatches := acknowledgement.taskId = identity.taskId ∧ event.gid = identity.gid ∧
      event.generation = dispatched.taskGeneration
    let tokenMatches := identity.token.isNone ∨ event.token = identity.token
    if required.isEmpty then
      .error (.unexpectedAcknowledgement dispatchId identity event.kind)
    else if event.kind ∉ required ∨ ¬ownerMatches ∨ ¬tokenMatches ∨
        ¬terminalStatusMatches dispatched.effect event.body then
      .error (.mismatchedAcknowledgement dispatchId identity acknowledgement.taskId event.gid
        event.kind)
    else
      .ok ()

/-! ## The driver -/

/-- An outcome whose effects are being dispatched, and the next of them. -/
structure PendingOutcome where
  outcome : SchedulerOutcome
  nextEffect : ℕ

structure SchedulerDriver (σ : Type) where
  scheduler : RequestScheduler
  sink : σ
  snapshots : StatusSnapshotStore
  pending : Option PendingOutcome
  offered : Option DispatchedEffect
  inFlight : Option DispatchedEffect
  acknowledgements : List TaskEventEnvelope
  draft : Option StatusSnapshotDraft
  restorePlan : Option SchedulerRestorePlan
  fault : Option SchedulerDriverFault

/-- `NEXT_EFFECT_DISPATCH_ID`, the allocator that all drivers of a process share. -/
abbrev DispatchCounter := U64

/-- The next identifier and the counter it leaves, which stops at zero. -/
def allocateEffectDispatchId (counter : DispatchCounter) :
    Option (EffectDispatchId × DispatchCounter) :=
  (NonzeroId.new counter).map fun dispatchId => (dispatchId, (checkedSucc counter).getD 0)

namespace SchedulerDriver

variable {σ : Type}

def new (scheduler : RequestScheduler) (sink : σ) : SchedulerDriver σ where
  scheduler := scheduler
  sink := sink
  snapshots := .new
  pending := none
  offered := none
  inFlight := none
  acknowledgements := []
  draft := none
  restorePlan := none
  fault := none

section

variable (self : SchedulerDriver σ)

def isIdle : Bool :=
  self.fault.isNone && self.pending.isNone && self.offered.isNone && self.inFlight.isNone &&
    self.acknowledgements.isEmpty && self.draft.isNone && self.restorePlan.isNone

def fail (fault : SchedulerDriverFault) : SchedulerDriverPoll × SchedulerDriver σ :=
  (.faulted fault, { self with fault := some fault })

/-! ## External inputs -/

def ensureInputReady : Except SchedulerDriverInputError Unit :=
  match self.fault with
  | some fault => .error (.faulted fault)
  | none => if self.isIdle then .ok () else .error .busy

def beginChain (outcome : SchedulerOutcome) : SchedulerDriver σ :=
  { self with draft := some self.snapshots.draft, pending := some ⟨outcome, 0⟩ }

/-- The common body of the inputs that call the scheduler. -/
def accept (call : RequestScheduler → SchedulerResult) :
    Except SchedulerDriverInputError Unit × SchedulerDriver σ :=
  match self.ensureInputReady with
  | .error error => (.error error, self)
  | .ok () =>
    match call self.scheduler with
    | (.error error, scheduler) => (.error (.scheduler error), { self with scheduler })
    | (.ok outcome, scheduler) => (.ok (), { self with scheduler }.beginChain outcome)

def executeCommandAt (command : SchedulerCommand) (instant : MonotonicInstant) :
    Except SchedulerDriverInputError Unit × SchedulerDriver σ :=
  self.accept (·.executeCommandAt command instant)

def handleEventAt (event : TaskEventEnvelope) (instant : MonotonicInstant) :
    Except SchedulerDriverInputError Unit × SchedulerDriver σ :=
  self.accept (·.handleEventAt event instant)

def admitNextAt (instant : MonotonicInstant) :
    Except SchedulerDriverInputError Unit × SchedulerDriver σ :=
  self.accept (·.admitNextAt instant)

def configureQueuePolicies (retryWaitHoldsSlot : Bool)
    (slowReadmissionPolicy : SlowReadmissionPolicy) :
    Except SchedulerDriverInputError Unit × SchedulerDriver σ :=
  match self.ensureInputReady with
  | .error error => (.error error, self)
  | .ok () =>
    (.ok (), { self with
      scheduler := self.scheduler.configureQueuePolicies retryWaitHoldsSlot
        slowReadmissionPolicy })

def failControlPublication : SchedulerDriver σ :=
  (self.fail .internalInvariant).2

def openRestore (plan : SchedulerRestorePlan) :
    Except SchedulerDriverInputError (SchedulerDriver σ) := do
  self.ensureInputReady
  rejectIf (!plan.isBoundTo self.scheduler) .restorePlanMismatch
  let draft ← (self.snapshots.recoveredDraft self.scheduler).mapError .snapshot
  let first ← (SchedulerOutcome.checked none none plan.nextBatch.1).mapError .scheduler
  return { self with
    draft := some draft, restorePlan := some plan.nextBatch.2, pending := some ⟨first, 0⟩ }

def beginRestore (plan : SchedulerRestorePlan) :
    Except SchedulerDriverInputError Unit × SchedulerDriver σ :=
  match self.openRestore plan with
  | .error error => (.error error, self)
  | .ok driver => (.ok (), driver)

/-! ## Polls -/

/-- An effect owns a pending outcome, so the source's `expect` does not fire. -/
def advanceEffectCursor : SchedulerDriver σ :=
  { self with pending := self.pending.map fun pending =>
      { pending with nextEffect := pending.nextEffect + 1 } }

def validateEffectOwner (identity : TransitionEffectIdentity) :
    Except SchedulerDriverFault Generation :=
  match self.scheduler.task identity.gid with
  | none => .error (.effectTaskMissing identity)
  | some task =>
    if task.taskId ≠ identity.taskId then
      .error (.effectTaskIdentityMismatch identity task.taskId)
    else if identity.generation.any (· ≠ task.generation) then
      .error (.effectGenerationMismatch identity task.generation)
    else
      .ok task.generation

def applyAcknowledgement (acknowledgement : TaskEventEnvelope) (instant : MonotonicInstant) :
    SchedulerDriverPoll × SchedulerDriver σ :=
  match self.scheduler.handleEventAt acknowledgement instant with
  | (.ok outcome, scheduler) =>
    (.progressed, { self with scheduler, pending := some ⟨outcome, 0⟩ })
  | (.error error, scheduler) => { self with scheduler }.fail (.scheduler error)

def continueRestore : SchedulerDriverPoll × SchedulerDriver σ :=
  match self.restorePlan with
  | none => (.progressed, self)
  | some plan =>
    if plan.nextBatch.1.isEmpty then
      (.progressed, { self with restorePlan := none })
    else
      match SchedulerOutcome.checked none none plan.nextBatch.1 with
      | .ok outcome =>
        (.progressed, { self with
          restorePlan := some plan.nextBatch.2, pending := some ⟨outcome, 0⟩ })
      | .error error => { self with restorePlan := some plan.nextBatch.2 }.fail (.scheduler error)

/-- What follows an outcome whose effects have all completed. -/
def afterOutcome (instant : MonotonicInstant) : SchedulerDriverPoll × SchedulerDriver σ :=
  match self.acknowledgements with
  | acknowledgement :: acknowledgements =>
    { self with acknowledgements }.applyAcknowledgement acknowledgement instant
  | [] => self.continueRestore

def finishPendingOutcome (pending : PendingOutcome) (instant : MonotonicInstant) :
    SchedulerDriverPoll × SchedulerDriver σ :=
  let taken := { self with pending := none }
  match pending.outcome.deletion with
  | none => taken.afterOutcome instant
  | some deletion =>
    match taken.draft with
    | none => taken.fail .internalInvariant
    | some draft =>
      { taken with draft := some (draft.removeTask deletion.task deletion.gid) }.afterOutcome
        instant

end

/-- What a completed effect changes in the draft of the status root. A draft
that fails half-way faults the driver, which does not read it again. -/
def stageEffect (draft : StatusSnapshotDraft) (effect : TransitionEffect)
    (acknowledgement : Option TaskEventEnvelope) :
    Except SchedulerDriverFault StatusSnapshotDraft :=
  match effect with
  | .persistTask _ gid queue position .. =>
    (draft.insertQueueMember queue position gid).mapError .snapshot
  | .persistQueueTransition _ _ _ _ _ _ _ orders | .persistTerminal _ _ _ _ _ _ _ _ _ _ orders =>
    (orders.foldlM (fun (draft : StatusSnapshotDraft) order =>
      draft.replaceQueue order.queueClass order.order) draft).mapError .snapshot
  | .deleteStoppedTaskMetadata _ _ _ remainingOrder =>
    if acknowledgement.any fun event => event.event.kind = .stoppedResultDeleted then
      (draft.replaceQueue .stopped remainingOrder).mapError .snapshot
    else
      .ok draft
  | .publishSnapshot .. => .error .internalInvariant
  | _ => .ok draft

def stageCompletedEffect (self : SchedulerDriver σ) (dispatched : DispatchedEffect)
    (acknowledgement : Option TaskEventEnvelope) :
    Except SchedulerDriverFault StatusSnapshotDraft :=
  match self.draft with
  | none => .error .internalInvariant
  | some draft => stageEffect draft dispatched.effect acknowledgement

def stageSnapshot (self : SchedulerDriver σ) (taskId : TaskId) (snapshot : TaskSnapshot) :
    Except SchedulerDriverFault StatusSnapshotDraft :=
  match self.draft with
  | none => .error .internalInvariant
  | some draft =>
    (draft.insertTaskWithView taskId snapshot (self.scheduler.task snapshot.gid)).mapError
      .snapshot

variable [SchedulerEffectSink σ]

open SchedulerEffectSink

variable (self : SchedulerDriver σ)

def pollOffered (offered : DispatchedEffect) : SchedulerDriverPoll × SchedulerDriver σ :=
  match pollDispatch offered self.sink with
  | (.pending, sink) => (.backpressured offered.dispatchId, { self with sink })
  | (.ready (.ok ()), sink) =>
    (.waitingForCompletion offered.dispatchId,
      { self with sink, offered := none, inFlight := some offered })
  | (.ready (.error .closed), sink) =>
    { self with sink }.fail (.sinkClosed offered.dispatchId offered.identity)
  | (.ready (.error .failed), sink) =>
    { self with sink }.fail (.sinkFailed offered.dispatchId offered.identity)

def pollInFlight (expected : DispatchedEffect) : SchedulerDriverPoll × SchedulerDriver σ :=
  match pollCompletion self.sink with
  | (.pending, sink) => (.waitingForCompletion expected.dispatchId, { self with sink })
  | (.ready completion, sink) =>
    let polled := { self with sink }
    if completion.dispatchId ≠ expected.dispatchId then
      polled.fail (.completionOutOfOrder expected.dispatchId completion.dispatchId)
    else
      let taken := { polled with inFlight := none }
      match completion with
      | .unrepresentableFailure dispatchId =>
        taken.fail (.unrepresentableEffectFailure dispatchId expected.identity)
      | .completed dispatchId acknowledgement =>
        let staged := do
          validateAcknowledgement expected acknowledgement dispatchId
          taken.stageCompletedEffect expected acknowledgement
        match staged with
        | .error fault => taken.fail fault
        | .ok draft =>
          (.progressed, { taken with
            draft := some draft
            acknowledgements := taken.acknowledgements ++ acknowledgement.toList
          }.advanceEffectCursor)

/-- The effect that a poll takes from the pending outcome. A snapshot is
staged at once; any other effect is offered to the sink. -/
def pollEffect (effect : TransitionEffect) (counter : DispatchCounter) :
    SchedulerDriverPoll × SchedulerDriver σ × DispatchCounter :=
  match self.validateEffectOwner effect.identity with
  | .error fault => ((self.fail fault).1, (self.fail fault).2, counter)
  | .ok taskGeneration =>
    match effect with
    | .publishSnapshot taskId snapshot =>
      match self.stageSnapshot taskId snapshot with
      | .error fault => ((self.fail fault).1, (self.fail fault).2, counter)
      | .ok draft => (.progressed, { self with draft := some draft }.advanceEffectCursor, counter)
    | effect =>
      match allocateEffectDispatchId counter with
      | none =>
        ((self.fail .dispatchIdExhausted).1, (self.fail .dispatchIdExhausted).2, counter)
      | some (dispatchId, counter) =>
        let offered : DispatchedEffect := ⟨dispatchId, taskGeneration, effect⟩
        let polled := { self with offered := some offered }.pollOffered offered
        (polled.1, polled.2, counter)

def pollPending (pending : PendingOutcome) (instant : MonotonicInstant)
    (counter : DispatchCounter) :
    SchedulerDriverPoll × SchedulerDriver σ × DispatchCounter :=
  match pending.outcome.effects[pending.nextEffect]? with
  | none =>
    let finished := self.finishPendingOutcome pending instant
    (finished.1, finished.2, counter)
  | some effect => self.pollEffect effect counter

/-- A poll with nothing to dispatch: it publishes the draft, if there is one. -/
def pollDraft : SchedulerDriverPoll × SchedulerDriver σ :=
  match self.draft with
  | none => (.idle, self)
  | some draft =>
    let taken := { self with draft := none }
    match self.snapshots.publish draft with
    | .ok (publication, snapshots) =>
      (.completed publication.revision publication.changed, { taken with snapshots })
    | .error error => taken.fail (.snapshot error)

/-- Advances at most one local effect, sink admission, sink completion, or
acknowledgement outcome. -/
def pollAt (instant : MonotonicInstant) (counter : DispatchCounter) :
    SchedulerDriverPoll × SchedulerDriver σ × DispatchCounter :=
  match self.fault, self.inFlight, self.offered, self.pending, self.acknowledgements with
  | some fault, _, _, _, _ => (.faulted fault, self, counter)
  | none, some expected, _, _, _ =>
    ((self.pollInFlight expected).1, (self.pollInFlight expected).2, counter)
  | none, none, some offered, _, _ =>
    ((self.pollOffered offered).1, (self.pollOffered offered).2, counter)
  | none, none, none, some pending, _ => self.pollPending pending instant counter
  | none, none, none, none, acknowledgement :: acknowledgements =>
    let applied := { self with acknowledgements }.applyAcknowledgement acknowledgement instant
    (applied.1, applied.2, counter)
  | none, none, none, none, [] => (self.pollDraft.1, self.pollDraft.2, counter)

end SchedulerDriver

/-! ## The process -/

structure DriverProcess (σ : Type) where
  driver : SchedulerDriver σ
  counter : DispatchCounter

/-- One call of a public operation, or an identifier taken by another driver. -/
inductive DriverInput where
  | executeCommand (command : SchedulerCommand) (instant : MonotonicInstant)
  | handleEvent (event : TaskEventEnvelope) (instant : MonotonicInstant)
  | admitNext (instant : MonotonicInstant)
  | beginRestore (plan : SchedulerRestorePlan)
  | configureQueuePolicies (retryWaitHoldsSlot : Bool)
      (slowReadmissionPolicy : SlowReadmissionPolicy)
  | failControlPublication
  | poll (instant : MonotonicInstant)
  | allocateElsewhere

inductive DriverOutput where
  | answered (result : Except SchedulerDriverInputError Unit)
  | polled (result : SchedulerDriverPoll)
  | done
  deriving DecidableEq

namespace DriverProcess

variable {σ : Type} [SchedulerEffectSink σ]

def answer (self : DriverProcess σ)
    (result : Except SchedulerDriverInputError Unit × SchedulerDriver σ) :
    DriverOutput × DriverProcess σ :=
  (.answered result.1, { self with driver := result.2 })

def apply (self : DriverProcess σ) : DriverInput → DriverOutput × DriverProcess σ
  | .executeCommand command instant => self.answer (self.driver.executeCommandAt command instant)
  | .handleEvent event instant => self.answer (self.driver.handleEventAt event instant)
  | .admitNext instant => self.answer (self.driver.admitNextAt instant)
  | .beginRestore plan => self.answer (self.driver.beginRestore plan)
  | .configureQueuePolicies retryWaitHoldsSlot slowReadmissionPolicy =>
    self.answer (self.driver.configureQueuePolicies retryWaitHoldsSlot slowReadmissionPolicy)
  | .failControlPublication => (.done, { self with driver := self.driver.failControlPublication })
  | .poll instant =>
    let polled := self.driver.pollAt instant self.counter
    (.polled polled.1, ⟨polled.2.1, polled.2.2⟩)
  | .allocateElsewhere =>
    (.done, { self with counter := ((allocateEffectDispatchId self.counter).map Prod.snd).getD 0 })

end DriverProcess

/-- A driver with its public operations, started with any scheduler and any sink. -/
def driverMachine (σ : Type) [SchedulerEffectSink σ] :
    Machine (DriverProcess σ) DriverInput DriverOutput where
  initial := {self | ∃ scheduler sink, self.driver = .new scheduler sink}
  next := DriverProcess.apply

end Ariax
