import Ariax.Scheduler.Machine

/-!
# The shared steps, as relations

Each step the handlers share is stated here by what it does when it
succeeds: a worker is told to stop, a probe is asked for, a deferred control
is applied, a generation is entered, a drain settles. The rows list the
events that differ only in the state they act on and in what they report.
-/

namespace Ariax

namespace TaskState

def afterPause : TaskState → TaskState
  | pausedSlow => pausedSlow
  | pausedHostKey => pausedHostKey
  | _ => paused

def afterProbeRequest : TaskState → TaskState
  | waitingSlow | pausedSlow => waiting
  | state => state

def afterSourceRequest : TaskState → TaskState
  | allocating | active | verifying | retryWait => pausedRestarting
  | state => state

def afterProbe (state : TaskState) (desiredPaused : Bool) : TaskState :=
  if state = .paused ∧ desiredPaused = false then .waiting else state

def restartable : TaskState → Bool
  | allocating | active | verifying => true
  | _ => false

end TaskState

namespace Draft

/-- The cancellation of a worker: it begins, or a running drain is retargeted. -/
inductive Cancels (draft : Draft) (force : Bool) : Bool → List TransitionEffect → Prop
  | begin (free : draft.task.pendingBarrier = none ∨
        ∃ generation, draft.task.pendingBarrier = some (.generationPersistence generation)) :
      Cancels draft force force
        [.cancelGeneration draft.task.taskId draft.task.gid draft.task.generation force]
  | retarget {target : DrainTarget} {existing : Bool}
      (draining : draft.task.pendingBarrier =
        some (.cancellationDrain draft.task.generation target existing)) :
      Cancels draft force (existing || force)
        (if force && !existing then
          [.cancelGeneration draft.task.taskId draft.task.gid draft.task.generation true]
        else [])

/-- A disk-space probe is asked for, unless one is already in flight. -/
inductive Probes (draft : Draft) (origin : NoSpaceProbeOrigin) (instant : MonotonicInstant)
    (ids : IdCounters) : Draft → IdCounters → Prop
  | inFlight (probe : draft.task.noSpaceProbe.isSome) : Probes draft origin instant ids draft ids
  | drawn {probeId : NoSpaceProbeId} {ids' : IdCounters} (idle : draft.task.noSpaceProbe = none)
      (blocked : draft.task.conditions.noSpace.isSome)
      (draw : ids.drawNoSpaceProbe = .ok (probeId, ids')) :
      Probes draft origin instant ids (draft.awaitProbe probeId origin instant) ids'

/-- A user control that waited behind a barrier is applied to the draft that
lifts the barrier. -/
inductive Controls (original : ScheduledTask) (draft : Draft) : SchedulerAction → Draft → Prop
  | pauseDraining {force : Bool}
      (control : draft.task.pendingUserControl = some (.pause force))
      (live : original.state.isTerminal = false) (noChallenge : original.state ≠ .pausedHostKey)
      (slot : draft.task.slot ≠ .none) :
      Controls original draft .deferredPauseCompleted
        (Draft.awaitDrain ⟨{ draft.task with
            pendingUserControl := none
            state := original.state.afterPause
            desiredPaused := true }, draft.effects⟩ .paused force
          [.cancelGeneration draft.task.taskId draft.task.gid draft.task.generation force])
  | pauseIdle {force : Bool}
      (control : draft.task.pendingUserControl = some (.pause force))
      (live : original.state.isTerminal = false) (noChallenge : original.state ≠ .pausedHostKey)
      (slot : draft.task.slot = .none) :
      Controls original draft .deferredPauseCompleted
        ⟨{ draft.task with
          pendingUserControl := none
          state := original.state.afterPause
          desiredPaused := true }, draft.effects⟩
  | resume (control : draft.task.pendingUserControl = some .resume)
      (paused : original.state = .paused ∨ original.state = .pausedSlow) :
      Controls original draft .deferredResumeCompleted
        (Draft.cancelTimers ⟨{ draft.task with
          pendingUserControl := none
          state := .waiting
          desiredPaused := false
          slowDemotionCount := 0 }, draft.effects⟩)
  | removeDraining {force : Bool}
      (control : draft.task.pendingUserControl = some (.remove force))
      (live : original.state.isTerminal = false) (slot : draft.task.slot ≠ .none) :
      Controls original draft .deferredRemoveCompleted
        ((draft.discard .removed).awaitDrain .removed force
          [.cancelGeneration draft.task.taskId draft.task.gid draft.task.generation force])
  | removeIdle {force : Bool}
      (control : draft.task.pendingUserControl = some (.remove force))
      (live : original.state.isTerminal = false) (slot : draft.task.slot = .none) :
      Controls original draft .deferredRemoveCompleted
        ((draft.discard .removed).awaitTerminal .removed none)

end Draft

namespace ScheduledTask

/-- The task an admission starts a generation for: a task that has started
one moves on to the next and forgets the events of the last. -/
inductive EntersGeneration (task : ScheduledTask) : ScheduledTask → Prop
  | first (fresh : task.generationStarted = false) : EntersGeneration task task
  | next {generation : Generation} (started : task.generationStarted = true)
      (succ : task.generation.checkedNext = some generation) :
      EntersGeneration task { task with generation := generation }.clearGenerationEventHistory

end ScheduledTask

/-- A task whose timer, if it waits for one, has fired. -/
structure ScheduledTask.Due (t : ScheduledTask) : Prop where
  retry : t.state = .retryWait → t.retryReady = true
  slow : t.state = .waitingSlow → t.slowReadmissionReady = true

/-- An idle, unblocked task is given a slot and a generation. -/
structure Admits (scheduler : RequestScheduler) (task entered : ScheduledTask) : Prop where
  idle : task.pendingBarrier = none
  wanted : task.desiredPaused = false
  unblocked : task.conditions.blocksAdmission = false
  slot : task.slot = .none → scheduler.activeSlotCount < scheduler.config.maxActiveTasks
  generation : task.EntersGeneration entered

def admissionDraft (entered : ScheduledTask) : Draft where
  task := entered.reserveSlot .allocating
  effects := [.persistGenerationStarted entered.taskId entered.gid entered.generation]

/-! ## Rows shared by several events -/

/-- Events that only move a worker on to its next state. -/
inductive AdvanceRow : TaskState → TaskEventBody → SchedulerAction → TaskState → Prop
  | allocationSucceeded :
      AdvanceRow .allocating .allocationSucceeded .allocationSucceeded .active
  | dataComplete :
      AdvanceRow .active (.dataComplete false) .allRequiredDataReceived .verifying
  | payloadComplete :
      AdvanceRow .active (.dataComplete true) .bitTorrentPayloadComplete .seeding

/-- Events after which a worker waits for a retry timer. -/
inductive RetryRow : TaskState → TaskEventBody → SchedulerAction → MonotonicInstant → Prop
  | allocationRetryable (retryAt : MonotonicInstant) :
      RetryRow .allocating (.allocationRetryable retryAt) .allocationRetryableFailure retryAt
  | activeRetryIdle (retryAt : MonotonicInstant) :
      RetryRow .active (.activeRetryIdle retryAt) .leaseRetryableWithoutRunnableWork retryAt

inductive ChallengeRow : TaskState → TaskEventBody → SchedulerAction →
    PresentedHostKeyChallenge → Prop
  | allocation (challenge : PresentedHostKeyChallenge) :
      ChallengeRow .allocating (.allocationHostKeyChallenge challenge) .hostKeyChallengeRequired
        challenge
  | active (challenge : PresentedHostKeyChallenge) :
      ChallengeRow .active (.activeHostKeyChallenge challenge) .activeHostKeyChallengeRequired
        challenge

/-- Events that end a worker with a terminal result. -/
inductive EndRow : TaskState → TaskEventBody → SchedulerAction → TaskState → Aria2Status →
    Option PublicError → Prop
  | allocationFailed (error : PublicError) :
      EndRow .allocating (.allocationFailed error) .allocationTerminalFailure .error .error
        (some error)
  | verificationSucceeded :
      EndRow .verifying .verificationSucceeded .verificationSucceeded .complete .complete none
  | verificationFailed (error : PublicError) :
      EndRow .verifying (.verificationFailed error) .verificationTerminalFailure .error .error
        (some error)
  | seedingComplete :
      EndRow .seeding .seedingComplete .seedingStopped .complete .complete none
  | seedingFailed (error : PublicError) :
      EndRow .seeding (.seedingFailed error) .bitTorrentFailure .error .error (some error)

/-- The states an admission scan takes a task from. -/
inductive AdmissionRow : TaskState → SchedulerAction → Prop
  | waiting : AdmissionRow .waiting .schedulerAdmission
  | retryWait : AdmissionRow .retryWait .retryReadmissionSucceeded
  | waitingSlow : AdmissionRow .waitingSlow .slowReadmissionSucceeded

/-- What follows a drain, on the draft whose barrier and slot are gone: the
draft, and whether it is published. -/
inductive Settles (draft : Draft) (ids : IdCounters) :
    DrainTarget → Draft → Bool → IdCounters → Prop
  | idle {target : DrainTarget}
      (plain : target = .paused ∨ target = .pausedSlow ∨ target = .waiting) :
      Settles draft ids target draft true ids
  | source (replacing : draft.task.pendingSourceReplacement = true) :
      Settles draft ids .pausedRestarting draft true ids
  | patch {patchId : OptionPatchId} (kept : draft.task.pendingSourceReplacement = false)
      (staged : draft.task.pendingOptionPatch = some patchId)
      (mode : draft.task.pendingOptionPatchMode = some .activeRestart) :
      Settles draft ids .pausedRestarting
        ⟨{ draft.task with
            state := .pausedRestarting
            pendingBarrier := some (.optionPatchApplication draft.task.generation patchId) },
          draft.effects ++ [.applyOptionPatch draft.task.taskId draft.task.gid patchId
            draft.task.pendingCredentialRequirement]⟩ false ids
  | undecided (pending : draft.task.pendingSlowReadmission = none) :
      Settles draft ids .waitingSlow draft true ids
  | readmission {decision : SlowReadmissionDecision} {readmissionId : SlowReadmissionId}
      {ids' : IdCounters} (pending : draft.task.pendingSlowReadmission = some decision)
      (draw : ids.drawSlowReadmission = .ok (readmissionId, ids')) :
      Settles draft ids .waitingSlow
        ⟨{ draft.task with
            pendingSlowReadmission := none
            slowReadmission := some (readmissionId, decision.readmitAt) },
          draft.effects ++ [.scheduleSlowReadmission draft.task.taskId draft.task.gid
            draft.task.generation readmissionId decision.readmitAt]⟩ true ids'
  | error {error : PublicError} (failed : draft.task.error = some error) :
      Settles draft ids .error (draft.awaitTerminal .error (some error)) false ids
  | removed : Settles draft ids .removed (draft.awaitTerminal .removed none) false ids

/-- The automatic probe a drained task asks for when it is out of disk space. -/
inductive Reprobes (draft : Draft) (ids : IdCounters) : Draft → IdCounters → Prop
  | quiet (quiet : draft.task.state.retainsConditions = true →
        draft.task.conditions.noSpace.bind NoSpaceCondition.retryAt = none) :
      Reprobes draft ids draft ids
  | probe {draft' : Draft} {ids' : IdCounters} {probeAt : MonotonicInstant}
      (retains : draft.task.state.retainsConditions = true)
      (retry : draft.task.conditions.noSpace.bind NoSpaceCondition.retryAt = some probeAt)
      (probes : draft.Probes .automaticRetry probeAt ids draft' ids') :
      Reprobes draft ids draft' ids'

/-- A failed probe is repeated when the prober names a time for it. -/
inductive ProbeReschedules (draft : Draft) : Bool → Option MonotonicInstant → IdCounters →
    Draft → IdCounters → Prop
  | done {ready : Bool} {nextRetryAt : Option MonotonicInstant} {ids : IdCounters}
      (ended : ready = true ∨ nextRetryAt = none) :
      ProbeReschedules draft ready nextRetryAt ids draft ids
  | again {probeAt : MonotonicInstant} {ids ids' : IdCounters} {draft' : Draft}
      (probes : draft.Probes .automaticRetry probeAt ids draft' ids') :
      ProbeReschedules draft false (some probeAt) ids draft' ids'

/-- What asking for a probe makes of a draft: it is kept, or a probe is awaited. -/
inductive Draft.Reprobed (draft : Draft) : Draft → Prop
  | kept : Reprobed draft draft
  | awaited (probeId : NoSpaceProbeId) (origin : NoSpaceProbeOrigin) (instant : MonotonicInstant) :
      Reprobed draft (draft.awaitProbe probeId origin instant)

section

variable {draft draft' : Draft} {ids ids' : IdCounters}

theorem Draft.Probes.reprobed {origin : NoSpaceProbeOrigin} {instant : MonotonicInstant}
    (h : draft.Probes origin instant ids draft' ids') : draft.Reprobed draft' := by
  cases h with
  | inFlight => exact .kept
  | drawn => exact .awaited ..

theorem Reprobes.reprobed (h : Reprobes draft ids draft' ids') : draft.Reprobed draft' := by
  cases h with
  | quiet => exact .kept
  | probe _ _ probes => exact probes.reprobed

theorem ProbeReschedules.reprobed {ready : Bool} {nextRetryAt : Option MonotonicInstant}
    (h : ProbeReschedules draft ready nextRetryAt ids draft' ids') : draft.Reprobed draft' := by
  cases h with
  | done => exact .kept
  | again probes => exact probes.reprobed

end

/-! ## Acknowledged patches and keys -/

inductive PatchPersistenceRow (patchId : OptionPatchId) : TaskEventBody → Bool → Prop
  | persisted : PatchPersistenceRow patchId (.optionPatchPersisted patchId) true
  | failed : PatchPersistenceRow patchId (.optionPatchPersistenceFailed patchId) false

inductive PatchApplicationRow (patchId : OptionPatchId) : TaskEventBody → Option PublicError → Prop
  | applied : PatchApplicationRow patchId (.optionPatchApplied patchId) none
  | failed (error : PublicError) :
      PatchApplicationRow patchId (.optionPatchApplicationFailed patchId error) (some error)

inductive HostKeyRow (resolutionId : HostKeyResolutionId) : TaskEventBody → Bool → Prop
  | persisted : HostKeyRow resolutionId (.hostKeyResolutionPersisted resolutionId) true
  | failed : HostKeyRow resolutionId (.hostKeyResolutionFailed resolutionId) false

end Ariax
