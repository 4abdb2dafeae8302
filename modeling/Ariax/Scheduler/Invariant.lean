import Ariax.Scheduler.Specs
import Ariax.Scheduler.Step

/-!
# The shape of a task

What a barrier says about the record of its task: the states and slots it
may be found in, what is staged behind it, and which user controls wait for
it. Each clause is a predicate over the few fields it relates, so that a
step which leaves those fields alone keeps the clause.
-/

namespace Ariax

open PendingBarrier

namespace TaskState

/-- The slots a task holds in a state no barrier interferes with. -/
def idleSlot : TaskState → SlotOwnership → Bool
  | waiting, slot | waitingSlow, slot | paused, slot | pausedSlow, slot | pausedHostKey, slot
  | pausedRestarting, slot | stoppedResult, slot => slot = .none
  | retryWait, slot => slot = .none ∨ slot = .retryRetained
  | allocating, slot | active, slot | verifying, slot | seeding, slot => slot = .active
  | accepted, _ | complete, _ | error, _ | removed, _ => false

def isWorking : TaskState → Bool
  | allocating | active | verifying | seeding => true
  | _ => false

def result : TaskState → Option Aria2Status
  | complete => some .complete
  | error => some .error
  | removed => some .removed
  | _ => none

end TaskState

/-- The states and slots in which the drain of a worker is awaited. A removed
task may have lost its slot already, and so may one paused while restarting. -/
def DrainTarget.drains : DrainTarget → TaskState → SlotOwnership → Bool
  | removed, state, _ => state = .removed
  | paused, state, slot => state = .paused ∨ (state = .pausedSlow ∧ slot ≠ .none)
  | target, state, slot => state = target.state ∧ slot ≠ .none

namespace PendingBarrier

/-- The states and slots a barrier may be found in. -/
def admits : Option PendingBarrier → TaskState → SlotOwnership → Bool
  | none, state, slot => state.idleSlot slot
  | some (generationPersistence _), state, slot => state = .allocating ∧ slot = .reserved
  | some (optionPatchPersistence _ _), state, slot => state.restartable ∧ slot = .active
  | some (optionPatchApplication _ _), state, slot => state.idleSlot slot ∧ state ≠ .stoppedResult
  | some (hostKeyResolution _ _ _), state, slot => state = .pausedHostKey ∧ slot = .none
  | some (cancellationDrain _ target _), state, slot => target.drains state slot
  | some (terminalPersistence _ status), state, slot => state.result = some status ∧ slot = .none
  | some (stoppedResultDeletion _ _), state, slot => state = .stoppedResult ∧ slot = .none

def generation : PendingBarrier → Generation
  | generationPersistence g | optionPatchPersistence g _ | optionPatchApplication g _
  | hostKeyResolution g _ _ | cancellationDrain g _ _ | terminalPersistence g _
  | stoppedResultDeletion g _ => g

/-- The patch staged behind a barrier, with its provenance, the credentials
it satisfies, and whether a source replacement is in progress instead. -/
def Stages (state : TaskState) (patch : Option OptionPatchId)
    (mode : Option PendingOptionPatchMode) (requirement key : Option CredentialRequirementKey)
    (source blocked : Bool) : Option PendingBarrier → Prop
  | none => requirement = none ∧
      ((patch = none ∧ mode = none ∧ (state = .pausedRestarting → source = true)) ∨
        (patch.isSome = true ∧ mode = some .activeRestart ∧ source = false ∧ blocked = false ∧
          (state = .waiting ∨ state = .paused)))
  | some (cancellationDrain _ _ _) => requirement = none ∧
      ((patch = none ∧ mode = none ∧ (state = .pausedRestarting → source = true)) ∨
        (patch.isSome = true ∧ mode = some .activeRestart ∧ source = false ∧ blocked = false ∧
          (state = .pausedRestarting ∨ state = .paused)))
  | some (optionPatchPersistence _ patchId) => patch = some patchId ∧
      mode = some .activeRestart ∧ requirement = none ∧ source = false ∧ blocked = false
  | some (optionPatchApplication _ patchId) => patch = some patchId ∧ source = false ∧
      ((mode = some .inPlace ∧ state ≠ .pausedRestarting ∧
          (requirement = none ∨ requirement = key)) ∨
        (mode = some .activeRestart ∧ requirement = none ∧ blocked = false ∧
          (state = .waiting ∨ state = .pausedRestarting)))
  | some (hostKeyResolution _ _ _) => requirement = none ∧
      ((patch = none ∧ mode = none) ∨
        (patch.isSome = true ∧ mode = some .matchingHostKey ∧ source = false))
  | some (generationPersistence _) | some (terminalPersistence _ _)
  | some (stoppedResultDeletion _ _) => patch = none ∧ mode = none ∧ requirement = none

/-- The user control that waits behind a barrier. -/
def Defers (state : TaskState) (control : Option PendingUserControl) : Option PendingBarrier → Prop
  | some (optionPatchPersistence _ _) | some (optionPatchApplication _ _) =>
    control = some .resume → state = .paused ∨ state = .pausedSlow
  | some (hostKeyResolution _ _ _) => control = none ∨ ∃ force, control = some (.remove force)
  | _ => control = none

def isDrain : Option PendingBarrier → Bool
  | some (cancellationDrain _ _ _) => true
  | _ => false

end PendingBarrier

/-- The events that acknowledge a barrier other than a drain. -/
def TaskEventKind.acknowledges : TaskEventKind → Bool
  | generationPersisted | optionPatchPersisted | optionPatchPersistenceFailed
  | optionPatchApplied | optionPatchApplicationFailed | hostKeyResolutionPersisted
  | hostKeyResolutionFailed | terminalPersisted | stoppedResultDeleted
  | stoppedResultDeletionFailed => true
  | _ => false

theorem PendingBarrier.isDrain_of_acceptsEvent {barrier : PendingBarrier} {kind : TaskEventKind}
    (accepted : barrier.acceptsEvent kind = true) (work : kind.acknowledges = false) :
    isDrain (some barrier) = true := by
  cases barrier with
  | cancellationDrain => rfl
  | _ =>
    simp only [acceptsEvent, Bool.decide_or, Bool.or_eq_true, decide_eq_true_eq] at accepted
    first
      | (subst accepted; cases work)
      | (rcases accepted with rfl | rfl <;> cases work)

namespace ScheduledTask

/-- The result retained by a task: a stopped result has a terminal status,
and an error exactly when it failed; an error is known before it is
persisted, and no other task has either. -/
def Results (state : TaskState) (error : Option PublicError) (status : Option Aria2Status)
    (persisted : Bool) : Prop :=
  if state = .stoppedResult then
    persisted = true ∧ ∃ s, status = some s ∧ s.isTerminal = true ∧
      (error.isSome = true ↔ s = .error)
  else
    persisted = false ∧ status = none ∧ (error.isSome = true ↔ state = .error)

structure Inv (t : ScheduledTask) : Prop where
  placed : admits t.pendingBarrier t.state t.slot = true
  current : ∀ barrier, t.pendingBarrier = some barrier → barrier.generation = t.generation
  staged : PendingBarrier.Stages t.state t.pendingOptionPatch t.pendingOptionPatchMode
    t.pendingCredentialRequirement t.credentialKey t.pendingSourceReplacement
    t.conditions.blocksAdmission t.pendingBarrier
  deferred : PendingBarrier.Defers t.state t.pendingUserControl t.pendingBarrier
  challenged : t.hostKeyChallenge.isSome = decide (t.state = .pausedHostKey)
  presented : ∀ generation resolutionId challenge,
    t.pendingBarrier = some (.hostKeyResolution generation resolutionId challenge) →
      t.hostKeyChallenge.map (fun presented => presented.summary.id) = some challenge
  conditioned : t.conditions.blocksAdmission = true →
    t.state.retainsConditions = true ∨ t.state = .removed
  retained : t.slot = .retryRetained → t.conditions.blocksAdmission = false
  probing : t.noSpaceProbe.isSome = true → t.conditions.noSpace.isSome = true ∧
    t.state ≠ .removed ∧ isDrain t.pendingBarrier = false
  finished : Results t.state t.error t.stoppedStatus t.terminalPersisted
  demoted : t.state = .waitingSlow → isDrain t.pendingBarrier = true →
    t.pendingSlowReadmission.isSome = true ∧ TaskEventKind.slowDemoted ∈ t.seenEvents
  slowed : t.state = .pausedSlow → isDrain t.pendingBarrier = true →
    TaskEventKind.slowPaused ∈ t.seenEvents
  started : t.slot ≠ .none → t.generationStarted = true
  unpersisted : t.generationStarted = false ∨
      t.pendingBarrier = some (.generationPersistence t.generation) →
    TaskEventKind.generationPersisted ∉ t.seenEvents

end ScheduledTask

/-- An event passes the filters in front of its handler: its barrier lets it
through, and it has not been seen in this generation. -/
def StepCause.Fresh (t : ScheduledTask) : StepCause → Prop
  | event body => (∀ barrier, t.pendingBarrier = some barrier →
      barrier.acceptsEvent body.kind = true) ∧
      (body.token = none → body.kind ≠ .terminalPersisted → body.kind ∉ t.seenEvents)
  | _ => True

/-- An event by which the worker of a task in a state reports. -/
structure Reports (source : TaskState) (body : TaskEventBody) : Prop where
  working : source.isWorking = true
  work : body.kind.acknowledges = false

namespace ScheduledTask.Inv

variable {t : ScheduledTask} {body : TaskEventBody} (inv : t.Inv)
include inv

theorem idle_placed (idle : t.pendingBarrier = none) : t.state.idleSlot t.slot = true := by
  have placed := inv.placed
  rwa [idle] at placed

/-- A working or retrying task that handles an event of its work has no barrier. -/
theorem idle_of_work (fresh : (StepCause.event body).Fresh t)
    (work : body.kind.acknowledges = false)
    (state : t.state.isWorking = true ∨ t.state = .retryWait) : t.pendingBarrier = none := by
  have placed := inv.placed
  cases hb : t.pendingBarrier with
  | none => rfl
  | some barrier =>
    have draining := isDrain_of_acceptsEvent (fresh.1 barrier hb) work
    cases barrier with
    | cancellationDrain _ target =>
      cases target <;> cases hs : t.state <;>
        simp_all [admits, DrainTarget.drains, DrainTarget.state, TaskState.isWorking]
    | _ => cases draining

theorem slot_of_working (idle : t.pendingBarrier = none) (state : t.state.isWorking = true) :
    t.slot = .active := by
  have placed := inv.idle_placed idle
  cases hs : t.state <;> simp_all [TaskState.idleSlot, TaskState.isWorking]

theorem reporting (fresh : (StepCause.event body).Fresh t) {source : TaskState}
    (state : t.state = source) (reports : Reports source body) :
    t.pendingBarrier = none ∧ t.slot = .active := by
  subst state
  have idle := inv.idle_of_work fresh reports.work (.inl reports.working)
  exact ⟨idle, inv.slot_of_working idle reports.working⟩

theorem idle_of_probe (fresh : (StepCause.event body).Fresh t)
    (work : body.kind.acknowledges = false) (probe : t.noSpaceProbe.isSome = true) :
    t.pendingBarrier = none := by
  obtain ⟨-, -, undrained⟩ := inv.probing probe
  cases hb : t.pendingBarrier with
  | none => rfl
  | some barrier =>
    have draining := isDrain_of_acceptsEvent (fresh.1 barrier hb) work
    rw [hb, draining] at undrained
    cases undrained

theorem idle_of_direct (direct : t.deferringBarrier = none) (state : t.state = .retryWait) :
    t.pendingBarrier = none := by
  have placed := inv.placed
  cases hb : t.pendingBarrier with
  | none => rfl
  | some barrier =>
    have undeferred := deferringBarrier_eq_none direct hb
    rw [hb, state] at placed
    cases barrier with
    | cancellationDrain _ target => cases target <;> cases placed
    | optionPatchApplication => cases undeferred
    | _ => cases placed

variable {generation : Generation} {patchId : OptionPatchId}

theorem restarting
    (barrier : t.pendingBarrier = some (.optionPatchPersistence generation patchId)) :
    t.state.restartable = true ∧ t.slot = .active := by
  have placed := inv.placed
  simpa [barrier, admits] using placed

theorem applying (barrier : t.pendingBarrier = some (.optionPatchApplication generation patchId)) :
    t.state.idleSlot t.slot = true ∧ t.state ≠ .stoppedResult := by
  have placed := inv.placed
  simpa [barrier, admits] using placed

end ScheduledTask.Inv

/-! ## Rows of work -/

variable {source target : TaskState} {body : TaskEventBody} {action : SchedulerAction}

theorem AdvanceRow.reports (row : AdvanceRow source body action target) : Reports source body := by
  cases row <;> exact ⟨rfl, rfl⟩

theorem RetryRow.reports {retryAt : MonotonicInstant} (row : RetryRow source body action retryAt) :
    Reports source body := by
  cases row <;> exact ⟨rfl, rfl⟩

theorem ChallengeRow.reports {challenge : PresentedHostKeyChallenge}
    (row : ChallengeRow source body action challenge) : Reports source body := by
  cases row <;> exact ⟨rfl, rfl⟩

theorem EndRow.reports {status : Aria2Status} {error : Option PublicError}
    (row : EndRow source body action target status error) : Reports source body := by
  cases row <;> exact ⟨rfl, rfl⟩

end Ariax
