import Ariax.Scheduler.Committed
import Ariax.Scheduler.Invariant

/-!
# Every step leaves its task where its barrier may be found

The first clauses of the invariant: a step keeps the table of states and
slots of each barrier, the generation a barrier belongs to, and the controls
that wait behind it.
-/

namespace Ariax

open Draft PendingBarrier RequestScheduler ScheduledTask TaskState

/-! ## Frames of the shared steps -/

variable {ids' ids : IdCounters} {draft : Draft}
  {draft' : Draft} {target : DrainTarget} {publish : Bool}

/-- The fields that no settled drain touches. -/
structure ScheduledTask.SettledFrame (d u : ScheduledTask) : Prop where
  challenge : u.hostKeyChallenge = d.hostKeyChallenge
  conditions : u.conditions = d.conditions
  probe : u.noSpaceProbe = d.noSpaceProbe
  slot : u.slot = d.slot
  seen : u.seenEvents = d.seenEvents
  started : u.generationStarted = d.generationStarted

theorem Settles.frame {d : Draft} (settles : Settles d ids target draft publish ids') :
    d.task.SettledFrame draft.task := by
  cases settles <;> exact ⟨rfl, rfl, rfl, rfl, rfl, rfl⟩

theorem Settles.state {d : Draft} (settles : Settles d ids target draft publish ids')
    (state : d.task.state = target.state) : draft.task.state = target.state := by
  cases settles with
  | patch => rfl
  | _ => exact state

theorem RequestScheduler.patchPersistenceDraft_task {t : ScheduledTask} {patchId : OptionPatchId}
    {succeeded : Bool} :
    (patchPersistenceDraft t patchId succeeded).task = { t with
      pendingBarrier := none
      lastOptionPatchPersistence := some patchId
      pendingOptionPatch := if succeeded then t.pendingOptionPatch else none
      pendingOptionPatchMode := if succeeded then t.pendingOptionPatchMode else none
      pendingCredentialRequirement :=
        if succeeded then t.pendingCredentialRequirement else none } := by
  cases succeeded <;> rfl

/-! ## Clauses -/

variable {self : RequestScheduler} {gid : Gid} {t : ScheduledTask} {cause : StepCause}
  {action : SchedulerAction} {draft : Draft} {publish : Bool} {ids : IdCounters}
  {instant : MonotonicInstant} {plan : CommitPlan}

open PendingBarrier

attribute [local simp] draft markNonTokenEvent mark
  setState releaseSlot cancelTimers awaitDrain awaitTerminal
  Draft.discard hostKeyDraft admits idleSlot afterPause
  result DrainTarget.drains DrainTarget.state

theorem Draft.Commits.leaves (commits : draft.Commits self t action instant publish ids plan)
    {source other : TaskState} (state : t.state = source ∨ t.state = other)
    (noOp : (transitionContract other action).kind = .noOp) : t.state = source := by
  rcases state with state | state
  · exact state
  · have accepted := commits.accepted
    rw [state, noOp] at accepted
    rcases accepted with accepted | accepted <;> cases accepted

variable {barrier : PendingBarrier} {control : Option PendingUserControl} {target : DrainTarget}
  {slot : SlotOwnership} {d : Draft} {state : TaskState}

theorem drains_afterPause (h : target.drains state slot = true) :
    DrainTarget.paused.drains state.afterPause slot = true := by
  cases target <;> cases state <;> simp_all

theorem drains_afterPause_of_idle (h : state.idleSlot slot = true)
    (owned : slot ≠ .none) : DrainTarget.paused.drains state.afterPause slot = true := by
  cases state <;> simp_all

theorem isWorking_of_restartable (h : state.restartable = true) : state.isWorking = true := by
  cases state <;> simp_all [restartable, isWorking]

theorem idleSlot_of_restartable (h : state.restartable = true) : state.idleSlot .active = true := by
  cases state <;> simp_all [restartable]

theorem placed_pauseDraining (inv : t.Inv) {force f : Bool} {effects : List TransitionEffect}
    (drains : t.needsDrain = true) (cancels : t.draft.Cancels force f effects) :
    DrainTarget.paused.drains t.state.afterPause t.slot = true := by
  have placed := inv.placed
  cases cancels with
  | begin free =>
    rcases free with idle | ⟨generation, waiting⟩
    · have rests := inv.idle_placed idle
      rw [needsDrain, show t.pendingBarrier = none from idle] at drains
      revert rests drains
      cases t.state <;> cases t.slot <;> decide
    · simp_all
  | retarget draining =>
    simp only [draft] at draining
    rw [draining] at placed
    exact drains_afterPause placed

theorem placed_controls (controls : d.Controls t action draft) (idle : d.task.pendingBarrier = none)
    (placed : t.state.idleSlot d.task.slot = true) :
    admits draft.task.pendingBarrier draft.task.state draft.task.slot = true := by
  cases controls with
  | pauseDraining _ _ _ slot => exact drains_afterPause_of_idle placed slot
  | pauseIdle =>
    cases hs : t.state <;>
      simp_all [isTerminal]
  | resume _ paused =>
    simp only [cancelTimers, idle, admits]
    rcases paused with state | state <;> simpa [state] using placed
  | removeDraining => rfl
  | removeIdle _ _ slot => simp [slot]

/-- A settled drain leaves its task where the barrier it may have raised finds it. -/
theorem placed_settles {ids ids' : IdCounters} (settles : Settles d ids target draft publish ids')
    (idle : d.task.pendingBarrier = none) (slot : d.task.slot = .none)
    (state : d.task.state = target.state) :
    admits draft.task.pendingBarrier draft.task.state draft.task.slot = true := by
  cases settles with
  | idle plain =>
    rcases plain with rfl | rfl | rfl <;>
      simp [idle, slot, state]
  | removed => simp [state, slot]
  | error =>
    simp [state, slot]
  | patch => simp [slot]
  | source | undecided | readmission =>
    simp [idle, slot, state]

theorem placed_step (inv : t.Inv) (fresh : cause.Fresh t)
    (step : TaskStep self gid t cause action draft publish ids)
    (commits : draft.Commits self t action instant publish ids plan) :
    admits draft.task.pendingBarrier draft.task.state draft.task.slot = true := by
  have placed := inv.placed
  cases step with
  | pauseDraining _ _ drains cancels => exact placed_pauseDraining inv drains cancels
  | pauseRetry direct _ state =>
    have idle : t.pendingBarrier = none := inv.idle_of_direct direct state
    simp [idle]
  | pauseIdle =>
    cases hs : t.state <;> simp_all [needsDrain, isTerminal]
  | resumeProbing idle _ _ _ probes =>
    have rested : t.state.afterProbeRequest.idleSlot t.slot = true := by
      cases hs : t.state <;> simp_all [afterProbeRequest, retainsConditions]
    cases probes.reprobed <;> split <;> simpa [awaitProbe, idle] using rested
  | resume idle _ _ state =>
    have placed := inv.idle_placed idle
    simp only [cancelSlowReadmission, draft, idle, admits]
    rcases state with state | state | state <;> simpa [state] using placed
  | approveHostKey idle state | removeStopped idle _ state | applyRestartPatch idle state =>
    have placed := inv.idle_placed idle
    simpa [state] using placed
  | sourceDraining =>
    cases hs : t.state <;> simp_all [restartable, afterSourceRequest]
  | sourceIdle =>
    cases hs : t.state <;> simp_all [restartable, afterSourceRequest]
  | sourceCommitted idle _ slot target =>
    simp only [idle, slot, admits]
    rcases target with ⟨-, rfl⟩ | ⟨-, rfl⟩ | ⟨-, rfl⟩ <;> rfl
  | patchInPlace idle _ _ live =>
    have placed := inv.idle_placed idle
    have unstopped : t.state ≠ .stoppedResult := by rintro h; simp [h, isTerminal] at live
    exact decide_eq_true ⟨placed, unstopped⟩
  | patchRestart idle _ _ state =>
    exact decide_eq_true ⟨state, inv.slot_of_working idle (isWorking_of_restartable state)⟩
  | patchHostKey idle _ state =>
    have placed := inv.idle_placed idle
    simpa [acceptHostKeyPatch, state] using placed
  | removeDraining | removeIdle | admitted | representationRestart | retryAdmitted | slowAdmitted =>
    rfl
  | generationPersisted _ state => simp [state]
  | patchPersistedControl barrier _ controls =>
    obtain ⟨restartable, slot⟩ := inv.restarting barrier
    refine placed_controls controls ?_ ?_
    · rw [patchPersistenceDraft_task]
    · rw [patchPersistenceDraft_task]
      exact slot ▸ idleSlot_of_restartable restartable
  | patchPersisted barrier =>
    obtain ⟨-, slot⟩ := inv.restarting barrier
    simp [patchPersistenceDraft, slot]
  | patchPersistenceFailed barrier =>
    obtain ⟨restartable, slot⟩ := inv.restarting barrier
    exact slot ▸ idleSlot_of_restartable restartable
  | patchAppliedControl barrier _ controls =>
    exact placed_controls controls rfl (inv.applying barrier).1
  | restartApplied barrier _ _ state =>
    have placed := (inv.applying barrier).1
    simp only [setState, patchApplicationDraft, draft, admits]
    rcases state with state | state <;> simpa [state] using placed
  | restartFailed barrier _ state =>
    have placed := (inv.applying barrier).1
    simp only [awaitTerminal, setState, setControl, patchApplicationDraft, draft, admits]
    rcases state with state | state <;> simpa [state] using placed
  | patchApplied barrier => exact (inv.applying barrier).1
  | hostKeyRemoved _ _ controls =>
    refine placed_controls controls rfl ?_
    simp_all
  | hostKeyResolved =>
    cases t.desiredPaused <;> simp_all
  | hostKeyUnresolved =>
    simp_all
  | advance state row =>
    obtain ⟨idle, slot⟩ := inv.reporting fresh state row.reports
    cases row <;> simp [idle, slot]
  | retryRetained state row | retryReleased state row | challenge state row =>
    obtain ⟨idle, -⟩ := inv.reporting fresh state row.reports
    simp [idle]
  | endWork _ row => cases row <;> rfl
  | verificationRecoverable state =>
    obtain ⟨idle, -⟩ := inv.reporting fresh state ⟨rfl, rfl⟩
    simp [idle]
  | noSpace state | terminalFailure state =>
    obtain ⟨-, slot⟩ := inv.reporting fresh state ⟨rfl, rfl⟩
    simp [slot]
  | slowDemoted state | slowPaused state =>
    have state : t.state = .active := commits.leaves state (by decide)
    obtain ⟨-, slot⟩ := inv.reporting fresh state ⟨rfl, rfl⟩
    simp [slot]
  | restartQuiesced _ state settles reprobes | drained _ state _ settles reprobes =>
    have placed := placed_settles settles rfl rfl state
    cases reprobes.reprobed <;> exact placed
  | probed probe _ _ reprobes =>
    have idle := inv.idle_of_probe fresh rfl (by rw [probe]; rfl)
    have placed := inv.idle_placed idle
    cases reprobes.reprobed <;> simp only [awaitProbe, idle, admits, afterProbe] <;> split
    all_goals first | exact placed | next paused => simpa [paused.1] using placed
  | terminalPersisted barrier =>
    rw [barrier] at placed
    simp [(of_decide_eq_true placed).2]
  | deletionFailed barrier state =>
    rw [barrier] at placed
    simpa [state] using placed
  | pauseDeferred | resumeDeferred | removeDeferred | retryBlocked | slowBlocked => exact placed

theorem current_controls (controls : d.Controls t action draft)
    (idle : d.task.pendingBarrier = none) :
    ∀ barrier, draft.task.pendingBarrier = some barrier →
      barrier.generation = draft.task.generation := by
  intro barrier h
  cases controls with
  | pauseIdle | resume => simp [idle] at h
  | _ => cases h; rfl

theorem current_step (inv : t.Inv) (step : TaskStep self gid t cause action draft publish ids) :
    ∀ barrier, draft.task.pendingBarrier = some barrier →
      barrier.generation = draft.task.generation := by
  have current := inv.current
  cases step with
  | resumeProbing idle source blocked retains probes =>
    cases probes.reprobed <;> split <;> exact current
  | patchPersistedControl _ _ controls =>
    exact current_controls controls (by rw [patchPersistenceDraft_task])
  | patchAppliedControl _ _ controls | hostKeyRemoved _ _ controls =>
    exact current_controls controls rfl
  | patchPersistenceFailed =>
    rw [patchPersistenceDraft_task]
    simp
  | restartQuiesced barrier _ settles reprobes =>
    intro barrier h
    cases reprobes.reprobed <;> cases settles <;> cases h <;> rfl
  | drained barrier _ _ settles reprobes =>
    intro barrier h
    cases reprobes.reprobed <;> cases settles <;> cases h <;> rfl
  | probed _ _ _ reprobes =>
    cases reprobes.reprobed <;> exact current
  | _ =>
    first
      | exact current
      | (intro barrier h; cases h; rfl)
      | (intro barrier h; cases h)

theorem uncontrolled_of_direct (inv : t.Inv) (direct : t.deferringBarrier = none) :
    t.pendingUserControl = none := by
  have deferred := inv.deferred
  cases hb : t.pendingBarrier with
  | none => rwa [hb] at deferred
  | some barrier =>
    have undeferred := deferringBarrier_eq_none direct hb
    rw [hb] at deferred
    cases barrier with
    | optionPatchPersistence | optionPatchApplication | hostKeyResolution => cases undeferred
    | _ => exact deferred

theorem uncontrolled_of_idle (inv : t.Inv) (idle : t.pendingBarrier = none) :
    t.pendingUserControl = none :=
  uncontrolled_of_direct inv (by simp [deferringBarrier, idle])

theorem Defers.of_none {barrier : Option PendingBarrier}
    (uncontrolled : control = none) : Defers state control barrier := by
  subst uncontrolled
  cases barrier with
  | none => rfl
  | some barrier => cases barrier <;> simp [Defers]

section

variable (defers : barrier.defersUserControl = true)
include defers

theorem Defers.of_remove (state : TaskState) (force : Bool) :
    Defers state (some (.remove force)) (some barrier) := by
  cases barrier <;> simp_all [Defers, defersUserControl]

theorem Defers.of_pause {force : Bool} (deferred : Defers state control (some barrier)) :
    Defers state (if barrier.isHostKeyResolution then control else some (.pause force))
      (some barrier) := by
  cases barrier <;>
    simp_all [Defers, defersUserControl, isHostKeyResolution]

theorem Defers.of_resume :
    Defers state (if barrier.isHostKeyResolution then none
      else if state = .paused ∨ state = .pausedSlow then some .resume else none)
      (some barrier) := by
  by_cases paused : state = .paused ∨ state = .pausedSlow
  · cases barrier <;>
      simp_all [Defers, defersUserControl, isHostKeyResolution]
  · simp only [if_neg paused, ite_self]
    exact Defers.of_none rfl

end

theorem deferred_step (inv : t.Inv) (fresh : cause.Fresh t)
    (step : TaskStep self gid t cause action draft publish ids)
    (commits : draft.Commits self t action instant publish ids plan) :
    Defers draft.task.state draft.task.pendingUserControl draft.task.pendingBarrier := by
  have deferred := inv.deferred
  have undeferred : t.deferringBarrier = none → t.pendingUserControl = none :=
    uncontrolled_of_direct inv
  have rested : t.pendingBarrier = none → t.pendingUserControl = none := uncontrolled_of_idle inv
  cases step with
  | @pauseDeferred barrier force deferring =>
    obtain ⟨hb, defers⟩ := deferringBarrier_eq_some.mp deferring
    rw [hb] at deferred ⊢
    exact Defers.of_pause defers deferred
  | @resumeDeferred barrier deferring =>
    obtain ⟨hb, defers⟩ := deferringBarrier_eq_some.mp deferring
    rw [hb]
    exact Defers.of_resume defers
  | removeDeferred deferring =>
    obtain ⟨barrier, deferring⟩ := Option.isSome_iff_exists.mp deferring
    obtain ⟨hb, defers⟩ := deferringBarrier_eq_some.mp deferring
    simp only [setControl, dropProbe, cancelTimers, draft]
    rw [hb]
    exact Defers.of_remove defers _ _
  | pauseDraining direct | pauseRetry direct => exact Defers.of_none (undeferred direct)
  | resumeProbing idle _ _ _ probes =>
    cases probes.reprobed <;> split <;> exact Defers.of_none (rested idle)
  | pauseIdle idle | resume idle | approveHostKey idle | sourceDraining idle | sourceIdle idle
  | sourceCommitted idle | patchInPlace idle | patchRestart idle | patchHostKey idle
  | removeStopped idle | applyRestartPatch idle =>
    exact Defers.of_none (rested idle)
  | patchPersistedControl _ _ controls | patchAppliedControl _ _ controls
  | hostKeyRemoved _ _ controls => cases controls <;> exact Defers.of_none rfl
  | patchPersistenceFailed _ uncontrolled =>
    exact Defers.of_none uncontrolled
  | patchPersisted _ uncontrolled | patchApplied _ _ uncontrolled
  | restartApplied _ _ uncontrolled => exact Defers.of_none uncontrolled
  | restartFailed | removeDraining | removeIdle => exact Defers.of_none rfl
  | hostKeyResolved barrier kept | hostKeyUnresolved barrier kept =>
    rw [barrier] at deferred
    rcases deferred with none | ⟨force, waiting⟩
    · exact Defers.of_none none
    · exact absurd waiting (kept force)
  | admitted _ _ _ admits | representationRestart _ admits
  | retryAdmitted _ _ admits | slowAdmitted _ _ admits =>
    cases admits.generation <;> exact Defers.of_none (rested admits.idle)
  | retryBlocked | slowBlocked => exact deferred
  | generationPersisted barrier | terminalPersisted barrier | deletionFailed barrier =>
    rw [barrier] at deferred
    exact Defers.of_none deferred
  | advance state row | retryRetained state row | retryReleased state row | challenge state row
  | endWork state row =>
    obtain ⟨idle, -⟩ := inv.reporting fresh state row.reports
    exact Defers.of_none (rested idle)
  | verificationRecoverable state | noSpace state | terminalFailure state =>
    obtain ⟨idle, -⟩ := inv.reporting fresh state ⟨rfl, rfl⟩
    exact Defers.of_none (rested idle)
  | slowDemoted state | slowPaused state =>
    have state : t.state = .active := commits.leaves state (by decide)
    obtain ⟨idle, -⟩ := inv.reporting fresh state ⟨rfl, rfl⟩
    exact Defers.of_none (rested idle)
  | restartQuiesced barrier _ settles reprobes | drained barrier _ _ settles reprobes =>
    rw [barrier] at deferred
    cases reprobes.reprobed <;> cases settles <;> exact Defers.of_none deferred
  | probed probe _ _ reprobes =>
    have idle := inv.idle_of_probe fresh rfl (by rw [probe]; rfl)
    cases reprobes.reprobed <;> exact Defers.of_none (rested idle)

end Ariax
