import Ariax.Scheduler.Placement

/-!
# Every step keeps what is staged behind its barrier

The clauses of the invariant about pending patches, presented host keys,
admission conditions and disk-space probes.
-/

namespace Ariax

open PendingBarrier ScheduledTask TaskState Draft

/-- No patch is staged. -/
abbrev ScheduledTask.Unpatched (t : ScheduledTask) : Prop :=
  t.pendingOptionPatch = none ∧ t.pendingOptionPatchMode = none ∧
    t.pendingCredentialRequirement = none

/-- What is staged fits the barrier of the task. -/
abbrev ScheduledTask.Staged (t : ScheduledTask) (barrier : Option PendingBarrier) : Prop :=
  Stages t.state t.pendingOptionPatch t.pendingOptionPatchMode t.pendingCredentialRequirement
    t.credentialKey t.pendingSourceReplacement t.conditions.blocksAdmission barrier

namespace ScheduledTask.Inv

variable {t : ScheduledTask}

section

variable (inv : t.Inv) (idle : t.pendingBarrier = none)
include inv idle

theorem idle_staged : t.Staged none :=
  idle ▸ inv.staged

/-- An idle task that neither waits nor is paused has no patch staged. -/
theorem unpatched (state : t.state ≠ .waiting ∧ t.state ≠ .paused) : t.Unpatched := by
  obtain ⟨requirement, ⟨patch, mode, -⟩ | ⟨-, -, -, -, waits⟩⟩ := inv.idle_staged idle
  · exact ⟨patch, mode, requirement⟩
  · exact absurd waits (not_or.mpr state)

/-- A patch is staged without a barrier only while its task is not blocked. -/
theorem unpatched_of_blocked (blocked : t.conditions.blocksAdmission = true) : t.Unpatched := by
  obtain ⟨requirement, ⟨patch, mode, -⟩ | ⟨-, -, -, unblocked, -⟩⟩ := inv.idle_staged idle
  · exact ⟨patch, mode, requirement⟩
  · rw [blocked] at unblocked
    cases unblocked

theorem unstaged (patch : t.pendingOptionPatch = none) :
    t.pendingOptionPatchMode = none ∧ t.pendingCredentialRequirement = none := by
  obtain ⟨requirement, ⟨-, mode, -⟩ | ⟨some, -⟩⟩ := inv.idle_staged idle
  · exact ⟨mode, requirement⟩
  · rw [patch] at some
    cases some

end

/-- A working task has no admission conditions. -/
theorem unblocked_of_working (inv : t.Inv) (state : t.state.isWorking = true) :
    t.conditions.blocksAdmission = false := by
  by_contra blocked
  rcases inv.conditioned (by simpa using blocked) with retains | removed
  · cases hs : t.state <;> simp_all [isWorking, retainsConditions]
  · simp [removed, isWorking] at state

theorem unpatched_of_report (inv : t.Inv) {body : TaskEventBody} {source : TaskState}
    (fresh : (StepCause.event body).Fresh t) (state : t.state = source)
    (reports : Reports source body) : t.pendingBarrier = none ∧ t.Unpatched := by
  obtain ⟨idle, -⟩ := inv.reporting fresh state reports
  have working := reports.working
  refine ⟨idle, inv.unpatched idle ⟨?_, ?_⟩⟩ <;> rintro h <;>
    simp [← state, h, isWorking] at working

end ScheduledTask.Inv

section Stages

variable {state : TaskState} {patch : Option OptionPatchId} {mode : Option PendingOptionPatchMode}
  {requirement key : Option CredentialRequirementKey} {source blocked : Bool}
  (free : patch = none ∧ mode = none ∧ requirement = none)
  (moving : state ≠ .pausedRestarting)
include free moving

theorem Stages.idle : Stages state patch mode requirement key source blocked none :=
  ⟨free.2.2, .inl ⟨free.1, free.2.1, fun h => absurd h moving⟩⟩

theorem Stages.drain {generation : Generation} {target : DrainTarget} {force : Bool} :
    Stages state patch mode requirement key source blocked
      (some (.cancellationDrain generation target force)) :=
  ⟨free.2.2, .inl ⟨free.1, free.2.1, fun h => absurd h moving⟩⟩

end Stages

theorem ScheduledTask.staged_of_idle {t : ScheduledTask} (idle : t.pendingBarrier = none)
    (free : t.Unpatched) (moving : t.state ≠ .pausedRestarting) : t.Staged t.pendingBarrier := by
  rw [idle]
  exact Stages.idle free moving

variable {self : RequestScheduler} {gid : Gid} {t : ScheduledTask} {cause : StepCause}
  {action : SchedulerAction} {draft : Draft} {publish : Bool} {ids : IdCounters}
  {instant : MonotonicInstant} {plan : CommitPlan}

theorem afterPause_ne (state : TaskState) : state.afterPause ≠ .pausedRestarting := by
  cases state <;> simp [afterPause]

theorem staged_controls {d : Draft} (controls : d.Controls t action draft)
    (idle : d.task.pendingBarrier = none)
    (free : d.task.Unpatched) : draft.task.Staged draft.task.pendingBarrier := by
  cases controls with
  | pauseDraining => exact Stages.drain free (afterPause_ne _)
  | pauseIdle => exact staged_of_idle idle free (afterPause_ne _)
  | resume => exact staged_of_idle idle free (by rintro ⟨⟩)
  | removeDraining => exact Stages.drain ⟨rfl, rfl, rfl⟩ (by rintro ⟨⟩)
  | removeIdle => exact ⟨rfl, rfl, rfl⟩

theorem staged_controls_restarting {patchId : OptionPatchId}
    (controls : (RequestScheduler.patchPersistenceDraft t patchId true).Controls t action draft)
    (restartable : t.state.restartable = true) (slot : t.slot = .active)
    (staged : t.Staged (some (.optionPatchPersistence t.generation patchId))) : draft.task.Staged
      draft.task.pendingBarrier := by
  obtain ⟨patch, mode, requirement, source, unblocked⟩ := staged
  cases controls with
  | pauseDraining =>
    have paused : t.state.afterPause = .paused := by
      cases hs : t.state <;> simp_all [TaskState.restartable, TaskState.afterPause]
    exact ⟨requirement, .inr ⟨Option.isSome_iff_exists.mpr ⟨_, patch⟩, mode, source, unblocked,
      .inr paused⟩⟩
  | pauseIdle _ _ _ free =>
    have free : t.slot = .none := free
    rw [slot] at free
    cases free
  | resume _ paused =>
    rcases paused with state | state <;> rw [state] at restartable <;> cases restartable
  | removeDraining => exact Stages.drain ⟨rfl, rfl, rfl⟩ (by rintro ⟨⟩)
  | removeIdle => exact ⟨rfl, rfl, rfl⟩

theorem staged_settles {d : Draft} {target : DrainTarget} {force : Bool} {ids ids' : IdCounters}
    (settles : Settles d ids target draft publish ids') (idle : d.task.pendingBarrier = none)
    (staged : d.task.Staged (some (.cancellationDrain d.task.generation target force)))
    (state : d.task.state = target.state) : draft.task.Staged draft.task.pendingBarrier := by
  obtain ⟨requirement, ⟨patch, mode, replacing⟩ | ⟨patch, mode, source, unblocked, waits⟩⟩ := staged
  · have free := And.intro patch (And.intro mode requirement)
    cases settles with
    | patch _ staged => rw [staged] at patch; cases patch
    | removed | error => exact free
    | _ =>
      simp only [idle]
      exact ⟨requirement, .inl ⟨patch, mode, replacing⟩⟩
  · cases settles with
    | patch _ staged =>
      exact ⟨staged, source, .inr ⟨mode, requirement, unblocked, .inr rfl⟩⟩
    | source replacing => rw [replacing] at source; cases source
    | idle plain =>
      simp only [idle]
      refine ⟨requirement, .inr ⟨patch, mode, source, unblocked, ?_⟩⟩
      rcases plain with rfl | rfl | rfl
      · exact .inr state
      · rw [state] at waits
        rcases waits with waits | waits <;> cases waits
      · exact .inl state
    | _ =>
      rw [state] at waits
      rcases waits with waits | waits <;> cases waits

theorem staged_pauseDraining (inv : t.Inv) {force f : Bool} {effects : List TransitionEffect}
    (drains : t.needsDrain = true) (cancels : t.draft.Cancels force f effects) :
    Stages t.state.afterPause t.pendingOptionPatch t.pendingOptionPatchMode
      t.pendingCredentialRequirement t.credentialKey t.pendingSourceReplacement
      t.conditions.blocksAdmission (some (.cancellationDrain t.generation .paused f)) := by
  have staged := inv.staged
  cases cancels with
  | begin free =>
    rcases free with idle | ⟨generation, waiting⟩
    · have idle : t.pendingBarrier = none := idle
      refine Stages.drain (inv.unpatched idle ⟨?_, ?_⟩) (afterPause_ne _) <;> intro state <;>
        simp [needsDrain, state, idle] at drains
    · have waiting : t.pendingBarrier = some (.generationPersistence generation) := waiting
      rw [waiting] at staged
      exact Stages.drain staged (afterPause_ne _)
  | retarget draining =>
    have draining : t.pendingBarrier = some (.cancellationDrain _ _ _) := draining
    rw [draining] at staged
    obtain ⟨requirement, ⟨patch, mode, -⟩ | ⟨patch, mode, source, unblocked, waits⟩⟩ := staged
    · exact Stages.drain ⟨patch, mode, requirement⟩ (afterPause_ne _)
    · refine ⟨requirement, .inr ⟨patch, mode, source, unblocked, .inr ?_⟩⟩
      rcases waits with state | state <;> simp [state, afterPause]

theorem staged_step (inv : t.Inv) (fresh : cause.Fresh t)
    (step : TaskStep self gid t cause action draft publish ids)
    (commits : draft.Commits self t action instant publish ids plan) : draft.task.Staged
      draft.task.pendingBarrier := by
  have staged := inv.staged
  cases step with
  | pauseDeferred | resumeDeferred | removeDeferred | retryBlocked | slowBlocked => exact staged
  | pauseDraining _ _ drains cancels => exact staged_pauseDraining inv drains cancels
  | pauseRetry direct _ state =>
    have idle := inv.idle_of_direct direct state
    exact staged_of_idle idle (inv.unpatched idle (by simp [state])) (by rintro ⟨⟩)
  | pauseIdle idle _ _ state =>
    obtain ⟨requirement, ⟨patch, mode, -⟩ | ⟨patch, mode, source, unblocked, waits⟩⟩ :=
      inv.idle_staged idle
    · exact staged_of_idle idle ⟨patch, mode, requirement⟩ (afterPause_ne _)
    · simp only [setState, cancelTimers, draft, idle]
      refine ⟨requirement, .inr ⟨patch, mode, source, unblocked, .inr ?_⟩⟩
      rcases waits with state | state <;> simp [state, afterPause]
  | resumeProbing idle _ blocked _ probes =>
    have free := inv.unpatched_of_blocked idle (by simp [TaskConditions.blocksAdmission, blocked])
    have moving : t.state.afterProbeRequest ≠ .pausedRestarting := by
      cases hs : t.state <;>
        simp_all [afterProbeRequest, retainsConditions]
    cases probes.reprobed <;> split <;> exact staged_of_idle idle free moving
  | resume idle source =>
    obtain ⟨requirement, ⟨patch, mode, -⟩ | ⟨patch, mode, source, unblocked, -⟩⟩ :=
      inv.idle_staged idle
    · exact staged_of_idle idle ⟨patch, mode, requirement⟩ (by rintro ⟨⟩)
    · simp only [cancelSlowReadmission, draft, idle]
      exact ⟨requirement, .inr ⟨patch, mode, source, unblocked, .inl rfl⟩⟩
  | approveHostKey idle state =>
    obtain ⟨patch, mode, requirement⟩ := inv.unpatched idle (by simp [state])
    exact ⟨requirement, .inl ⟨patch, mode⟩⟩
  | sourceDraining idle _ unpatched =>
    obtain ⟨mode, requirement⟩ := inv.unstaged idle unpatched
    exact ⟨requirement, .inl ⟨unpatched, mode, fun _ => rfl⟩⟩
  | sourceIdle idle _ unpatched =>
    obtain ⟨mode, requirement⟩ := inv.unstaged idle unpatched
    simp only [cancelTimers, draft, idle]
    exact ⟨requirement, .inl ⟨unpatched, mode, fun _ => rfl⟩⟩
  | sourceCommitted idle pending _ target =>
    obtain ⟨requirement, ⟨patch, mode, -⟩ | ⟨-, -, source, -, -⟩⟩ := inv.idle_staged idle
    · refine staged_of_idle idle ⟨patch, mode, requirement⟩ ?_
      rcases target with ⟨-, rfl⟩ | ⟨-, rfl⟩ | ⟨-, rfl⟩ <;> rintro ⟨⟩
    · rw [pending] at source
      cases source
  | @patchInPlace patchId kind satisfies idle source bound =>
    have moving : t.state ≠ .pausedRestarting := fun state => by
      obtain ⟨-, ⟨-, -, replacing⟩ | ⟨-, -, -, -, waits⟩⟩ := inv.idle_staged idle
      · rw [source] at replacing
        cases replacing state
      · rw [state] at waits
        rcases waits with waits | waits <;> cases waits
    refine ⟨rfl, source, .inl ⟨rfl, moving, ?_⟩⟩
    cases satisfies with
    | none => exact .inl rfl
    | some key => exact .inr (bound key rfl).symm
  | @patchRestart patchId satisfies idle source bound state =>
    have unblocked := inv.unblocked_of_working (isWorking_of_restartable state)
    refine ⟨rfl, rfl, ?_, source, unblocked⟩
    cases satisfies with
    | none => rfl
    | some key =>
      have key := bound key rfl
      rw [TaskConditions.blocksAdmission_eq_false] at unblocked
      simp [credentialKey, unblocked.1] at key
  | patchHostKey idle source state =>
    obtain ⟨-, -, requirement⟩ := inv.unpatched idle (by simp [state])
    exact ⟨requirement, .inr ⟨rfl, rfl, source⟩⟩
  | removeDraining => exact Stages.drain ⟨rfl, rfl, rfl⟩ (by rintro ⟨⟩)
  | removeIdle | restartFailed => exact ⟨rfl, rfl, rfl⟩
  | removeStopped idle _ state => exact inv.unpatched idle (by simp [state])
  | applyRestartPatch idle state mode patch =>
    obtain ⟨requirement, ⟨-, unset, -⟩ | ⟨-, -, source, unblocked, -⟩⟩ := inv.idle_staged idle
    · rw [unset] at mode
      cases mode
    · exact ⟨patch, source, .inr ⟨mode, requirement, unblocked, .inl state⟩⟩
  | admitted state row unstaged admits =>
    have free : t.Unpatched := by
      obtain ⟨requirement, ⟨patch, mode, -⟩ | ⟨-, mode, -, -, waits⟩⟩ := inv.idle_staged admits.idle
      · exact ⟨patch, mode, requirement⟩
      · rcases waits with waits | waits
        · exact absurd ⟨waits, mode⟩ unstaged
        · subst state
          rw [waits] at row
          cases row
    cases admits.generation <;> exact free
  | generationPersisted barrier state =>
    rw [barrier] at staged
    exact Stages.idle staged (by rw [markNonTokenEvent, state]; rintro ⟨⟩)
  | @patchPersistedControl patchId body succeeded action draft barrier row controls =>
    obtain ⟨restartable, slot⟩ := inv.restarting barrier
    rw [barrier] at staged
    cases succeeded with
    | false => exact staged_controls controls rfl ⟨rfl, rfl, rfl⟩
    | true => exact staged_controls_restarting controls restartable slot staged
  | patchPersisted barrier =>
    rw [barrier] at staged
    obtain ⟨patch, mode, requirement, source, unblocked⟩ := staged
    exact ⟨requirement, .inr ⟨by simp [awaitDrain, setState,
      RequestScheduler.patchPersistenceDraft, draft, patch], mode, source, unblocked,
      .inl rfl⟩⟩
  | patchPersistenceFailed _ _ state =>
    refine Stages.idle ⟨rfl, rfl, rfl⟩ fun moved => ?_
    simp [show t.state = _ from moved, restartable] at state
  | patchAppliedControl _ _ controls => exact staged_controls controls rfl ⟨rfl, rfl, rfl⟩
  | restartApplied =>
    exact Stages.idle ⟨rfl, rfl, rfl⟩ (by rintro ⟨⟩)
  | patchApplied barrier mode =>
    rw [barrier] at staged
    obtain ⟨-, -, ⟨-, moving, -⟩ | ⟨restart, -⟩⟩ := staged
    · exact Stages.idle ⟨rfl, rfl, rfl⟩ moving
    · rw [mode] at restart
      cases restart
  | hostKeyRemoved barrier _ controls =>
    rw [barrier] at staged
    exact staged_controls controls rfl ⟨rfl, rfl, staged.1⟩
  | hostKeyResolved barrier =>
    rw [barrier] at staged
    refine Stages.idle ⟨rfl, rfl, staged.1⟩ ?_
    split <;> rintro ⟨⟩
  | hostKeyUnresolved barrier =>
    rw [barrier] at staged
    exact Stages.idle ⟨rfl, rfl, staged.1⟩ (by rintro ⟨⟩)
  | advance state row =>
    obtain ⟨idle, free⟩ := inv.unpatched_of_report fresh state row.reports
    cases row <;> exact staged_of_idle idle free (by rintro ⟨⟩)
  | retryRetained state row | retryReleased state row | challenge state row =>
    obtain ⟨idle, free⟩ := inv.unpatched_of_report fresh state row.reports
    exact staged_of_idle idle free (by rintro ⟨⟩)
  | endWork state row => exact (inv.unpatched_of_report fresh state row.reports).2
  | verificationRecoverable state =>
    obtain ⟨idle, free⟩ := inv.unpatched_of_report fresh state ⟨rfl, rfl⟩
    exact staged_of_idle idle free (by rintro ⟨⟩)
  | representationRestart state admits | retryAdmitted state _ admits
  | slowAdmitted state _ admits =>
    have free := inv.unpatched admits.idle (by simp [state])
    cases admits.generation <;> exact free
  | noSpace state | terminalFailure state =>
    exact Stages.drain (inv.unpatched_of_report fresh state ⟨rfl, rfl⟩).2 (by rintro ⟨⟩)
  | slowDemoted state | slowPaused state =>
    have state : t.state = .active := commits.leaves state (by decide)
    exact Stages.drain (inv.unpatched_of_report fresh state ⟨rfl, rfl⟩).2 (by rintro ⟨⟩)
  | restartQuiesced barrier state settles reprobes | drained barrier state _ settles reprobes =>
    rw [barrier] at staged
    have settled := staged_settles settles rfl staged state
    cases reprobes.reprobed <;> exact settled
  | probed probe _ _ reprobes =>
    have present : t.noSpaceProbe.isSome = true := by rw [probe]; rfl
    have idle := inv.idle_of_probe fresh rfl present
    have free := inv.unpatched_of_blocked idle
      (by simp [TaskConditions.blocksAdmission, (inv.probing present).1])
    obtain ⟨-, ⟨-, -, replacing⟩ | ⟨some, -⟩⟩ := inv.idle_staged idle
    · cases reprobes.reprobed <;> simp only [awaitProbe, idle] <;>
        refine ⟨free.2.2, .inl ⟨free.1, free.2.1, fun moved => replacing ?_⟩⟩ <;>
        simp only [afterProbe] at moved <;> split at moved <;> first | exact moved | cases moved
    · rw [free.1] at some
      cases some
  | terminalPersisted barrier =>
    rw [barrier] at staged
    exact Stages.idle staged (by rintro ⟨⟩)
  | deletionFailed barrier state =>
    rw [barrier] at staged
    exact Stages.idle staged (by rw [show _ = stoppedResult from state]; rintro ⟨⟩)

end Ariax
