import Ariax.Scheduler.Staging

/-!
# Every step keeps the blockers and the host key of its task in order

Conditions are found only in states that may retain them, and a disk-space
probe runs only for a task that is out of disk space and not being drained.
A host key is shown exactly while its approval is awaited, and a resolution in
flight is for the key that is shown.
-/

namespace Ariax

open Draft PendingBarrier RequestScheduler ScheduledTask TaskConditions TaskState

variable {self : RequestScheduler} {gid : Gid} {t : ScheduledTask} {cause : StepCause}
  {action : SchedulerAction} {draft : Draft} {publish : Bool} {ids : IdCounters}
  {instant : MonotonicInstant} {plan : CommitPlan}

/-! ## Admission conditions -/

variable {conditions : TaskConditions} {target : DrainTarget} {satisfied : Bool} {d : Draft}
  {ids' : IdCounters}

theorem blocksAdmission_of_satisfied
    (blocked : (if satisfied then { conditions with needsCredentials := none }
      else conditions).blocksAdmission = true) : conditions.blocksAdmission = true := by
  cases satisfied <;> simp_all [blocksAdmission]

theorem unblocked_of_satisfied (unblocked : conditions.blocksAdmission = false) :
    (if satisfied then { conditions with needsCredentials := none }
      else conditions).blocksAdmission = false := by
  cases satisfied <;> simp_all [blocksAdmission]

theorem retained_controls (controls : d.Controls t action draft)
    (retained : d.task.slot = .retryRetained → d.task.conditions.blocksAdmission = false) :
    draft.task.slot = .retryRetained → draft.task.conditions.blocksAdmission = false := by
  cases controls <;> exact retained

/-! ## Disk-space probes -/

theorem ScheduledTask.Inv.probe_none (inv : t.Inv)
    (unblocked : t.conditions.blocksAdmission = false) : t.noSpaceProbe = none := by
  by_contra present
  have blocked := (inv.probing (Option.isSome_iff_ne_none.mpr present)).1
  simp [blocksAdmission, blocked] at unblocked

theorem ScheduledTask.Inv.unblocked_of_slot (inv : t.Inv) (placed : t.state.idleSlot t.slot = true)
    (owned : t.slot ≠ .none) : t.conditions.blocksAdmission = false := by
  by_cases kept : t.slot = .retryRetained
  · exact inv.retained kept
  · refine inv.unblocked_of_working ?_
    cases hs : t.state <;> simp_all [idleSlot, isWorking]

theorem needsDrain_of_retains (retains : t.state.retainsConditions = true) :
    t.needsDrain = isDrain t.pendingBarrier := by
  unfold needsDrain
  cases hs : t.state <;> rw [hs] at retains <;> first
    | (rcases t.pendingBarrier with _ | ⟨⟩ <;> rfl)
    | cases retains

theorem ScheduledTask.Inv.probe_none_of_needsDrain (inv : t.Inv) (drains : t.needsDrain = true) :
    t.noSpaceProbe = none := by
  by_contra present
  obtain ⟨blocked, live, undrained⟩ := inv.probing (Option.isSome_iff_ne_none.mpr present)
  have retains := (inv.conditioned (by simp [blocksAdmission, blocked])).resolve_right live
  rw [needsDrain_of_retains retains, undrained] at drains
  cases drains

theorem ScheduledTask.Inv.probe_none_of_drain (inv : t.Inv) {generation : Generation} {force : Bool}
    (barrier : t.pendingBarrier = some (.cancellationDrain generation target force)) :
    t.noSpaceProbe = none := by
  by_contra present
  obtain ⟨-, -, undrained⟩ := inv.probing (Option.isSome_iff_ne_none.mpr present)
  rw [barrier] at undrained
  cases undrained

theorem noSpace_of_satisfied (blocked : conditions.noSpace.isSome = true) :
    (if satisfied then { conditions with needsCredentials := none }
      else conditions).noSpace.isSome = true := by
  cases satisfied <;> exact blocked

theorem unprobed {probe : Option (NoSpaceProbeId × NoSpaceProbeOrigin)} {p : Prop}
    (absent : probe = none) (present : probe.isSome = true) : p := by
  rw [absent] at present
  cases present

theorem probing_controls (controls : d.Controls t action draft)
    (idle : d.task.pendingBarrier = none)
    (blocked : d.task.noSpaceProbe.isSome = true → d.task.conditions.noSpace.isSome = true)
    (owned : d.task.slot ≠ .none → d.task.noSpaceProbe = none) :
    draft.task.noSpaceProbe.isSome = true → draft.task.conditions.noSpace.isSome = true ∧
      draft.task.state ≠ .removed ∧ isDrain draft.task.pendingBarrier = false := by
  intro present
  cases controls with
  | pauseDraining _ _ _ slot => exact unprobed (owned slot) present
  | pauseIdle =>
    refine ⟨blocked present, ?_, by rw [idle]; rfl⟩
    cases t.state <;> rintro ⟨⟩
  | resume => exact ⟨blocked present, by rintro ⟨⟩, by simp only [cancelTimers, idle]; rfl⟩
  | removeDraining | removeIdle => cases present

theorem Settles.undrained {ids : IdCounters} (settles : Settles d ids target draft publish ids')
    (idle : d.task.pendingBarrier = none) : isDrain draft.task.pendingBarrier = false := by
  cases settles <;> first | rfl | (rw [idle]; rfl)

theorem probing_drained {settled reprobed : Draft} {ids ids'' : IdCounters}
    (settles : Settles d ids target settled publish ids')
    (reprobes : Reprobes settled ids' reprobed ids'') (idle : d.task.pendingBarrier = none)
    (absent : d.task.noSpaceProbe = none) :
    reprobed.task.noSpaceProbe.isSome = true → reprobed.task.conditions.noSpace.isSome = true ∧
      reprobed.task.state ≠ .removed ∧ isDrain reprobed.task.pendingBarrier = false := by
  cases reprobes with
  | quiet =>
    rw [settles.frame.probe, absent]
    rintro ⟨⟩
  | probe retains retry probes =>
    have blocked := Option.isSome_of_isSome_bind (Option.isSome_of_mem retry)
    have live : settled.task.state ≠ .removed := fun removed => by
      rw [removed] at retains
      cases retains
    cases probes.reprobed <;> exact fun _ => ⟨blocked, live, settles.undrained idle⟩

/-! ## Presented host keys -/

variable {challenge : Option PresentedHostKeyChallenge} {state : TaskState}

theorem unchallenged (absent : challenge = none) (elsewhere : state ≠ .pausedHostKey) :
    challenge.isSome = decide (state = .pausedHostKey) := by
  simp [absent, elsewhere]

theorem challenged_congr {state' : TaskState}
    (h : challenge.isSome = decide (state = .pausedHostKey))
    (same : state' = .pausedHostKey ↔ state = .pausedHostKey) :
    challenge.isSome = decide (state' = .pausedHostKey) := by
  simp [h, same]

theorem ScheduledTask.Inv.challenge_none (inv : t.Inv) (elsewhere : t.state ≠ .pausedHostKey) :
    t.hostKeyChallenge = none := by
  simpa [elsewhere] using inv.challenged

theorem challenged_controls (controls : d.Controls t action draft)
    (absent : t.state ≠ .pausedHostKey → d.task.hostKeyChallenge = none) :
    draft.task.hostKeyChallenge.isSome = decide (draft.task.state = .pausedHostKey) := by
  have paused : t.state ≠ .pausedHostKey → t.state.afterPause ≠ .pausedHostKey := by
    cases t.state <;> simp [afterPause]
  cases controls with
  | pauseDraining _ _ noChallenge | pauseIdle _ _ noChallenge =>
    exact unchallenged (absent noChallenge) (paused noChallenge)
  | resume _ state =>
    refine unchallenged (absent ?_) (by rintro ⟨⟩)
    rcases state with state | state <;> simp [state]
  | removeDraining | removeIdle => rfl

/-! ## The steps -/

variable (inv : t.Inv) (fresh : cause.Fresh t)
  (step : TaskStep self gid t cause action draft publish ids)
include inv fresh step

theorem conditioned_step (commits : draft.Commits self t action instant publish ids plan)
    (blocked : draft.task.conditions.blocksAdmission = true) :
    draft.task.state.retainsConditions = true ∨ draft.task.state = .removed := by
  -- a published snapshot has passed the check of its conditions
  cases published : publish with
  | true => exact .inl ((commits.publishable published).conditions blocked)
  | false =>
    have conditioned := inv.conditioned
    have never {p : Prop} (unblocked : t.conditions.blocksAdmission = false)
        (blocked : t.conditions.blocksAdmission = true) : p := by
      rw [blocked] at unblocked
      cases unblocked
    cases step with
    | approveHostKey _ state | removeStopped _ _ state | patchHostKey _ _ state
    | hostKeyUnresolved _ _ state =>
      rw [state] at conditioned
      exact conditioned blocked
    | removeDraining | removeIdle => exact .inr rfl
    | patchPersistedControl _ _ controls | patchAppliedControl _ _ controls =>
      cases controls with
      | removeDraining | removeIdle => exact .inr rfl
      | _ => cases published
    | hostKeyRemoved _ _ controls =>
      cases controls with
      | removeDraining | removeIdle => exact .inr rfl
    | patchPersistenceFailed =>
      exact conditioned blocked
    | restartFailed barrier mode =>
      have staged := inv.staged
      rw [barrier] at staged
      obtain ⟨-, -, ⟨inPlace, -⟩ | ⟨-, -, unblocked, -⟩⟩ := staged
      · rw [mode] at inPlace
        cases inPlace
      · exact never unblocked blocked
    | patchApplied => exact conditioned (blocksAdmission_of_satisfied blocked)
    | endWork state row =>
      exact never (inv.unblocked_of_working (state ▸ row.reports.working)) blocked
    | terminalFailure state =>
      exact never (inv.unblocked_of_working (by rw [state]; rfl)) blocked
    | restartQuiesced _ state settles reprobes | drained _ state _ settles reprobes =>
      rw [state] at conditioned
      cases reprobes.reprobed <;> simp only [mark, markNonTokenEvent, awaitProbe,
        settles.frame.conditions, settles.state state] at blocked ⊢ <;>
        exact conditioned blocked
    | patchInPlace | patchRestart | removeDeferred | applyRestartPatch | deletionFailed =>
      exact conditioned blocked
    | _ => cases published

theorem retained_step :
    draft.task.slot = .retryRetained → draft.task.conditions.blocksAdmission = false := by
  have retained := inv.retained
  cases step with
  | pauseRetry | removeIdle | generationPersisted | retryReleased | challenge | endWork
  | verificationRecoverable | admitted | representationRestart | retryAdmitted | slowAdmitted =>
    rintro ⟨⟩
  | resumeProbing idle source blocked retains probes =>
    cases probes.reprobed <;> split <;> exact retained
  | sourceCommitted _ _ slot =>
    intro kept
    rw [show t.slot = .retryRetained from kept] at slot
    cases slot
  | patchPersistedControl _ _ controls =>
    refine retained_controls controls ?_
    rw [patchPersistenceDraft_task]
    exact retained
  | patchPersistenceFailed =>
    exact retained
  | patchAppliedControl _ _ controls =>
    exact retained_controls controls fun slot => unblocked_of_satisfied (retained slot)
  | restartApplied | restartFailed | patchApplied =>
    exact fun slot => unblocked_of_satisfied (retained slot)
  | hostKeyRemoved _ _ controls => exact retained_controls controls retained
  | retryRetained state row => exact fun _ => inv.unblocked_of_working (state ▸ row.reports.working)
  | noSpace state =>
    obtain ⟨-, slot⟩ := inv.reporting fresh state ⟨rfl, rfl⟩
    intro kept
    rw [show t.slot = .retryRetained from kept] at slot
    cases slot
  | restartQuiesced _ _ settles reprobes | drained _ _ _ settles reprobes =>
    have slot := settles.frame.slot
    cases reprobes.reprobed <;> exact fun kept => by cases slot.symm.trans kept
  | probed probe _ _ reprobes =>
    have present := (inv.probing (by rw [probe]; rfl)).1
    have released : t.slot ≠ .retryRetained := fun kept => by
      have unblocked := retained kept
      simp [blocksAdmission, present] at unblocked
    cases reprobes.reprobed <;> exact fun kept => absurd kept released
  | _ => exact retained

section

variable (commits : draft.Commits self t action instant publish ids plan)
include commits

theorem probing_step :
    draft.task.noSpaceProbe.isSome = true → draft.task.conditions.noSpace.isSome = true ∧
      draft.task.state ≠ .removed ∧ isDrain draft.task.pendingBarrier = false := by
  have probing := inv.probing
  have unblocked_none := inv.probe_none
  intro present
  cases step with
  | pauseDraining _ _ drains =>
    exact unprobed (inv.probe_none_of_needsDrain drains) present
  | pauseRetry | pauseIdle =>
    obtain ⟨blocked, live, undrained⟩ := probing present
    refine ⟨blocked, ?_, undrained⟩
    cases t.state <;> rintro ⟨⟩
  | resumeProbing idle _ blocked retains probes =>
    have live : t.state.afterProbeRequest ≠ .removed := by
      revert retains
      cases t.state <;> decide
    have undrained : isDrain t.pendingBarrier = false := by rw [idle]; rfl
    cases probes.reprobed <;> split <;> exact ⟨blocked, live, undrained⟩
  | resume _ _ ready =>
    have blocked := (probing present).1
    rw [ready] at blocked
    cases blocked
  | approveHostKey | removeStopped | patchHostKey | hostKeyUnresolved | terminalPersisted =>
    exact ⟨(probing present).1, by rintro ⟨⟩, rfl⟩
  | sourceDraining idle _ _ _ slot =>
    exact unprobed (unblocked_none (inv.unblocked_of_slot (inv.idle_placed idle) slot)) present
  | sourceIdle =>
    obtain ⟨blocked, live, undrained⟩ := probing present
    refine ⟨blocked, ?_, undrained⟩
    revert live
    simp only [cancelTimers, draft]
    cases t.state <;> decide
  | sourceCommitted _ _ _ target cleared =>
    obtain ⟨blocked, live, undrained⟩ := probing present
    refine ⟨?_, ?_, undrained⟩
    · subst cleared
      split <;> exact blocked
    · rcases target with ⟨-, rfl⟩ | ⟨-, rfl⟩ | ⟨-, rfl⟩ <;> rintro ⟨⟩
  | removeDeferred | removeDraining | removeIdle => cases present
  | patchInPlace | patchRestart | applyRestartPatch | generationPersisted | deletionFailed =>
    obtain ⟨blocked, live, -⟩ := probing present
    exact ⟨blocked, live, rfl⟩
  | admitted _ _ _ admits | representationRestart _ admits
  | retryAdmitted _ _ admits | slowAdmitted _ _ admits =>
    have absent := unblocked_none admits.unblocked
    cases admits.generation <;> exact unprobed absent present
  | patchPersistedControl barrier _ controls =>
    obtain ⟨restartable, -⟩ := inv.restarting barrier
    have absent := unblocked_none (inv.unblocked_of_working (isWorking_of_restartable restartable))
    refine probing_controls controls ?_ ?_ ?_ present
    · rw [patchPersistenceDraft_task]
    · rw [patchPersistenceDraft_task]
      exact fun present => (probing present).1
    · rw [patchPersistenceDraft_task]
      exact fun _ => absent
  | patchPersisted _ _ state =>
    exact unprobed (unblocked_none
      (inv.unblocked_of_working (isWorking_of_restartable state))) present
  | patchPersistenceFailed =>
    obtain ⟨blocked, live, -⟩ := probing present
    exact ⟨blocked, live, rfl⟩
  | patchAppliedControl barrier _ controls =>
    refine probing_controls controls rfl (fun present => ?_) (fun slot => ?_) present
    · exact noSpace_of_satisfied (probing present).1
    · exact unblocked_none (inv.unblocked_of_slot (inv.applying barrier).1 slot)
  | restartApplied | restartFailed =>
    exact ⟨noSpace_of_satisfied (probing present).1, by rintro ⟨⟩, rfl⟩
  | patchApplied =>
    obtain ⟨blocked, live, -⟩ := probing present
    exact ⟨noSpace_of_satisfied blocked, live, rfl⟩
  | hostKeyRemoved _ _ controls =>
    cases controls with
    | removeDraining | removeIdle => cases present
  | hostKeyResolved =>
    refine ⟨(probing present).1, ?_, rfl⟩
    split <;> rintro ⟨⟩
  | advance _ row =>
    obtain ⟨blocked, -, undrained⟩ := probing present
    cases row <;> exact ⟨blocked, by rintro ⟨⟩, undrained⟩
  | retryRetained | retryReleased | challenge | verificationRecoverable =>
    obtain ⟨blocked, -, undrained⟩ := probing present
    exact ⟨blocked, by rintro ⟨⟩, undrained⟩
  | endWork _ row =>
    obtain ⟨blocked, -, -⟩ := probing present
    cases row <;> exact ⟨blocked, by rintro ⟨⟩, rfl⟩
  | noSpace state | terminalFailure state =>
    exact unprobed (unblocked_none (inv.unblocked_of_working (by rw [state]; rfl))) present
  | slowDemoted state | slowPaused state =>
    have state : t.state = .active := commits.leaves state (by decide)
    exact unprobed (unblocked_none (inv.unblocked_of_working (by rw [state]; rfl))) present
  | restartQuiesced barrier _ settles reprobes | drained barrier _ _ settles reprobes =>
    have drained := probing_drained settles reprobes rfl (inv.probe_none_of_drain barrier)
    exact drained present
  | probed probe _ _ reprobes =>
    obtain ⟨-, live, undrained⟩ := probing (by rw [probe]; rfl)
    cases reprobes with
    | done => cases present
    | again probes =>
      cases probes with
      | inFlight inFlight => cases inFlight
      | drawn _ blocked =>
        refine ⟨blocked, ?_, undrained⟩
        simp only [awaitProbe, afterProbe]
        split
        · rintro ⟨⟩
        · exact live
  | _ => exact probing present

theorem challenged_step :
    draft.task.hostKeyChallenge.isSome = decide (draft.task.state = .pausedHostKey) := by
  have challenged := inv.challenged
  have absent : t.state ≠ .pausedHostKey → t.hostKeyChallenge = none := inv.challenge_none
  cases step with
  | pauseDraining | pauseIdle =>
    refine challenged_congr challenged ?_
    cases hs : t.state <;> simp [setState, afterPause]
  | pauseRetry _ _ state | removeStopped _ _ state | verificationRecoverable state
  | noSpace state | terminalFailure state =>
    exact unchallenged (absent (by simp [state])) (by rintro ⟨⟩)
  | resumeProbing idle source blocked retains probes =>
    have same : t.state.afterProbeRequest = .pausedHostKey ↔ t.state = .pausedHostKey := by
      cases t.state <;> simp [afterProbeRequest]
    cases probes.reprobed <;> split <;> exact challenged_congr challenged same
  | resume _ _ _ state =>
    refine unchallenged (absent ?_) (by rintro ⟨⟩)
    rcases state with state | state | state <;> simp [state]
  | approveHostKey _ state | patchHostKey _ _ state =>
    exact challenged_congr challenged (by simp [acceptHostKeyPatch, draft, state])
  | sourceDraining | sourceIdle =>
    refine challenged_congr challenged ?_
    cases hs : t.state <;> simp [awaitDrain, cancelTimers, draft,
      afterSourceRequest]
  | sourceCommitted _ _ _ target =>
    rcases target with ⟨state, rfl⟩ | ⟨state, rfl⟩ | ⟨state, rfl⟩ <;>
      exact unchallenged (absent (by simp [state])) (by rintro ⟨⟩)
  | removeDraining | removeIdle | challenge => rfl
  | admitted state row _ admits =>
    have elsewhere : t.state ≠ .pausedHostKey := by cases row <;> simp [state]
    cases admits.generation <;> exact unchallenged (absent elsewhere) (by rintro ⟨⟩)
  | representationRestart state admits | retryAdmitted state _ admits
  | slowAdmitted state _ admits =>
    cases admits.generation <;> exact unchallenged (absent (by simp [state])) (by rintro ⟨⟩)
  | patchPersistedControl _ _ controls =>
    refine challenged_controls controls ?_
    rw [patchPersistenceDraft_task]
    exact absent
  | patchPersisted _ _ state | terminalPersisted _ state =>
    refine unchallenged (absent fun h => ?_) (by rintro ⟨⟩)
    rw [h] at state
    cases state
  | patchPersistenceFailed =>
    exact challenged
  | patchAppliedControl _ _ controls => exact challenged_controls controls absent
  | restartApplied _ _ _ state | restartFailed _ _ state
  | slowDemoted state | slowPaused state =>
    refine unchallenged (absent ?_) (by rintro ⟨⟩)
    rcases state with state | state <;> simp [state]
  | hostKeyRemoved _ _ controls =>
    cases controls <;> rfl
  | hostKeyResolved =>
    refine unchallenged rfl ?_
    split <;> rintro ⟨⟩
  | hostKeyUnresolved _ _ state =>
    exact challenged_congr challenged (by simp [setState, state])
  | advance state row | retryRetained state row | retryReleased state row | endWork state row =>
    cases row <;> exact unchallenged (absent (by simp [state])) (by rintro ⟨⟩)
  | restartQuiesced _ state settles reprobes =>
    have none := settles.frame.challenge.trans (absent (by simp [state]))
    have moved := settles.state state
    cases reprobes.reprobed <;> exact unchallenged none fun shown => by cases moved.symm.trans shown
  | @drained target _ _ _ _ _ _ barrier state moving settles reprobes =>
    have elsewhere : target.state ≠ .pausedHostKey := by cases target <;> rintro ⟨⟩
    have none := settles.frame.challenge.trans (absent (state ▸ elsewhere))
    have moved := settles.state state
    cases reprobes.reprobed <;> exact unchallenged none (moved ▸ elsewhere)
  | probed _ _ _ reprobes =>
    have same : t.state.afterProbe t.desiredPaused = .pausedHostKey ↔ t.state = .pausedHostKey := by
      simp only [afterProbe]
      split
      · next paused => simp [paused.1]
      · rfl
    cases reprobes.reprobed <;> exact challenged_congr challenged same
  | _ => exact challenged

end

theorem presented_step : ∀ generation resolutionId challenge, draft.task.pendingBarrier =
        some (.hostKeyResolution generation resolutionId challenge) →
      draft.task.hostKeyChallenge.map (fun presented => presented.summary.id) = some challenge := by
  intro generation resolutionId challenge hb
  have presented := inv.presented generation resolutionId challenge
  cases step with
  | approveHostKey _ _ shown same =>
    cases hb
    simp [shown, same]
  | patchHostKey _ _ _ shown same =>
    cases hb
    simp [acceptHostKeyPatch, draft, shown, same]
  | resumeProbing idle source blocked retains probes =>
    revert hb
    cases probes.reprobed <;> split <;> exact presented
  | patchPersistedControl _ _ controls =>
    cases controls <;> simp_all [Draft.cancelTimers, Draft.discard, Draft.awaitDrain,
      awaitTerminal, patchPersistenceDraft_task]
  | challenge state row =>
    obtain ⟨idle, -⟩ := inv.reporting fresh state row.reports
    rw [show t.pendingBarrier = _ from hb] at idle
    cases idle
  | patchAppliedControl _ _ controls | hostKeyRemoved _ _ controls =>
    cases controls <;> cases hb
  | patchPersistenceFailed =>
    cases hb
  | restartQuiesced _ _ settles reprobes | drained _ _ _ settles reprobes =>
    cases reprobes.reprobed <;> cases settles <;> cases hb
  | probed _ _ _ reprobes =>
    cases reprobes.reprobed <;> exact presented hb
  | _ =>
    first
      | exact presented hb
      | cases hb

end Ariax
