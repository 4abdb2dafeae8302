import Ariax.Scheduler.Conditions

/-!
# Every step keeps the invariant of its task

The last clauses of the invariant, about retained results, the events a task
remembers and its generations, and the step lemma assembled from all clauses.
A step keeps the generation of its task, acknowledges that its start is
durable, or enters a generation.
-/

namespace Ariax

open Draft PendingBarrier ScheduledTask TaskState
open TaskEventKind (generationPersisted)

variable {self : RequestScheduler} {gid : Gid} {t : ScheduledTask} {cause : StepCause}
  {action : SchedulerAction} {draft : Draft} {publish : Bool} {ids : IdCounters}
  {instant : MonotonicInstant} {plan : CommitPlan}

/-! ## Results -/

/-- A task that stopped has a result, and one that failed has an error. -/
def TaskState.resulted : TaskState → Bool
  | stoppedResult | error => true
  | _ => false

theorem afterPause_resulted (state : TaskState) : state.afterPause.resulted = false := by
  cases state <;> rfl

section Results

variable {state state' : TaskState} {error : Option PublicError} {status : Option Aria2Status}
  {persisted : Bool} (h : Results state error status persisted)
include h

theorem ScheduledTask.Results.moved (live : state.isTerminal = false)
    (unresulted : state'.resulted = false) : Results state' error status persisted := by
  have stopped : state ≠ .stoppedResult := by rintro rfl; cases live
  have failed : state ≠ .error := by rintro rfl; cases live
  have unfinished : state' ≠ .stoppedResult := by rintro rfl; cases unresulted
  have unfailed : state' ≠ .error := by rintro rfl; cases unresulted
  rw [Results, if_neg stopped] at h
  rw [Results, if_neg unfinished]
  exact ⟨h.1, h.2.1, by simpa [failed, unfailed] using h.2.2⟩

theorem ScheduledTask.Results.live (live : state ≠ .stoppedResult) :
    persisted = false ∧ status = none := by
  rw [Results, if_neg live] at h
  exact ⟨h.1, h.2.1⟩

theorem ScheduledTask.Results.stopped {result : Aria2Status} (ended : state.result = some result) :
    Results .stoppedResult error (some result) true := by
  have live : state ≠ .stoppedResult := by rintro rfl; cases ended
  rw [Results, if_neg live] at h
  refine ⟨rfl, result, rfl, ?_, h.2.2.trans ?_⟩ <;> cases state <;> cases ended <;> decide

end Results

theorem results_controls {d : Draft} (controls : d.Controls t action draft)
    (finished : Results t.state d.task.error d.task.stoppedStatus d.task.terminalPersisted) :
    Results draft.task.state draft.task.error draft.task.stoppedStatus
      draft.task.terminalPersisted := by
  cases controls with
  | pauseDraining _ live | pauseIdle _ live =>
    exact finished.moved live (afterPause_resulted _)
  | resume _ state =>
    refine finished.moved ?_ rfl
    rcases state with state | state <;> rw [state] <;> rfl
  | removeDraining _ live => exact finished.moved live rfl
  | removeIdle => simp [Draft.awaitTerminal, Draft.discard, Results]

theorem isTerminal_of_retains {state : TaskState} (h : state.retainsConditions = true) :
    state.isTerminal = false := by
  cases state <;> first | rfl | cases h

theorem isTerminal_of_working {state : TaskState} (h : state.isWorking = true) :
    state.isTerminal = false := by
  cases state <;> first | rfl | cases h

/-! ## Remembered events -/

theorem undrained_of_deferring {barrier : PendingBarrier}
    (deferring : t.deferringBarrier = some barrier) : isDrain t.pendingBarrier = false := by
  obtain ⟨hb, defers⟩ := deferringBarrier_eq_some.mp deferring
  rw [hb]
  cases barrier <;> first | rfl | cases defers

/-- Which steps leave a slow task behind a drain: the one that made it slow,
or one that found it there. -/
inductive SlowDrain (t : ScheduledTask) (draft : Draft) : Prop
  | kept (state : draft.task.state = t.state) (drain : isDrain t.pendingBarrier = true)
      (seen : draft.task.seenEvents = t.seenEvents)
      (decided : draft.task.state = .waitingSlow →
        draft.task.pendingSlowReadmission = t.pendingSlowReadmission)
  | demoted (state : draft.task.state = .waitingSlow)
      (decided : draft.task.pendingSlowReadmission.isSome = true)
      (seen : TaskEventKind.slowDemoted ∈ draft.task.seenEvents)
  | paused (state : draft.task.state = .pausedSlow)
      (seen : TaskEventKind.slowPaused ∈ draft.task.seenEvents)

/-! ## Generations -/

/-- What a step does to the generation of its task. -/
inductive GenerationChange (t u : ScheduledTask) : Prop
  | kept (generation : u.generation = t.generation)
      (started : u.generationStarted = t.generationStarted)
      (slot : u.slot ≠ .none → t.slot ≠ .none)
      (barrier : ∀ g, u.pendingBarrier = some (.generationPersistence g) →
        t.pendingBarrier = some (.generationPersistence g))
      (seen : generationPersisted ∈ u.seenEvents →
        generationPersisted ∈ t.seenEvents)
  | persisted (barrier : t.pendingBarrier = some (.generationPersistence t.generation))
      (generation : u.generation = t.generation)
      (started : u.generationStarted = t.generationStarted) (idle : u.pendingBarrier = none)
  | entered {entered : ScheduledTask} (enters : t.EntersGeneration entered)
      (generation : u.generation = entered.generation) (started : u.generationStarted = true)
      (seen : generationPersisted ∈ u.seenEvents →
        generationPersisted ∈ entered.seenEvents)

theorem Settles.generation {d draft : Draft} {target : DrainTarget} {publish : Bool}
    {ids ids' : IdCounters} (settles : Settles d ids target draft publish ids') :
    draft.task.generation = d.task.generation ∧
      (d.task.pendingBarrier = none → ∀ g,
        draft.task.pendingBarrier ≠ some (.generationPersistence g)) := by
  cases settles <;> refine ⟨rfl, fun idle g => ?_⟩ <;> simp_all [awaitTerminal]

/-- A task entering a generation after its timer fired enters the one it
would have entered before. -/
theorem GenerationChange.of_admits {task entered : ScheduledTask} {u : ScheduledTask}
    (admits : Admits self task entered) (generation : task.generation = t.generation)
    (started : task.generationStarted = t.generationStarted)
    (seen : task.seenEvents = t.seenEvents) (same : u.generation = entered.generation)
    (reserved : u.generationStarted = true)
    (marked : generationPersisted ∈ u.seenEvents →
      generationPersisted ∈ entered.seenEvents) : GenerationChange t u := by
  cases admits.generation with
  | first fresh =>
    exact .entered (.first (started ▸ fresh)) (same.trans generation) reserved
      (fun h => seen ▸ marked h)
  | next old succ =>
    exact .entered (.next (started ▸ old) (generation ▸ succ)) same reserved marked

theorem ScheduledTask.Inv.owned_of_persisting (inv : t.Inv) {generation : Generation}
    (barrier : t.pendingBarrier = some (.generationPersistence generation)) : t.slot ≠ .none := by
  have placed := inv.placed
  rw [barrier] at placed
  rw [(of_decide_eq_true placed).2]
  rintro ⟨⟩

/-! ## The steps -/

section

variable (inv : t.Inv) (fresh : cause.Fresh t)
  (step : TaskStep self gid t cause action draft publish ids)
include inv fresh step

theorem finished_step (commits : draft.Commits self t action instant publish ids plan) :
    Results draft.task.state draft.task.error draft.task.stoppedStatus
      draft.task.terminalPersisted := by
  have finished := inv.finished
  cases step with
  | pauseDraining _ live | pauseIdle _ _ live =>
    exact finished.moved live (afterPause_resulted _)
  | pauseRetry _ _ state | approveHostKey _ state | patchHostKey _ _ state
  | hostKeyUnresolved _ _ state | verificationRecoverable state | noSpace state =>
    exact finished.moved (by rw [state]; rfl) rfl
  | resumeProbing _ _ _ retains probes =>
    have live : t.state.afterProbeRequest.resulted = false := by
      cases hs : t.state <;> rw [hs] at retains <;> first | rfl | cases retains
    cases probes.reprobed <;> split <;> exact finished.moved (isTerminal_of_retains retains) live
  | resume _ _ _ state =>
    refine finished.moved ?_ rfl
    rcases state with state | state | state <;> rw [state] <;> rfl
  | sourceDraining _ _ _ state | sourceIdle _ _ _ state =>
    have live : t.state.isTerminal = false ∧ t.state.afterSourceRequest.resulted = false := by
      revert state
      cases t.state <;> decide
    exact finished.moved live.1 live.2
  | sourceCommitted _ _ _ target =>
    rcases target with ⟨state, rfl⟩ | ⟨state, rfl⟩ | ⟨state, rfl⟩ <;>
      exact finished.moved (by rw [state]; rfl) rfl
  | removeDraining _ live => exact finished.moved live rfl
  | removeIdle => simp [Draft.awaitTerminal, Draft.releaseSlot, Draft.discard, Results]
  | removeStopped _ _ state =>
    rw [state] at finished
    exact finished
  | admitted state row _ admits =>
    have live : t.state.isTerminal = false := by cases row <;> rw [state] <;> rfl
    cases admits.generation <;> exact finished.moved live rfl
  | representationRestart state admits | retryAdmitted state _ admits
  | slowAdmitted state _ admits =>
    have live : t.state.isTerminal = false := by rw [state]; rfl
    cases admits.generation <;> exact finished.moved live rfl
  | patchPersistedControl _ _ controls =>
    refine results_controls controls ?_
    rw [RequestScheduler.patchPersistenceDraft_task]
    exact finished
  | patchPersisted _ _ state =>
    exact finished.moved (isTerminal_of_working (isWorking_of_restartable state)) rfl
  | patchPersistenceFailed => exact finished
  | patchAppliedControl _ _ controls | hostKeyRemoved _ _ controls =>
    exact results_controls controls finished
  | restartApplied _ _ _ state | slowDemoted state | slowPaused state =>
    refine finished.moved ?_ rfl
    rcases state with state | state <;> rw [state] <;> rfl
  | restartFailed => simp [awaitTerminal, setState, Results]
  | hostKeyResolved _ _ state =>
    refine finished.moved (by rw [state]; rfl) ?_
    simp only [setState]
    split <;> rfl
  | advance state row =>
    have live := isTerminal_of_working (state ▸ row.reports.working : t.state.isWorking = true)
    cases row <;> exact finished.moved live rfl
  | retryRetained state row | retryReleased state row | challenge state row =>
    exact finished.moved (isTerminal_of_working (state ▸ row.reports.working)) rfl
  | endWork _ row =>
    cases row <;> simp [mark, awaitTerminal, releaseSlot, ScheduledTask.draft,
      markNonTokenEvent, Results]
  | terminalFailure state =>
    obtain ⟨persisted, status⟩ := finished.live (by rw [state]; rintro ⟨⟩)
    simp [mark, awaitDrain, ScheduledTask.draft, markNonTokenEvent, Results, persisted, status]
  | restartQuiesced _ state settles reprobes =>
    rw [state] at finished
    cases settles with
    | idle plain => rcases plain with h | h | h <;> cases h
    | source => cases reprobes.reprobed <;> exact state ▸ finished
    | patch => cases reprobes.reprobed <;> exact finished
  | drained _ state moving settles reprobes =>
    cases settles with
    | idle | undecided | readmission => cases reprobes.reprobed <;> exact finished
    | source | patch => exact absurd rfl moving
    | error | removed =>
      cases reprobes.reprobed <;> simp [mark, markNonTokenEvent, awaitProbe, awaitTerminal,
        releaseSlot, ScheduledTask.draft, state, DrainTarget.state, Results]
  | probed _ _ _ reprobes =>
    have probed : Results (t.state.afterProbe t.desiredPaused) t.error t.stoppedStatus
        t.terminalPersisted := by
      simp only [afterProbe]
      split
      · next paused => exact finished.moved (by rw [paused.1]; rfl) rfl
      · exact finished
    cases reprobes.reprobed <;> exact probed
  | @terminalPersisted status barrier =>
    have placed := inv.placed
    rw [barrier] at placed
    have result : t.state.result = some status := (of_decide_eq_true placed).1
    exact finished.stopped result
  | _ => exact finished

theorem TaskStep.slowDrain (slow : draft.task.state = .waitingSlow ∨ draft.task.state = .pausedSlow)
    (drain : isDrain draft.task.pendingBarrier = true) : SlowDrain t draft := by
  have idle_absurd {p : Prop} (idle : t.pendingBarrier = none)
      (drain : isDrain t.pendingBarrier = true) : p := by
    rw [idle] at drain
    cases drain
  have paused : t.state.afterPause = .waitingSlow ∨ t.state.afterPause = .pausedSlow →
      t.state.afterPause = t.state ∧ t.state = .pausedSlow := by
    cases t.state <;> simp [afterPause]
  cases step with
  | slowDemoted => exact .demoted rfl rfl (Finset.mem_insert_self _ _)
  | slowPaused => exact .paused rfl (Finset.mem_insert_self _ _)
  | resumeDeferred | retryBlocked | slowBlocked => exact .kept rfl drain rfl fun _ => rfl
  | pauseDeferred deferring => cases drain.symm.trans (undrained_of_deferring deferring)
  | removeDeferred deferring =>
    obtain ⟨barrier, deferring⟩ := Option.isSome_iff_exists.mp deferring
    cases drain.symm.trans (undrained_of_deferring deferring)
  | pauseDraining _ _ drains =>
    obtain ⟨same, state⟩ := paused slow
    refine .kept same ?_ rfl fun waiting => ?_
    · rwa [needsDrain_of_retains (by rw [state]; rfl)] at drains
    · rw [show t.state.afterPause = .waitingSlow from waiting, state] at same
      cases same
  | pauseIdle idle | sourceIdle idle | sourceCommitted idle => exact idle_absurd idle drain
  | sourceDraining _ _ _ state =>
    have quiesced : t.state.afterSourceRequest ≠ .waitingSlow ∧
        t.state.afterSourceRequest ≠ .pausedSlow := by
      revert state
      cases t.state <;> decide
    exact absurd slow (not_or.mpr quiesced)
  | resumeProbing idle _ _ _ probes =>
    cases probes.reprobed <;> split at drain <;> exact idle_absurd idle drain
  | patchPersistedControl barrier _ controls =>
    obtain ⟨restartable, -⟩ := inv.restarting barrier
    cases controls with
    | pauseDraining =>
      rw [(paused slow).2] at restartable
      cases restartable
    | pauseIdle | resume =>
      simp [cancelTimers, RequestScheduler.patchPersistenceDraft_task, isDrain] at drain
    | removeDraining => rcases slow with slow | slow <;> cases slow
    | removeIdle => cases drain
  | patchAppliedControl barrier _ controls =>
    cases controls with
    | pauseDraining _ _ _ slot =>
      have placed := (inv.applying barrier).1
      rw [(paused slow).2] at placed
      exact absurd (of_decide_eq_true placed) slot
    | removeDraining => rcases slow with slow | slow <;> cases slow
    | pauseIdle | resume | removeIdle => cases drain
  | hostKeyRemoved _ _ controls =>
    cases controls with
    | removeDraining => rcases slow with slow | slow <;> cases slow
    | removeIdle => cases drain
  | patchPersistenceFailed => cases drain
  | advance _ row => cases row <;> rcases slow with slow | slow <;> cases slow
  | endWork => cases drain
  | restartQuiesced _ _ settles reprobes | drained _ _ _ settles reprobes =>
    have undrained := settles.undrained rfl
    cases reprobes.reprobed <;> cases undrained.symm.trans drain
  | probed probe _ _ reprobes =>
    have idle := inv.idle_of_probe fresh rfl (by rw [probe]; rfl)
    cases reprobes.reprobed <;> exact idle_absurd idle drain
  | _ =>
    first
      | (rcases slow with slow | slow <;> cases slow)
      | cases drain

theorem demoted_step (state : draft.task.state = .waitingSlow)
    (drain : isDrain draft.task.pendingBarrier = true) :
    draft.task.pendingSlowReadmission.isSome = true ∧
      TaskEventKind.slowDemoted ∈ draft.task.seenEvents := by
  cases step.slowDrain inv fresh (.inl state) drain with
  | kept same drain seen decided =>
    rw [seen, decided state]
    exact inv.demoted (same.symm.trans state) drain
  | demoted _ decided seen => exact ⟨decided, seen⟩
  | paused slow => rw [state] at slow; cases slow

theorem slowed_step (state : draft.task.state = .pausedSlow)
    (drain : isDrain draft.task.pendingBarrier = true) :
    TaskEventKind.slowPaused ∈ draft.task.seenEvents := by
  cases step.slowDrain inv fresh (.inr state) drain with
  | kept same drain seen =>
    rw [seen]
    exact inv.slowed (same.symm.trans state) drain
  | demoted slow => rw [state] at slow; cases slow
  | paused _ seen => exact seen

theorem TaskStep.generationChange : GenerationChange t draft.task := by
  have unmarked {kind : TaskEventKind} (other : kind ≠ .generationPersisted)
      (h : TaskEventKind.generationPersisted ∈ insert kind t.seenEvents) :
      TaskEventKind.generationPersisted ∈ t.seenEvents :=
    (Finset.mem_insert.mp h).resolve_left other.symm
  have worked {kind : TaskEventKind} (work : kind.acknowledges = false) :
      kind ≠ .generationPersisted := by
    rintro rfl
    cases work
  cases step with
  | admitted _ _ _ admits | retryAdmitted _ _ admits
  | slowAdmitted _ _ admits =>
    exact .of_admits admits rfl rfl rfl rfl rfl id
  | representationRestart _ admits =>
    exact .of_admits admits rfl rfl rfl rfl rfl
      fun h => (Finset.mem_insert.mp h).resolve_left (by decide)
  | generationPersisted barrier => exact .persisted barrier rfl rfl rfl
  | resumeProbing idle source blocked retains probes =>
    cases probes.reprobed <;> split <;> exact .kept rfl rfl id (fun _ => id) id
  | patchPersistedControl _ _ controls =>
    cases controls <;> simp only [Draft.awaitDrain, Draft.awaitTerminal, Draft.discard,
      Draft.cancelTimers, RequestScheduler.patchPersistenceDraft_task] <;>
      exact .kept rfl rfl id (by rintro _ ⟨⟩) id
  | patchAppliedControl _ _ controls | hostKeyRemoved _ _ controls =>
    cases controls <;> exact .kept rfl rfl id (by rintro _ ⟨⟩) id
  | advance _ row =>
    exact .kept rfl rfl id (fun _ => id) (unmarked (worked row.reports.work))
  | retryRetained state row =>
    have owned := (inv.reporting fresh state row.reports).2
    exact .kept rfl rfl (fun _ h => by rw [owned] at h; cases h) (fun _ => id)
      (unmarked (worked row.reports.work))
  | retryReleased _ row | challenge _ row =>
    exact .kept rfl rfl (fun h => absurd rfl h) (fun _ => id) (unmarked (worked row.reports.work))
  | endWork _ row =>
    exact .kept rfl rfl (fun h => absurd rfl h) (by rintro _ ⟨⟩)
      (unmarked (worked row.reports.work))
  | verificationRecoverable =>
    exact .kept rfl rfl (fun h => absurd rfl h) (fun _ => id) (unmarked (by decide))
  | noSpace | terminalFailure | slowDemoted | slowPaused =>
    exact .kept rfl rfl id (by rintro _ ⟨⟩) (unmarked (by decide))
  | restartQuiesced _ _ settles reprobes | drained _ _ _ settles reprobes =>
    obtain ⟨generation, free⟩ := settles.generation
    have frame := settles.frame
    cases reprobes.reprobed <;>
      exact .kept generation frame.started (fun h => absurd frame.slot h)
        (fun g h => absurd h (free rfl g))
        fun h => frame.seen ▸ (Finset.mem_insert.mp h).resolve_left (by decide)
  | probed _ _ _ reprobes =>
    cases reprobes.reprobed <;> exact .kept rfl rfl id (fun _ => id) id
  | terminalPersisted => exact .kept rfl rfl id (by rintro _ ⟨⟩) (unmarked (by decide))
  | pauseRetry => exact .kept rfl rfl (fun h => absurd rfl h) (fun _ => id) id
  | removeIdle => exact .kept rfl rfl (fun h => absurd rfl h) (by rintro _ ⟨⟩) id
  | _ => exact .kept rfl rfl id (by first | exact fun _ => id | rintro _ ⟨⟩) id

theorem started_step (owned : draft.task.slot ≠ .none) : draft.task.generationStarted = true := by
  cases step.generationChange inv fresh with
  | kept _ started slot => exact started.trans (inv.started (slot owned))
  | persisted barrier _ started =>
    exact started.trans (inv.started (inv.owned_of_persisting barrier))
  | entered _ _ started => exact started

theorem unpersisted_step (early : draft.task.generationStarted = false ∨ draft.task.pendingBarrier =
      some (.generationPersistence draft.task.generation)) :
    generationPersisted ∉ draft.task.seenEvents := by
  cases step.generationChange inv fresh with
  | kept generation started _ barrier seen =>
    rw [started, generation] at early
    exact fun h => inv.unpersisted (early.imp_right (barrier _)) (seen h)
  | persisted barrier _ started idle =>
    rw [started, inv.started (inv.owned_of_persisting barrier), idle] at early
    rcases early with early | early <;> cases early
  | entered enters _ _ seen =>
    intro h
    cases enters with
    | first fresh => exact inv.unpersisted (.inl fresh) (seen h)
    | next => exact absurd (seen h) (Finset.notMem_empty _)

end

theorem ScheduledTask.Inv.step (inv : t.Inv) (fresh : cause.Fresh t)
    (step : TaskStep self gid t cause action draft publish ids)
    (commits : draft.Commits self t action instant publish ids plan) : draft.task.Inv where
  placed := placed_step inv fresh step commits
  current := current_step inv step
  staged := staged_step inv fresh step commits
  deferred := deferred_step inv fresh step commits
  challenged := challenged_step inv fresh step commits
  presented := presented_step inv fresh step
  conditioned := conditioned_step inv fresh step commits
  retained := retained_step inv fresh step
  probing := probing_step inv fresh step commits
  finished := finished_step inv fresh step commits
  demoted := demoted_step inv fresh step
  slowed := slowed_step inv fresh step
  started := started_step inv fresh step
  unpersisted := unpersisted_step inv fresh step

end Ariax
