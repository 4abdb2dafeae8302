import Ariax.Scheduler.Valid

/-!
# Retry timers

A retry timer is armed, or has fired, only while its task waits to retry, and
a pause that waits behind a barrier has cancelled it.
-/

namespace Ariax

/-- A retry timer runs, or has fired and not been used. -/
def ScheduledTask.retryLive (t : ScheduledTask) : Bool := t.retryTimer.isSome || t.retryReady

structure ScheduledTask.Timed (t : ScheduledTask) : Prop where
  fired : t.retryReady = true → t.retryTimer = none
  armed : t.retryLive = true → t.state = .retryWait
  held : ∀ force, t.pendingUserControl = some (.pause force) → t.retryLive = false

namespace ScheduledTask.Timed

variable {t u : ScheduledTask}

theorem quiet (timer : u.retryTimer = none) (ready : u.retryReady = false) : u.Timed := by
  have unlive : u.retryLive = false := by simp [retryLive, timer, ready]
  exact ⟨fun _ => timer, fun live => absurd (unlive.symm.trans live) Bool.false_ne_true,
    fun _ _ => unlive⟩

variable (h : t.Timed)
include h

theorem unlive (state : t.state ≠ .retryWait) :
    t.retryTimer = none ∧ t.retryReady = false := by
  have unlive : t.retryLive = false := Bool.eq_false_iff.mpr fun live => state (h.armed live)
  simpa [retryLive] using unlive

theorem unheld {force : Bool} (paused : t.pendingUserControl = some (.pause force)) :
    t.retryTimer = none ∧ t.retryReady = false := by
  simpa [retryLive] using h.held force paused

theorem away (state : t.state ≠ .retryWait) (timer : u.retryTimer = t.retryTimer)
    (ready : u.retryReady = t.retryReady) : u.Timed :=
  quiet (timer.trans (h.unlive state).1) (ready.trans (h.unlive state).2)

theorem kept (timer : u.retryTimer = t.retryTimer)
    (ready : u.retryReady = t.retryReady) (state : t.state = .retryWait → u.state = .retryWait)
    (control : u.pendingUserControl = t.pendingUserControl ∨
      ∀ force, u.pendingUserControl ≠ some (.pause force)) : u.Timed := by
  have live : u.retryLive = t.retryLive := by simp [retryLive, timer, ready]
  refine ⟨?_, fun armed => state (h.armed (live ▸ armed)), fun force paused => ?_⟩
  · rw [ready, timer]
    exact h.fired
  · rcases control with same | unpaused
    · rw [live]
      exact h.held force (same ▸ paused)
    · exact absurd paused (unpaused force)

end ScheduledTask.Timed

section Step

variable {self : RequestScheduler} {gid : Gid} {t : ScheduledTask} {cause : StepCause}
  {action : SchedulerAction} {draft : Draft} {publish : Bool} {ids : IdCounters}

theorem Draft.Controls.timed {d draft : Draft} {original : ScheduledTask}
    (controls : d.Controls original action draft)
    (quiet : (∃ force, d.task.pendingUserControl = some (.pause force)) →
      d.task.retryTimer = none ∧ d.task.retryReady = false) : draft.task.Timed := by
  cases controls with
  | pauseDraining control | pauseIdle control =>
    obtain ⟨timer, ready⟩ := quiet ⟨_, control⟩
    exact .quiet timer ready
  | resume | removeDraining | removeIdle => exact .quiet rfl rfl

theorem TaskStep.timed (inv : t.Inv) (fresh : cause.Fresh t) (h : t.Timed)
    (step : TaskStep self gid t cause action draft publish ids) : draft.task.Timed := by
  have working {u : ScheduledTask} (state : t.state.isWorking = true)
      (timer : u.retryTimer = t.retryTimer) (ready : u.retryReady = t.retryReady) : u.Timed := by
    refine h.away (fun retry => ?_) timer ready
    simp [retry, TaskState.isWorking] at state
  have drains {d reprobed : Draft} {target : DrainTarget} {ids ids' : IdCounters}
      (state : t.state ≠ .retryWait)
      (settles : Settles { t with pendingBarrier := none }.draft.releaseSlot self.ids target d
        publish ids) (reprobes : Reprobes d ids reprobed ids') :
      (reprobed.mark .cancellationDrained).task.Timed := by
    refine h.away state ?_ ?_ <;> cases reprobes.reprobed <;> cases settles <;> rfl
  have restarting {generation : Generation} {patchId : OptionPatchId}
      (barrier : t.pendingBarrier = some (.optionPatchPersistence generation patchId)) :
      t.state ≠ .retryWait := fun retry => by
    have restartable := (inv.restarting barrier).1
    simp [retry, TaskState.restartable] at restartable
  cases step with
  | pauseDeferred | pauseDraining | pauseRetry | pauseIdle | sourceDraining | sourceIdle
  | removeDeferred | removeDraining | removeIdle => exact .quiet rfl rfl
  | resumeDeferred =>
    refine h.kept rfl rfl id (.inr fun force => ?_)
    simp only [Draft.setControl]
    split_ifs <;> simp
  | resumeProbing idle source blocked retains probes =>
    refine h.kept ?_ ?_ ?_ (.inl ?_) <;> cases probes.reprobed <;> split <;>
      first | rfl | (intro state; simp [Draft.awaitProbe, state, TaskState.afterProbeRequest])
  | resume _ _ _ state =>
    refine h.away ?_ rfl rfl
    rcases state with state | state | state <;> simp [state]
  | sourceCommitted _ _ _ target =>
    refine h.away ?_ rfl rfl
    rcases target with ⟨state, -⟩ | ⟨state, -⟩ | ⟨state, -⟩ <;> simp [state]
  | approveHostKey _ state | patchHostKey _ _ state | removeStopped _ _ state
  | hostKeyResolved _ _ state | hostKeyUnresolved _ _ state | slowBlocked state
  | deletionFailed _ state =>
    exact h.away (by simp [state]) rfl rfl
  | hostKeyRemoved _ _ controls | patchAppliedControl _ _ controls =>
    exact controls.timed (by rintro ⟨_, paused⟩; exact h.unheld paused)
  | patchPersistedControl barrier _ controls =>
    refine controls.timed fun _ => ?_
    rw [RequestScheduler.patchPersistenceDraft_task]
    exact h.unlive (restarting barrier)
  | patchPersisted barrier | patchPersistenceFailed barrier =>
    exact h.away (restarting barrier) rfl rfl
  | admitted state _ _ admits due =>
    have timer : t.retryTimer = none := by
      by_cases state : t.state = .retryWait
      · exact h.fired (due.retry state)
      · exact (h.unlive state).1
    cases admits.generation <;> exact .quiet timer rfl
  | retryAdmitted _ _ admits => cases admits.generation <;> exact .quiet rfl rfl
  | slowAdmitted state _ admits | representationRestart state admits =>
    have timer := (h.unlive (by simp [state])).1
    cases admits.generation <;> exact .quiet timer rfl
  | restartApplied _ _ _ state | restartFailed _ _ state
  | slowDemoted state | slowPaused state =>
    refine h.away ?_ rfl rfl
    rcases state with state | state <;> simp [state]
  | advance state row | challenge state row | endWork state row =>
    exact working (state ▸ row.reports.working) rfl rfl
  | retryRetained state row | retryReleased state row =>
    have idle := (inv.reporting fresh state row.reports).1
    refine ⟨by simp [Draft.mark, ScheduledTask.markNonTokenEvent], fun _ => rfl,
      fun force paused => ?_⟩
    rw [show t.pendingUserControl = none from uncontrolled_of_idle inv idle] at paused
    cases paused
  | retryBlocked state =>
    have idle := inv.idle_of_work fresh rfl (.inr state)
    refine ⟨fun _ => rfl, fun _ => state, fun force paused => ?_⟩
    rw [show t.pendingUserControl = none from uncontrolled_of_idle inv idle] at paused
    cases paused
  | verificationRecoverable state | noSpace state | terminalFailure state =>
    exact working (by rw [state]; rfl) rfl rfl
  | restartQuiesced _ state settles reprobes =>
    exact drains (by simp [state]) settles reprobes
  | @drained target _ _ _ _ _ _ barrier state moving settles reprobes =>
    refine drains ?_ settles reprobes
    rw [state]
    cases target <;> decide
  | probed _ _ _ reprobes =>
    refine h.kept ?_ ?_ (fun state => ?_) (.inl ?_) <;> cases reprobes.reprobed <;>
      first | rfl | simp [Draft.awaitProbe, TaskState.afterProbe, state]
  | terminalPersisted _ state =>
    exact h.away (fun retry => by simp [retry, TaskState.isTerminal] at state) rfl rfl
  | _ => exact h.kept rfl rfl id (.inl rfl)

end Step

/-- Valid, with retry timers only where tasks wait to retry. -/
structure RequestScheduler.ValidTimed (scheduler : RequestScheduler) : Prop where
  valid : scheduler.Valid
  timed : ∀ (gid : Gid) (t : ScheduledTask), scheduler.tasks[gid]? = some t → t.Timed

namespace RequestScheduler

variable {self : RequestScheduler}

theorem Starts.validTimed (starts : self.Starts) : self.ValidTimed := by
  refine ⟨starts.valid, fun gid t stored => ?_⟩
  obtain ⟨recovered, restores⟩ := starts.restores stored
  obtain ⟨_, _, _, rfl, retry, -, -⟩ := restores.task
  refine ⟨fun ready => ?_, fun live => ?_, fun force paused => ?_⟩
  · cases ready
  · simpa [ScheduledTask.retryLive, retry, RecoveredSchedulerTask.scheduledTask,
      ScheduledTask.new] using live
  · cases paused

theorem ValidTimed.apply (h : self.ValidTimed) (input : SchedulerInput) :
    (self.apply input).2.ValidTimed := by
  refine apply_induction h fun outcome after change => ⟨h.valid.change change, ?_⟩
  refine change.forall_tasks h.valid.indexed ?_ h.timed
  refine ⟨fun stored reaches step _ timed => ?_, fun _ _ paused _ => ?_, fun _ _ timed => ?_⟩
  · exact step.timed (h.valid.tasks _ _ stored) reaches.fresh timed
  · exact .quiet rfl rfl
  · exact timed.kept rfl rfl id (.inl rfl)

end RequestScheduler

theorem validTimed_of_reachable {self : RequestScheduler} (h : schedulerMachine.Reachable self) :
    self.ValidTimed :=
  h.invariant (fun _ starts => starts.validTimed) fun _ input valid => valid.apply input

end Ariax
