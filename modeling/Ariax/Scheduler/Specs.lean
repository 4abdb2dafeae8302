import Ariax.Scheduler.Contract

/-!
# What the shared steps do when they succeed

One lemma per shared step of the handlers, taking a successful call to the
relation of `Scheduler.Rules` that describes it.
-/

namespace Ariax

open ScheduledTask Except

/-! ## Lookups and guards -/

namespace RequestScheduler

theorem taskClone_eq_ok {self : RequestScheduler} {gid : Gid} {t : ScheduledTask} :
    self.taskClone gid = .ok t ↔ self.tasks[gid]? = some t := by
  unfold taskClone
  cases self.tasks[gid]? <;> simp

end RequestScheduler

namespace ScheduledTask

variable {t : ScheduledTask} {b : PendingBarrier}

theorem rejectPending_eq_ok {operation : String} {u : Unit} :
    t.rejectPending operation = .ok u ↔ t.pendingBarrier = none := by
  unfold rejectPending
  cases t.pendingBarrier <;> simp

theorem deferringBarrier_eq_none (direct : t.deferringBarrier = none)
    (h : t.pendingBarrier = some b) : b.defersUserControl = false := by
  simpa [deferringBarrier, h] using direct

theorem deferringBarrier_eq_some :
    t.deferringBarrier = some b ↔ t.pendingBarrier = some b ∧ b.defersUserControl = true := by
  simp [deferringBarrier, Option.filter_eq_some_iff]

theorem pausePending_eq_true :
    t.pausePending = true ↔ ∃ f, t.pendingUserControl = some (.pause f) := by
  unfold pausePending
  split <;> simp_all

theorem target_of_ite {action : SchedulerAction} {s target : TaskState} {p : Prop} [Decidable p]
    (h : t.targetState action = .ok s)
    (row : actionTarget t.state action = if p then some target else none) : p ∧ s = target := by
  rw [targetState_eq_ok, row] at h
  simpa [eq_comm] using h

end ScheduledTask

/-! ## Drafts -/

namespace Draft

variable {d d' : Draft} {target : DrainTarget} {operation : String} {force : Bool}

theorem beginCancellation_ok (h : d.beginCancellation target force operation = .ok d') :
    ∃ f effects, d.Cancels force f effects ∧ d' = d.awaitDrain target f effects := by
  simp only [beginCancellation] at h
  split at h
  next free =>
    cases h
    exact ⟨_, _, .begin (.inl free), rfl⟩
  next generation free =>
    cases h
    exact ⟨_, _, .begin (.inr ⟨generation, free⟩), rfl⟩
  next generation target' existing draining =>
    split at h
    next same =>
      cases h
      subst same
      exact ⟨_, _, .retarget draining, rfl⟩
    next => cases h
  next => cases h

theorem beginCancellation_bind {next : Draft → Except SchedulerError Planned} {planned : Planned}
    (h : (d.beginCancellation target force operation >>= next) = .ok planned) :
    ∃ f effects, d.Cancels force f effects ∧
      next (d.awaitDrain target f effects) = .ok planned := by
  obtain ⟨d', cancelled, h⟩ := bind_eq_ok.mp h
  obtain ⟨f, effects, cancels, rfl⟩ := beginCancellation_ok cancelled
  exact ⟨f, effects, cancels, h⟩

theorem Cancels.congr {f : Bool} {effects : List TransitionEffect} (h : d.Cancels force f effects)
    (taskId : d.task.taskId = d'.task.taskId) (gid : d.task.gid = d'.task.gid)
    (generation : d.task.generation = d'.task.generation)
    (barrier : d.task.pendingBarrier = d'.task.pendingBarrier) : d'.Cancels force f effects := by
  cases h with
  | begin free =>
    rw [taskId, gid, generation]
    exact .begin (barrier ▸ free)
  | retarget draining =>
    rw [generation, barrier] at draining
    rw [taskId, gid, generation]
    exact .retarget draining

theorem beginCancellation_of_none (free : d.task.pendingBarrier = none) :
    d.beginCancellation target force operation = .ok (d.awaitDrain target force
      [.cancelGeneration d.task.taskId d.task.gid d.task.generation force]) := by
  simp [beginCancellation, free]

theorem beginTerminal_bind {status : Aria2Status} {error : Option PublicError} {α : Type}
    {next : Draft → Except SchedulerError α} {result : α}
    (h : (d.beginTerminal status error >>= next) = .ok result) :
    next (d.awaitTerminal status error) = .ok result := by
  obtain ⟨d', terminal, h⟩ := bind_eq_ok.mp h
  obtain ⟨-, terminal⟩ := ite_error_eq_ok.mp terminal
  cases terminal
  exact h

theorem scheduleNoSpaceProbe_ok {origin : NoSpaceProbeOrigin} {instant : MonotonicInstant}
    {ids ids' : IdCounters} (h : d.scheduleNoSpaceProbe origin instant ids = .ok (d', ids')) :
    d.Probes origin instant ids d' ids' := by
  unfold scheduleNoSpaceProbe at h
  split at h
  next probe =>
    cases h
    exact .inFlight probe
  next idle =>
    obtain ⟨blocked, h⟩ := ite_error_eq_ok.mp h
    obtain ⟨⟨probeId, ids''⟩, draw, h⟩ := bind_eq_ok.mp h
    cases h
    exact .drawn (by simpa using idle) (by simpa [Option.isSome_iff_ne_none] using blocked) draw

theorem completePendingUserControl_ok {original : ScheduledTask}
    {completed : Option SchedulerAction}
    (h : d.completePendingUserControl original = .ok (completed, d'))
    (free : d.task.pendingBarrier = none) :
    (completed = none ∧ d.task.pendingUserControl = none ∧ d' = d) ∨
      ∃ action, completed = some action ∧ d.Controls original action d' := by
  simp only [completePendingUserControl] at h
  split at h
  next control =>
    cases h
    exact .inl ⟨rfl, control, rfl⟩
  next force control =>
    refine .inr ⟨.deferredPauseCompleted, ?_⟩
    obtain ⟨state, target, h⟩ := bind_eq_ok.mp h
    obtain ⟨⟨live, noChallenge⟩, rfl⟩ := target_of_ite target actionTarget_deferredPause
    split at h
    next slot =>
      rw [beginCancellation_of_none (by exact free)] at h
      cases h
      exact ⟨rfl, .pauseDraining control live noChallenge (SlotOwnership.ownsSlot_eq_true.mp slot)⟩
    next slot =>
      cases h
      exact ⟨rfl, .pauseIdle control live noChallenge
        (SlotOwnership.ownsSlot_eq_false.mp (Bool.eq_false_iff.mpr slot))⟩
  next control =>
    refine .inr ⟨.deferredResumeCompleted, ?_⟩
    obtain ⟨state, target, h⟩ := bind_eq_ok.mp h
    obtain ⟨paused, rfl⟩ := target_of_ite target actionTarget_deferredResume
    cases h
    exact ⟨rfl, .resume control paused⟩
  next force control =>
    refine .inr ⟨.deferredRemoveCompleted, ?_⟩
    obtain ⟨state, target, h⟩ := bind_eq_ok.mp h
    obtain ⟨live, rfl⟩ := target_of_ite target actionTarget_deferredRemove
    split at h
    next slot =>
      rw [beginCancellation_of_none (by exact free)] at h
      cases h
      exact ⟨rfl, .removeDraining control live (SlotOwnership.ownsSlot_eq_true.mp slot)⟩
    next slot =>
      cases beginTerminal_bind h
      exact ⟨rfl, .removeIdle control live
        (SlotOwnership.ownsSlot_eq_false.mp (Bool.eq_false_iff.mpr slot))⟩

end Draft

/-! ## Admission -/

namespace RequestScheduler

variable {action : SchedulerAction} {d' d : Draft} {ids' ids : IdCounters}

theorem planAdmission_ok {self : RequestScheduler} (h : self.planAdmission d action = .ok d') :
    ∃ entered, Admits self d.task entered ∧ actionTarget d.task.state action = some .allocating ∧
      d' = ⟨entered.reserveSlot .allocating, d.effects ++
        [.persistGenerationStarted entered.taskId entered.gid entered.generation]⟩ := by
  simp only [planAdmission, bind_eq_ok, rejectIf_eq_ok,
    rejectPending_eq_ok, targetState_eq_ok, pure_eq] at h
  obtain ⟨-, idle, -, wanted, -, free, target, row, -, allocating, generation, hgen, h⟩ := h
  obtain rfl : target = .allocating := not_not.mp allocating
  simp only [Bool.or_eq_true, not_or, Bool.not_eq_true] at wanted
  have admits (entered : ScheduledTask) (he : d.task.EntersGeneration entered) :
      Admits self d.task entered := by
    refine ⟨idle, wanted.1, wanted.2, fun slot => ?_, he⟩
    simpa [slot, SlotOwnership.ownsSlot] using free
  unfold admittedGeneration at hgen
  unfold enterGeneration at h
  split at hgen
  next started =>
    split at hgen
    next next succ =>
      cases hgen
      rw [if_pos (Generation.lt_of_checkedNext succ).ne'] at h
      cases h
      exact ⟨_, admits _ (.next started succ), row, rfl⟩
    next => cases hgen
  next fresh =>
    cases hgen
    rw [if_neg (not_not.mpr rfl)] at h
    cases h
    exact ⟨_, admits _ (.first (by simpa using fresh)), row, rfl⟩

/-! ## Drains -/

theorem drainDestination_ok {original : ScheduledTask} {target : DrainTarget} {publish : Bool}
    (h : drainDestination original d target action ids = .ok (d', publish, ids'))
    (quiesced : target = .pausedRestarting → action = .restartQuiesced) :
    Settles d ids target d' publish ids' := by
  unfold drainDestination at h
  cases target with
  | paused =>
    cases h
    exact .idle (.inl rfl)
  | pausedSlow =>
    cases h
    exact .idle (.inr (.inl rfl))
  | waiting =>
    cases h
    exact .idle (.inr (.inr rfl))
  | pausedRestarting =>
    obtain rfl := quiesced rfl
    simp only at h
    split at h
    next replacing =>
      cases h
      exact .source replacing
    next kept =>
      split at h
      next => cases h
      next patchId staged =>
        obtain ⟨mode, h⟩ := ite_error_eq_ok.mp h
        obtain ⟨state, htarget, h⟩ := bind_eq_ok.mp h
        obtain ⟨-, rfl⟩ := target_of_ite htarget SingleRow.restartQuiesced.target_eq
        cases h
        exact .patch (by simpa using kept) staged (not_not.mp mode)
  | waitingSlow =>
    simp only at h
    split at h
    next pending =>
      cases h
      exact .undecided pending
    next decision pending =>
      obtain ⟨⟨readmissionId, ids''⟩, draw, h⟩ := bind_eq_ok.mp h
      cases h
      exact .readmission pending draw
  | error =>
    simp only at h
    split at h
    next => cases h
    next error failed =>
      cases Draft.beginTerminal_bind h
      exact .error failed
  | removed =>
    cases Draft.beginTerminal_bind h
    exact .removed

theorem probeAfterDrain_ok (h : probeAfterDrain d ids = .ok (d', ids')) :
    Reprobes d ids d' ids' := by
  unfold probeAfterDrain at h
  split at h
  next retains =>
    split at h
    next probeAt retry => exact .probe retains retry (Draft.scheduleNoSpaceProbe_ok h)
    next quiet =>
      cases h
      exact .quiet fun _ => quiet
  next drops =>
    cases h
    exact .quiet fun retains => absurd retains drops

end RequestScheduler

end Ariax
