import Ariax.Scheduler.DirectControl

/-!
# The order of a control and an acknowledgement

The deferred order, in which the control precedes the acknowledgement, is
compared with the direct order, in which it follows it. A pause leaves the
same in both, unless the task is held at a host key: the contract has no
deferred pause there, so the acknowledgement is refused and the task waits for
its patch for ever. A resume differs more often: the deferred code forgets the
pause without asking for disk space, and it moves only a paused task, where the
direct code probes the disk first and also readmits a demoted task.
-/

namespace Ariax

open ScheduledTask Script

open RequestScheduler (patchApplicationDraft)

/-! ## Resume behind the barrier -/

section Deferred

variable {self : RequestScheduler} {t u : ScheduledTask} {patchId : OptionPatchId}
  {force : Bool} (instant : MonotonicInstant)

/-- The draft of a resume behind the barrier: the pause intent is dropped at once. -/
def ScheduledTask.resumingDraft (t : ScheduledTask) : Draft :=
  { t with
    desiredPaused := false
    slowDemotionCount := if t.isSlow then 0 else t.slowDemotionCount
  }.draft.cancelSlowReadmission.setControl
    (if t.state = TaskState.paused ∨ t.state = TaskState.pausedSlow then some .resume else none)

def ScheduledTask.resumedDraft (t : ScheduledTask) (patchId : OptionPatchId) : Draft :=
  let draft := patchApplicationDraft t patchId true
  { draft with
    task := { draft.task with
      pendingUserControl := none
      state := .waiting
      desiredPaused := false
      slowDemotionCount := 0 } }.cancelTimers

theorem planResume_of_waits (inv : t.Inv) (stored : self.tasks[t.gid]? = some t)
    (waits : t.AppliesInPlace patchId) (instant : MonotonicInstant) :
    self.resume t.gid instant =
      self.resumeDeferred t (.optionPatchApplication t.generation patchId) instant := by
  have kept : rejectIf t.pendingSourceReplacement
      (SchedulerError.conflict t.state "source_replacement_pending") = .ok () :=
    if_neg (by simp [(waits.requirement inv).2.1])
  simp only [RequestScheduler.resume, RequestScheduler.taskClone_eq_ok.mpr stored, Except.ok_bind,
    kept, waits.deferring]

variable (waits : t.AppliesInPlace patchId) (valid : self.ValidTimed)
  (stored : self.tasks[t.gid]? = some t)
include waits valid stored

theorem resumeDeferred_performs (free : t.pendingUserControl = none)
    (paused : t.desiredPaused = true) :
    Performs self (.command (.resume t.gid) instant) t.resumingDraft.task self.ids := by
  have inv := valid.valid.tasks _ t stored
  obtain ⟨live, accepted, -⟩ := waits.states inv
  have row : ContractAllows t.state .resumeDeferred t.state := by
    cases hs : t.state <;> first | exact ⟨.inr rfl, rfl⟩ | simp_all [TaskState.isTerminal]
  have ready : Draft.Ready self t .resumeDeferred t.resumingDraft true := by
    refine .of_live inv live row live ⟨rfl, rfl⟩ rfl .rfl (inv.retains live)
      (fun generation status same => ?_) ?_
    · cases waits.barrier.symm.trans same
    · have few := length_cancelSlowReadmission { t with
        desiredPaused := false
        slowDemotionCount := if t.isSlow then 0 else t.slowDemotionCount }.draft
      exact le_trans (Nat.add_le_add_right few 2) (show 0 + 1 + 2 ≤ 8 by decide)
  refine ready.performs valid stored instant ?_
  change RequestScheduler.perform self (RequestScheduler.resume self t.gid instant) = _
  rw [planResume_of_waits inv stored waits instant, RequestScheduler.resumeDeferred]
  split
  · next removes => cases free.symm.trans removes
  · rw [if_neg (by simp [paused])]
    rfl

theorem patchApplied_resumes (resumes : t.pendingUserControl = some .resume)
    (paused : t.state = .paused ∨ t.state = .pausedSlow) :
    Performs self (.event (t.patchApplied patchId) instant) (t.resumedDraft patchId).task
      self.ids := by
  have inv := valid.valid.tasks _ t stored
  obtain ⟨live, -, -⟩ := waits.states inv
  have row : ContractAllows t.state .deferredResumeCompleted .waiting := by
    rcases paused with paused | paused <;> rw [paused] <;> exact ⟨.inl rfl, rfl⟩
  have ready : Draft.Ready self t .deferredResumeCompleted (t.resumedDraft patchId) true := by
    refine .of_live inv live row rfl ⟨rfl, rfl⟩ rfl (iff_of_false (by rintro ⟨⟩) ?_)
      (fun _ => rfl) (fun _ _ => by rintro ⟨⟩) ?_
    · rcases paused with paused | paused <;> rw [paused] <;> rintro ⟨⟩
    · exact le_trans (Nat.add_le_add_right (length_cancelTimers _) 2) (show 0 + 2 + 2 ≤ 8 by decide)
  refine ready.performs valid stored instant ?_
  change RequestScheduler.perform self (RequestScheduler.planEvent self _ instant) = _
  have control : (patchApplicationDraft t patchId true).completePendingUserControl t =
      .ok (some .deferredResumeCompleted, t.resumedDraft patchId) := by
    simp only [Draft.completePendingUserControl, show
      (patchApplicationDraft t patchId true).task.pendingUserControl = some .resume from resumes,
      targetState_eq_ok.mpr row.target]
    rfl
  rw [RequestScheduler.planEvent_patchApplied inv stored waits, control]
  rfl

theorem resumeDeferred_idle (free : t.pendingUserControl = none)
    (unpaused : t.desiredPaused = false) :
    (self.apply (.command (.resume t.gid) instant)).2 = self := by
  have inv := valid.valid.tasks _ t stored
  have held : t.pausePending = false := by
    rw [pausePending, free]
  change (self.perform (self.resume t.gid instant)).2 = _
  rw [planResume_of_waits inv stored waits instant, RequestScheduler.resumeDeferred]
  split
  · next removes => cases free.symm.trans removes
  · rw [if_pos (by simp [unpaused, held])]
    rfl

end Deferred

/-! ## The two orders -/

/-- A control that the application of a patch defers. -/
inductive DeferrableControl where
  | pause (force : Bool)
  | resume

def DeferrableControl.command (gid : Gid) : DeferrableControl → SchedulerCommand
  | pause force => .pause gid force
  | resume => .resume gid

section Orders

variable {self : RequestScheduler} {t : ScheduledTask} {patchId : OptionPatchId}
  {control : DeferrableControl} {controlled acknowledged : MonotonicInstant}

section

variable (self : RequestScheduler) (t : ScheduledTask) (patchId : OptionPatchId)
  (control : DeferrableControl) (controlled acknowledged : MonotonicInstant)

/-- The control is issued, and the application acknowledged afterwards. -/
def RequestScheduler.deferredOrder : RequestScheduler :=
  ((self.apply (.command (control.command t.gid) controlled)).2.apply
    (.event (t.patchApplied patchId) acknowledged)).2

/-- The application is acknowledged, and the control issued afterwards. -/
def RequestScheduler.directOrder : RequestScheduler :=
  ((self.apply (.event (t.patchApplied patchId) acknowledged)).2.apply
    (.command (control.command t.gid) controlled)).2

end

/-- The record that the acknowledgement leaves when no control waits for it. -/
def ScheduledTask.applied (t : ScheduledTask) (patchId : OptionPatchId) : ScheduledTask :=
  (patchApplicationDraft t patchId true).task

theorem controlView_applied :
    (t.applied patchId).controlView =
      { t.controlView with conditions := t.appliedConditions, applying := false } := by
  rfl

/-- What a resume behind the barrier leaves once the application is acknowledged. -/
def ScheduledTask.deferredResumeView (t : ScheduledTask) (patchId : OptionPatchId) : ControlView :=
  let view := (t.applied patchId).controlView
  if t.desiredPaused then
    if t.state = .paused ∨ t.state = .pausedSlow then
      { view with state := .waiting, desiredPaused := false }
    else
      { view with desiredPaused := false }
  else
    view

section

variable (waits : t.AppliesInPlace patchId) (valid : self.ValidTimed)
  (stored : self.tasks[t.gid]? = some t) (free : t.pendingUserControl = none)
include waits valid stored free

theorem applied_performs (acknowledged : MonotonicInstant) :
    Performs self (.event (t.patchApplied patchId) acknowledged) (t.applied patchId) self.ids :=
  patchApplied_performs acknowledged waits valid stored free

theorem directOrder_pause {force : Bool} :
    (self.directOrder t patchId (.pause force) controlled acknowledged).controlView t.gid =
      some (t.applied patchId).pausedView := by
  have inv := valid.valid.tasks _ t stored
  have applied := applied_performs waits valid stored free acknowledged
  have rests := waits.rests inv
  have pauses := pause_performs controlled force applied.valid applied.stored rests
  exact (pauses.controlView (pauseDraft_facts rests).1).trans
    (congrArg some (pauseDraft_facts rests).2)

/-- At a host key the acknowledgement is refused, and the task keeps waiting for it. -/
theorem deferredOrder_pause {force : Bool} :
    (self.deferredOrder t patchId (.pause force) controlled acknowledged).controlView t.gid =
      some (if t.state = .pausedHostKey then (t.pausing force).controlView
        else (t.applied patchId).pausedView) := by
  have pausing : Performs self (.command (.pause t.gid force) controlled) (t.pausing force)
    self.ids := pauseDeferred_performs controlled waits valid stored free
  have waits' : (t.pausing force).AppliesInPlace patchId := ⟨waits.barrier, waits.mode⟩
  split_ifs with challenged
  · have fails := patchApplied_fails acknowledged waits' pausing.valid pausing.stored rfl challenged
    exact (congrArg (RequestScheduler.controlView · t.gid) fails).trans (pausing.controlView rfl)
  · have pauses := patchApplied_pauses acknowledged waits' pausing.valid pausing.stored rfl
      challenged
    refine (pauses.controlView ?_).trans ?_ <;> unfold ScheduledTask.drainedDraft <;>
      split_ifs <;> rfl

theorem directOrder_resume :
    (self.directOrder t patchId .resume controlled acknowledged).controlView t.gid =
      some ((t.applied patchId).resumedView self.ids) := by
  have inv := valid.valid.tasks _ t stored
  have applied := applied_performs waits valid stored free acknowledged
  rw [← applied.ids]
  exact resume_of_rests controlled applied.valid applied.stored (waits.rests inv)

theorem deferredOrder_resume :
    (self.deferredOrder t patchId .resume controlled acknowledged).controlView t.gid =
      some (t.deferredResumeView patchId) := by
  unfold deferredResumeView
  cases paused : t.desiredPaused with
  | false =>
    have idle : (self.apply (.command (.resume t.gid) controlled)).2 = self :=
      resumeDeferred_idle controlled waits valid stored free paused
    have applied := applied_performs waits valid stored free acknowledged
    change ((self.apply (.command (.resume t.gid) controlled)).2.apply _).2.controlView _ = _
    rw [idle]
    exact applied.controlView rfl
  | true =>
    have resuming : Performs self (.command (.resume t.gid) controlled) t.resumingDraft.task
      self.ids := resumeDeferred_performs controlled waits valid stored free paused
    have waits' : t.resumingDraft.task.AppliesInPlace patchId := ⟨waits.barrier, waits.mode⟩
    rw [if_pos rfl]
    split_ifs with idle
    · have resumes := patchApplied_resumes acknowledged waits' resuming.valid resuming.stored
        (if_pos idle) idle
      have quiet : t.retryLive = false := by
        by_contra live
        have waiting := (valid.timed _ t stored).armed (Bool.eq_true_of_not_eq_false live)
        simp [waiting] at idle
      refine (resumes.controlView rfl).trans (congrArg some ?_)
      rw [controlView_applied]
      simp only [controlView, quiet]
      rfl
    · have applied := patchApplied_performs acknowledged waits' resuming.valid resuming.stored
        (if_neg idle)
      exact (applied.controlView rfl).trans rfl

end

/-- When a resume leaves the same in both orders. Without disk space it must
not have to probe; with disk space it must find the pause intent that the
state of the task shows. -/
def ScheduledTask.resumeCommutes (t : ScheduledTask) (ids : IdCounters) : Bool :=
  let short := t.conditions.noSpace.isSome
  let probing := t.noSpaceProbe.isSome
  if short && !probing && !ids.drawNoSpaceProbe.isOk then
    !t.desiredPaused
  else
    match t.state with
    | .waitingSlow => false
    | .pausedSlow => t.desiredPaused && (!short || probing)
    | .paused => if short then !t.desiredPaused && probing else t.desiredPaused
    | _ => if short then probing else !t.desiredPaused

def DeferrableControl.commutes (t : ScheduledTask) (ids : IdCounters) : DeferrableControl → Bool
  | pause _ => decide (t.state ≠ .pausedHostKey)
  | resume => t.resumeCommutes ids

theorem deferredResumeView_eq_iff {ids : IdCounters} :
    t.deferredResumeView patchId = (t.applied patchId).resumedView ids ↔
      t.resumeCommutes ids = true := by
  have view : (t.applied patchId).controlView = _ := controlView_applied
  have short : (t.applied patchId).conditions.noSpace = t.conditions.noSpace := by
    rw [applied, patchApplicationDraft_conditions, appliedConditions]
    split <;> rfl
  have kept : (t.applied patchId).state = t.state ∧ (t.applied patchId).isSlow = t.isSlow ∧
      (t.applied patchId).noSpaceProbe = t.noSpaceProbe ∧
      (t.applied patchId).desiredPaused = t.desiredPaused := ⟨rfl, rfl, rfl, rfl⟩
  obtain ⟨state, slow, probe, intent⟩ := kept
  unfold deferredResumeView resumedView resumeCommutes
    probingState
  rw [view, short, state, slow, probe, intent]
  unfold controlView isSlow
  cases t.conditions.noSpace.isSome <;> cases t.noSpaceProbe.isSome <;> cases t.desiredPaused <;>
    cases ids.drawNoSpaceProbe.isOk <;> cases t.state <;> simp

end Orders

/-- The two orders leave the same exactly when the control commutes. -/
theorem deferredControl_commutes_iff {self : RequestScheduler} {gid : Gid} {t : ScheduledTask}
    {generation : Generation} {patchId : OptionPatchId}
    (reachable : schedulerMachine.Reachable self) (stored : self.tasks[gid]? = some t)
    (barrier : t.pendingBarrier = some (.optionPatchApplication generation patchId))
    (mode : t.pendingOptionPatchMode = some .inPlace) (free : t.pendingUserControl = none)
    (control : DeferrableControl) (controlled acknowledged : MonotonicInstant) :
    (self.deferredOrder t patchId control controlled acknowledged).controlView gid =
        (self.directOrder t patchId control controlled acknowledged).controlView gid ↔
      control.commutes t self.ids = true := by
  have valid := validTimed_of_reachable reachable
  obtain rfl : t.gid = gid := valid.valid.indexed.keyed stored
  have current : generation = t.generation := (valid.valid.tasks _ t stored).current _ barrier
  have waits : t.AppliesInPlace patchId := ⟨current ▸ barrier, mode⟩
  cases control with
  | pause force =>
    rw [deferredOrder_pause waits valid stored free, directOrder_pause waits valid stored free,
      Option.some_inj]
    split_ifs with challenged
    · refine iff_of_false (fun same => ?_) (by simp [DeferrableControl.commutes, challenged])
      have expected : RequestScheduler.expectedPatchApplication (t.pausing force) = some patchId :=
        RequestScheduler.expectedPatchApplication_eq_some.mpr waits.barrier
      have applying := congrArg ControlView.applying same
      rw [controlView, expected] at applying
      cases applying
    · simp [DeferrableControl.commutes, challenged]
  | resume =>
    rw [deferredOrder_resume waits valid stored free, directOrder_resume waits valid stored free,
      Option.some_inj]
    exact deferredResumeView_eq_iff

namespace Script

def patchPaused (conditions : TaskConditions) : List SchedulerInput :=
  [execute (.addValidatedTask taskId gid true conditions),
    execute (.applyOptionPatch gid patchId .inPlace none)]

def spaceless : TaskConditions := ⟨none, some ⟨"", none⟩⟩

def patched (conditions : TaskConditions) : RequestScheduler :=
  schedulerMachine.final (.new (config true)) (patchPaused conditions)

theorem patched_reachable (conditions : TaskConditions) :
    schedulerMachine.Reachable (patched conditions) :=
  ⟨_, .new _, _, Machine.run_trace _ _⟩

variable (self : RequestScheduler) (found : self.tasks[gid]?.isSome = true)
include self found

def task : ScheduledTask :=
  self.tasks[gid]?.get found

theorem task_stored : self.tasks[gid]? = some (task self found) :=
  (Option.some_get found).symm

end Script

/-- A paused task with disk space may be resumed before or after the acknowledgement. -/
theorem deferredControl_commutes_on_paused :
    ((Script.patched ⟨none, none⟩).deferredOrder (Script.task (Script.patched ⟨none, none⟩)
        (by decide)) Script.patchId .resume Script.instant Script.instant).controlView Script.gid =
      ((Script.patched ⟨none, none⟩).directOrder (Script.task (Script.patched ⟨none, none⟩)
        (by decide)) Script.patchId .resume Script.instant
        Script.instant).controlView Script.gid := by
  have barrier : (task (patched ⟨none, none⟩) (by decide)).pendingBarrier =
      some (.optionPatchApplication .initial patchId) := by decide
  refine (deferredControl_commutes_iff (patched_reachable _) (task_stored _ _)
    barrier ?_ ?_ _ _ _).mpr ?_ <;> decide

/-- A paused task without disk space is resumed. Behind the barrier the resume
readmits it without a probe; after the acknowledgement it stays paused and
probes the disk. -/
theorem deferredResume_without_probe : ∃ self t patchId,
    schedulerMachine.Reachable self ∧ self.tasks[Script.gid]? = some t ∧
      t.AppliesInPlace patchId ∧ t.pendingUserControl = none ∧
      (self.deferredOrder t patchId .resume Script.instant Script.instant).controlView Script.gid ≠
        (self.directOrder t patchId .resume Script.instant
          Script.instant).controlView Script.gid := by
  refine ⟨patched spaceless, task (patched spaceless)
    (by decide), patchId, patched_reachable _, task_stored _ _,
    ⟨?_, ?_⟩, ?_, ?_⟩ <;> decide

end Ariax
