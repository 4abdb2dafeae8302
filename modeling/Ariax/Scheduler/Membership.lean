import Ariax.Scheduler.Valid

/-!
# Queue membership

Every commit leaves the queues in agreement with the classes of the tasks,
but a task may lose its class: `queue_class` is `None` for a removed task
that waits for a drain without holding a slot. A removal produces such a
task when the worker it drains has given its slot back already, that is when
the task is quiesced for a restart, or paused while it was, and slotless.
Without such a removal every task stays a member of exactly one queue.
-/

namespace Ariax

open ScheduledTask

/-- Every task occurs exactly once across the five queues, in the queue of
its class; the queues hold nothing else, and the identities are the inverse
of the tasks. -/
structure RequestScheduler.QueueMembership (scheduler : RequestScheduler) : Prop where
  once : ∀ (gid : Gid) (t : ScheduledTask), scheduler.tasks[gid]? = some t →
    ∃ c, t.queueClass = some c ∧
      ∀ d, (scheduler.queues.get d).count gid = if d = c then 1 else 0
  known : ∀ (c : QueueClass) (gid : Gid), gid ∈ scheduler.queues.get c →
    ∃ t, scheduler.tasks[gid]? = some t
  nodup : ∀ c, (scheduler.queues.get c).Nodup
  inverse : ∀ (taskId : TaskId) (gid : Gid), scheduler.taskIds[taskId]? = some gid ↔
    ∃ t, scheduler.tasks[gid]? = some t ∧ t.taskId = taskId

namespace RequestScheduler

/-- A call removes a task whose worker is draining, or quiesced for a
restart, and holds no slot. -/
def removesSlotless (self : RequestScheduler) : SchedulerInput → Bool
  | .command (.remove gid _) _ =>
    match self.tasks[gid]? with
    | some t => t.deferringBarrier.isNone && !t.state.isTerminal && t.needsDrain &&
        decide (t.slot = .none)
    | none => false
  | _ => false

/-- In an index all of whose tasks have a class, the queues are as they should be. -/
theorem Indexed.queueMembership {self : RequestScheduler} (indexed : self.Indexed)
    (classed : ∀ (gid : Gid) (t : ScheduledTask), self.tasks[gid]? = some t →
      t.queueClass.isSome = true) : self.QueueMembership where
  once gid t stored := by
    obtain ⟨c, hc⟩ := Option.isSome_iff_exists.mp (classed gid t stored)
    have queued : self.classOf gid = some c := (classOf_stored stored).trans hc
    refine ⟨c, hc, fun d => ?_⟩
    split_ifs with hd
    · exact hd ▸ indexed.classified.count_eq_one queued
    · exact indexed.classified.count_eq_zero fun h =>
        hd (Option.some.inj (h.symm.trans queued))
  known c gid member := by
    have queued := (indexed.classified.mem_iff c gid).mp member
    cases stored : self.tasks[gid]? with
    | none => simp [classOf, stored] at queued
    | some t => exact ⟨t, rfl⟩
  nodup := indexed.classified.nodup
  inverse _ _ := indexed.inverse

end RequestScheduler

/-! ## Tasks without a class -/

section Classes

variable {self : RequestScheduler} {gid : Gid} {t : ScheduledTask} {cause : StepCause}
  {action : SchedulerAction} {draft : Draft} {publish : Bool} {ids : IdCounters}

open PendingBarrier

theorem ScheduledTask.Inv.removed_of_classless (inv : t.Inv) (classless : t.queueClass = none) :
    t.state = .removed ∧ isDrain t.pendingBarrier = true ∧ t.slot = .none := by
  have placed := inv.placed
  cases hb : t.pendingBarrier with
  | none =>
    cases hs : t.state <;>
      simp_all [queueClass, PendingBarrier.admits, TaskState.idleSlot]
  | some barrier =>
    cases barrier with
    | cancellationDrain _ target =>
      cases target <;> cases hs : t.state <;>
        simp_all [queueClass, PendingBarrier.admits, DrainTarget.drains,
          DrainTarget.state, isDrain, awaitsTerminalPersistence]
    | _ =>
      cases hs : t.state <;>
        simp_all [queueClass, PendingBarrier.admits, TaskState.idleSlot,
          TaskState.restartable, awaitsTerminalPersistence]

variable (inv : t.Inv) (fresh : cause.Fresh t)
  (step : TaskStep self gid t cause action draft publish ids)
include inv fresh step

/-- A removed task that waits for a drain without a slot was left so by its
removal, or was so before. -/
theorem TaskStep.removedSlotless (state : draft.task.state = .removed)
    (drain : isDrain draft.task.pendingBarrier = true) (slotless : draft.task.slot = .none) :
    (∃ force, cause = .command (.remove gid force) ∧ t.deferringBarrier = none ∧
      t.state.isTerminal = false ∧ t.needsDrain = true ∧ t.slot = .none) ∨
    (t.state = .removed ∧ isDrain t.pendingBarrier = true ∧ t.slot = .none) := by
  have paused : t.state.afterPause ≠ .removed := by
    cases t.state <;> simp [TaskState.afterPause]
  cases step with
  | removeDraining direct live drains =>
    exact .inl ⟨_, rfl, direct, live, drains, slotless⟩
  | resumeDeferred | retryBlocked | slowBlocked | removeDeferred | pauseDeferred =>
    exact .inr ⟨state, drain, slotless⟩
  | pauseDraining | pauseIdle => exact absurd state paused
  | resumeProbing idle _ _ _ probes =>
    cases probes.reprobed <;> split at drain <;> simp [Draft.awaitProbe, idle, isDrain] at drain
  | patchPersistedControl _ _ controls =>
    cases controls with
    | removeDraining _ _ slot => exact absurd slotless slot
    | pauseDraining => exact absurd state paused
    | pauseIdle | resume =>
      simp [Draft.cancelTimers, RequestScheduler.patchPersistenceDraft_task, isDrain] at drain
    | removeIdle => cases drain
  | patchAppliedControl _ _ controls =>
    cases controls with
    | removeDraining _ _ slot => exact absurd slotless slot
    | pauseDraining => exact absurd state paused
    | pauseIdle | resume | removeIdle => cases drain
  | hostKeyRemoved _ _ controls =>
    cases controls with
    | removeDraining _ _ slot => exact absurd slotless slot
    | removeIdle => cases drain
  | patchPersistenceFailed =>
    cases drain
  | advance _ row => cases row <;> cases state
  | endWork | removeIdle => cases drain
  | restartQuiesced _ _ settles reprobes | drained _ _ _ settles reprobes =>
    have undrained := settles.undrained rfl
    cases reprobes.reprobed <;> cases undrained.symm.trans drain
  | probed probe _ _ reprobes =>
    have idle := inv.idle_of_probe fresh rfl (by rw [probe]; rfl)
    cases reprobes.reprobed <;> simp [Draft.awaitProbe, idle, isDrain] at drain
  | sourceDraining _ _ _ _ slot => exact absurd slotless slot
  | sourceIdle idle | sourceCommitted idle =>
    simp [idle, Draft.cancelTimers, draft, isDrain] at drain
  | _ => first | cases state | cases drain

theorem classed_step {instant : MonotonicInstant} {plan : CommitPlan}
    (commits : draft.Commits self t action instant publish ids plan)
    (guarded : ∀ force, cause = .command (.remove gid force) → t.deferringBarrier = none →
      t.state.isTerminal = false → t.needsDrain = true → t.slot ≠ .none)
    (classed : t.queueClass.isSome = true) : draft.task.queueClass.isSome = true := by
  by_contra h
  obtain ⟨state, drain, slotless⟩ := (inv.step fresh step commits).removed_of_classless
    (Option.not_isSome_iff_eq_none.mp h)
  rcases step.removedSlotless inv fresh state drain slotless with
    ⟨force, removes, direct, live, drains, slot⟩ | ⟨state, drain, slot⟩
  · exact guarded force removes direct live drains slot
  · obtain ⟨barrier, hb⟩ : ∃ barrier, t.pendingBarrier = some barrier := by
      cases hb : t.pendingBarrier with
      | none => simp [hb, isDrain] at drain
      | some barrier => exact ⟨barrier, rfl⟩
    cases barrier with
    | cancellationDrain =>
      simp [queueClass, state, slot, hb, awaitsTerminalPersistence,
        SlotOwnership.ownsSlot] at classed
    | _ => simp [hb, isDrain] at drain

end Classes

structure RequestScheduler.Classed (scheduler : RequestScheduler) : Prop where
  valid : scheduler.Valid
  classed : ∀ (gid : Gid) (t : ScheduledTask), scheduler.tasks[gid]? = some t →
    t.queueClass.isSome = true

variable {self : RequestScheduler}

theorem RequestScheduler.Starts.classed (starts : self.Starts) : self.Classed := by
  refine ⟨starts.valid, fun gid t stored => ?_⟩
  obtain ⟨recovered, restores⟩ := starts.restores stored
  obtain ⟨recoverable, -⟩ := restores.checks
  obtain ⟨_, _, _, rfl, -⟩ := restores.task
  unfold RecoveredSchedulerTask.hasRecoverableState at recoverable
  cases hs : recovered.state <;>
    simp_all [queueClass, RecoveredSchedulerTask.scheduledTask]

theorem RequestScheduler.Classed.apply (classed : self.Classed)
    {input : SchedulerInput} (guarded : self.removesSlotless input = false) :
    (self.apply input).2.Classed := by
  refine apply_induction classed fun outcome after change => ⟨classed.valid.change change, ?_⟩
  refine change.forall_tasks classed.valid.indexed ?_ classed.classed
  refine ⟨fun {gid t} cause _ _ _ _ _ _ stored reaches step commits queued => ?_,
    fun _ _ paused _ => ?_,
    fun _ _ queued => queued⟩
  · refine classed_step (classed.valid.tasks gid t stored) reaches.fresh step commits ?_ queued
    rintro force rfl direct live drains slot
    cases reaches with
    | command =>
      simp [removesSlotless, stored, direct, live, drains, slot] at guarded
  · cases paused <;> rfl

/-- In every run from an empty or a restored scheduler in which no task is
removed slotless while its worker drains or is quiesced, the queues hold
every task exactly once, in the queue of its class, and nothing else. -/
theorem queueMembership_of_run {start self : RequestScheduler} {history : List SchedulerStep}
    (starts : start.Starts) (run : schedulerMachine.Run start history self)
    (guarded : Machine.Guarded (fun before input => before.removesSlotless input = false) history) :
    self.QueueMembership := by
  have classed : self.Classed := run.guarded guarded starts.classed fun _ _ classed guarded =>
    classed.apply guarded
  exact classed.valid.indexed.queueMembership classed.classed

/-- The removal of a task whose worker holds its slot keeps the queues in order. -/
theorem queueMembership_of_removal : (schedulerMachine.final (.new (Script.config true))
      (Script.activate ++ [Script.execute (.remove Script.gid false)])).QueueMembership :=
  queueMembership_of_run (.new _) (Machine.run_trace _ _) (by unfold Machine.Guarded; decide)

/-- A source replacement is begun for a task that waits for a retry without
a slot, and the task is removed. -/
def slotlessRemoval : List SchedulerInput :=
  [Script.add, Script.admitNext, Script.report .generationPersisted,
    Script.report (.allocationRetryable ⟨3⟩), Script.execute (.beginSourceReplacement Script.gid),
    Script.execute (.remove Script.gid false)]

/-- A task that is removed slotless while it is quiesced is in no queue. -/
theorem slotlessRemoval_leaves_queues : ∃ start history self,
    RequestScheduler.Starts start ∧ schedulerMachine.Run start history self ∧
      ¬self.QueueMembership := by
  refine ⟨.new (Script.config false), _, _, .new _, Machine.run_trace _ slotlessRemoval,
    fun membership => ?_⟩
  have lost : (schedulerMachine.final (.new (Script.config false))
      slotlessRemoval).tasks[Script.gid]?.map queueClass = some none := by decide
  obtain ⟨t, stored, classless⟩ := Option.map_eq_some_iff.mp lost
  obtain ⟨c, queued, -⟩ := membership.once Script.gid t stored
  rw [classless] at queued
  cases queued

end Ariax
