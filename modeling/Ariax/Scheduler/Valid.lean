import Ariax.Scheduler.Index
import Ariax.Scheduler.Retention

/-!
# The invariant of the scheduler

A property of tasks that every step keeps holds of every task, whatever the
call. With the invariant of tasks this gives the invariant of the scheduler:
its index is consistent and each of its tasks is well formed. A batch that
`restore` accepts has passed checks that amount to it: the queue orders
classify the GIDs of the batch, the identities are distinct, every task
carries the metadata of its state, and every snapshot may be published.
-/

namespace Ariax

open Except RequestScheduler SchedulerQueues OrderedMap

section Kept

variable {self after : RequestScheduler} {input : SchedulerInput} {outcome : SchedulerOutcome}
  {t : ScheduledTask}

theorem SchedulerInput.Reaches.fresh {gid : Gid} {cause : StepCause}
    {instant : MonotonicInstant} (h : input.Reaches gid t cause instant) : cause.Fresh t := by
  cases h with
  | command | admission => trivial
  | event _ _ fresh =>
    refine ⟨fresh.unbarred, fun token other seen => ?_⟩
    have unseen := fresh.unseen
    simp_all [isDuplicate, TaskEvent.kind, TaskEvent.token]

/-- A property of tasks that survives the steps an input can cause. It may
not depend on the place of a slow task in the admission order, which an
admission changes in tasks it does not act on. -/
structure KeptBySteps (scheduler : RequestScheduler) (input : SchedulerInput)
    (P : ScheduledTask → Prop) : Prop where
  step : ∀ {gid : Gid} {t : ScheduledTask} {cause : StepCause} {action : SchedulerAction}
    {draft : Draft} {publish : Bool} {ids : IdCounters} {instant : MonotonicInstant}
    {plan : CommitPlan}, scheduler.tasks[gid]? = some t → input.Reaches gid t cause instant →
    TaskStep scheduler gid t cause action draft publish ids →
    draft.Commits scheduler t action instant publish ids plan → P t → P draft.task
  added : ∀ (taskId : TaskId) (gid : Gid) (desiredPaused : Bool) (conditions : TaskConditions),
    P (addedTask taskId gid desiredPaused conditions)
  passed : ∀ (t : ScheduledTask) (position : ℕ), P t →
    P { t with slowRemainingPosition := position }

theorem Change.forall_tasks {P : ScheduledTask → Prop} (indexed : self.Indexed)
    (change : Change self input outcome after) (kept : KeptBySteps self input P)
    (before : ∀ (gid : Gid) (t : ScheduledTask), self.tasks[gid]? = some t → P t)
    (gid : Gid) (t : ScheduledTask) (stored : after.tasks[gid]? = some t) : P t := by
  cases change with
  | @step _ _ _ gid' _ _ _ _ _ _ ordinary stored' reaches taskStep commits =>
    obtain ⟨u, rfl, old⟩ := (commits.replaced (indexed.keyed stored') taskStep.same).cases stored
    obtain ⟨position, moved⟩ := u.passed_eq ordinary
    rw [moved]
    refine kept.passed u position ?_
    rcases old with ⟨-, rfl⟩ | ⟨-, old⟩
    · exact kept.step stored' reaches taskStep commits (before gid' _ stored')
    · exact before gid u old
  | add =>
    rw [show _ = _ from getElem?_tasks_addition gid] at stored
    split_ifs at stored with same
    · obtain rfl := Option.some.inj stored
      exact kept.added _ _ _ _
    · exact before gid t stored
  | delete stored' =>
    rw [getElem?_tasks_deletion (indexed.keyed stored')] at stored
    split_ifs at stored
    exact before gid t stored
  | reorder | policies => exact before gid t stored

theorem ScheduledTask.Inv.added (taskId : TaskId) (gid : Gid) (desiredPaused : Bool)
    (conditions : TaskConditions) : (addedTask taskId gid desiredPaused conditions).Inv := by
  cases desiredPaused <;> constructor <;>
    simp [addedTask, addedState, ScheduledTask.new, PendingBarrier.admits, TaskState.idleSlot,
      PendingBarrier.Stages, PendingBarrier.Defers, ScheduledTask.Results,
      TaskState.retainsConditions, PendingBarrier.isDrain]

theorem ScheduledTask.Inv.passed (inv : t.Inv) (position : ℕ) :
    ScheduledTask.Inv { t with slowRemainingPosition := position } :=
  ⟨inv.placed, inv.current, inv.staged, inv.deferred, inv.challenged, inv.presented,
    inv.conditioned, inv.retained, inv.probing, inv.finished, inv.demoted, inv.slowed,
    inv.started, inv.unpersisted⟩

/-- The index is consistent and every task is well formed. -/
structure RequestScheduler.Valid (scheduler : RequestScheduler) : Prop where
  indexed : scheduler.Indexed
  tasks : ∀ (gid : Gid) (t : ScheduledTask), scheduler.tasks[gid]? = some t → t.Inv

namespace RequestScheduler.Valid

theorem new (config : SchedulerConfig) : (new config).Valid where
  indexed := .new config
  tasks gid t stored := by simp [RequestScheduler.new] at stored

theorem change (valid : self.Valid) (change : Change self input outcome after) : after.Valid where
  indexed := valid.indexed.change change
  tasks := change.forall_tasks valid.indexed
    { step := fun _ reaches step commits inv => inv.step reaches.fresh step commits
      added := .added
      passed := fun _ position inv => inv.passed position } valid.tasks

theorem apply (valid : self.Valid) (input : SchedulerInput) : (self.apply input).2.Valid :=
  apply_induction valid fun _ _ => valid.change

end RequestScheduler.Valid

end Kept

/-! ## Queues -/

namespace RestoredQueues

theorem foldlM_addMember {c : QueueClass} {order : List Gid}
    {before after : OrderedMap Gid QueueClass}
    (h : order.foldlM (addMember c) before = .ok after) :
    order.Nodup ∧ (∀ gid ∈ order, before[gid]? = none) ∧
      ∀ gid : Gid, after[gid]? = if gid ∈ order then some c else before[gid]? := by
  refine foldlM_history h ?_ ?_
  · simp
  · rintro done m gid m' ⟨nodup, new, get⟩ step
    obtain ⟨absent, step⟩ := ite_error_eq_ok.mp step
    obtain rfl := ok.inj step
    have absent : m[gid]? = none := by simpa using absent
    have unread : gid ∉ done := fun hmem => by simp [get, hmem] at absent
    have unknown : before[gid]? = none := by simpa [get, unread] using absent
    refine ⟨?_, ?_, fun g => ?_⟩
    · rw [List.nodup_append]
      simpa [nodup] using fun a ha => ne_of_mem_of_not_mem ha unread
    · intro g hg
      rcases mem_snoc.mp hg with hg | rfl
      · exact new g hg
      · exact unknown
    · rw [getElem?_insert, get]
      by_cases hg : gid = g
      · simp [hg]
      · simp [hg, Ne.symm hg]

/-- The orders read so far classify the members seen so far. -/
structure Reads (restored : RestoredQueues) : Prop where
  classifies : Classifies restored.queues.get fun gid => restored.memberships[gid]?
  unread : ∀ c, c ∉ restored.seenClasses → restored.queues.get c = []

theorem Reads.addQueue {maxTasks : ℕ} {restored restored' : RestoredQueues} {order : QueueOrder}
    (reads : restored.Reads) (h : addQueue maxTasks restored order = .ok restored') :
    restored'.Reads := by
  simp only [RestoredQueues.addQueue, bind_eq_ok, rejectIf_eq_ok, pure_eq] at h
  obtain ⟨_, unseen, _, -, memberships, read, h⟩ := h
  obtain rfl := ok.inj h
  obtain ⟨nodup, new, get⟩ := foldlM_addMember read
  have empty := reads.unread order.queueClass unseen
  refine ⟨⟨fun c => ?_, fun c gid => ?_⟩, fun c unread => ?_⟩
  · rw [get_set]
    split_ifs
    · exact nodup
    · exact reads.classifies.nodup c
  · have known := reads.classifies.mem_iff c gid
    simp only [get_set, get]
    by_cases hc : order.queueClass = c
    · by_cases hmem : gid ∈ order.order <;> simp_all
    · by_cases hmem : gid ∈ order.order <;> simp_all
  · simp only [Finset.mem_insert, not_or] at unread
    rw [get_set, if_neg (Ne.symm unread.1)]
    exact reads.unread c unread.2

theorem Reads.ofOrders {maxTasks : ℕ} {orders : List QueueOrder} {restored : RestoredQueues}
    (h : ofOrders maxTasks orders = .ok restored) : restored.Reads := by
  simp only [RestoredQueues.ofOrders, bind_eq_ok] at h
  obtain ⟨read, folded, h⟩ := h
  split at h
  · cases h
  · obtain rfl := ok.inj h
    refine foldlM_history folded ?_ fun _ _ _ _ reads step => reads.addQueue step
    exact ⟨⟨fun c => by cases c <;> exact List.nodup_nil,
      fun c gid => by cases c <;> simp [SchedulerQueues.get]⟩, fun c _ => by cases c <;> rfl⟩

end RestoredQueues

/-! ## Tasks -/

/-- A scheduled task that was rebuilt from a validated recovered one. -/
structure RecoveredSchedulerTask.Restores (recovered : RecoveredSchedulerTask) (maxTasks : ℕ)
    (t : ScheduledTask) : Prop where
  validated : recovered.validateRecoveredTask maxTasks = .ok ()
  task : ∃ retryTimer slowReadmission noSpaceProbe, t = { recovered.scheduledTask with
      retryTimer := retryTimer
      slowReadmission := slowReadmission
      noSpaceProbe := noSpaceProbe } ∧
    retryTimer.isSome = decide (recovered.state = .retryWait) ∧
    slowReadmission.isSome = decide (recovered.state = .waitingSlow) ∧
    (noSpaceProbe.isSome = true → recovered.conditions.noSpace.isSome = true)

namespace RestoredTasks

variable {recovered : RecoveredSchedulerTask} {config : SchedulerConfig} {restored : RestoredTasks}
  {ids' ids : IdCounters} {draft' draft : Draft}

theorem redrawTimer_ok (h : redrawTimer recovered draft ids = .ok (draft', ids'))
    (unarmed : draft.task.retryTimer = none ∧ draft.task.slowReadmission = none) :
    ∃ retryTimer slowReadmission, draft'.task = { draft.task with
        retryTimer := retryTimer, slowReadmission := slowReadmission } ∧
      retryTimer.isSome = decide (recovered.state = .retryWait) ∧
      slowReadmission.isSome = decide (recovered.state = .waitingSlow) := by
  unfold redrawTimer at h
  split at h
  · next state =>
    split at h
    · cases h
    · obtain ⟨drawn, -, h⟩ := bind_eq_ok.mp h
      obtain ⟨rfl, -⟩ := Prod.mk.inj (ok.inj h)
      exact ⟨_, _, rfl, by simp [state], by simp [state, unarmed.2]⟩
  · next state =>
    split at h
    · cases h
    · obtain ⟨drawn, -, h⟩ := bind_eq_ok.mp h
      obtain ⟨rfl, -⟩ := Prod.mk.inj (ok.inj h)
      exact ⟨_, _, rfl, by simp [state, unarmed.1], by simp [state]⟩
  · next notRetry notSlow =>
    obtain ⟨rfl, -⟩ := Prod.mk.inj (ok.inj h)
    exact ⟨_, _, rfl, by simp [unarmed.1, show recovered.state ≠ .retryWait from notRetry],
      by simp [unarmed.2, show recovered.state ≠ .waitingSlow from notSlow]⟩

theorem redrawProbe_ok (h : redrawProbe recovered draft ids = .ok (draft', ids'))
    (idle : draft.task.noSpaceProbe = none) :
    ∃ noSpaceProbe, draft'.task = { draft.task with noSpaceProbe := noSpaceProbe } ∧
      (noSpaceProbe.isSome = true → recovered.conditions.noSpace.isSome = true) := by
  unfold redrawProbe at h
  split at h
  · obtain ⟨rfl, -⟩ := Prod.mk.inj (ok.inj h)
    exact ⟨_, rfl, by simp [idle]⟩
  · next retryAt blocked =>
    obtain ⟨drawn, -, h⟩ := bind_eq_ok.mp h
    obtain ⟨rfl, -⟩ := Prod.mk.inj (ok.inj h)
    refine ⟨_, rfl, fun _ => ?_⟩
    cases hn : recovered.conditions.noSpace with
    | none => simp [hn] at blocked
    | some => rfl

structure Fills (restored : RestoredTasks) (config : SchedulerConfig) : Prop where
  configured : restored.scheduler.config = config
  identified : restored.scheduler.Identified
  tasks : ∀ (gid : Gid) (t : ScheduledTask), restored.scheduler.tasks[gid]? = some t →
    ∃ recovered : RecoveredSchedulerTask, recovered.Restores config.maxTasks t

theorem Fills.addTask {restored' : RestoredTasks} (fills : restored.Fills config)
    (h : restored.addTask recovered = .ok restored') : restored'.Fills config := by
  simp only [RestoredTasks.addTask, bind_eq_ok, rejectIf_eq_ok, pure_eq] at h
  obtain ⟨_, freshGid, _, freshId, _, -, _, validated, ⟨timed, ids⟩, timer, ⟨probed, ids'⟩, probe,
    h⟩ := h
  obtain rfl := ok.inj h
  obtain ⟨retryTimer, slowReadmission, htimed, retry, slow⟩ := redrawTimer_ok timer ⟨rfl, rfl⟩
  obtain ⟨noSpaceProbe, hprobed, blocked⟩ := redrawProbe_ok probe (by rw [htimed]; rfl)
  rw [htimed] at hprobed
  have same : probed.task.gid = recovered.gid ∧ probed.task.taskId = recovered.taskId := by
    rw [hprobed]
    exact ⟨rfl, rfl⟩
  refine ⟨fills.configured, ?_, fun gid t stored => ?_⟩
  · refine fills.identified.inserted (u := probed.task) ?_ ?_ (fun g => ?_) (fun id => ?_)
      ⟨_, rfl, ?_, ?_⟩
    · simpa [same.1] using freshGid
    · simpa [same.2] using freshId
    · rw [same.1, getElem?_insert]
    · rw [same.1, same.2, getElem?_insert]
    · rw [same.2]
      cases restored.scheduler.highestTaskId <;> simp
    · intro old hold
      simp [hold]
  · rw [getElem?_insert] at stored
    split_ifs at stored
    · obtain rfl := Option.some.inj stored
      exact ⟨recovered, fills.configured ▸ validated,
        retryTimer, slowReadmission, noSpaceProbe, hprobed, retry, slow, blocked⟩
    · exact fills.tasks gid t stored

theorem Fills.of_foldlM {tasks : List RecoveredSchedulerTask}
    (h : tasks.foldlM RestoredTasks.addTask ⟨new config, ∅⟩ = .ok restored) :
    restored.Fills config := by
  refine foldlM_history h ?_ fun _ _ _ _ fills step => fills.addTask step
  exact ⟨rfl, .new config, fun gid t stored => by simp [new] at stored⟩

end RestoredTasks

namespace RecoveredSchedulerTask.Restores

variable {recovered : RecoveredSchedulerTask} {maxTasks : ℕ} {t : ScheduledTask}

theorem checks (h : recovered.Restores maxTasks t) : recovered.hasRecoverableState = true ∧
    (decide (recovered.state = .pausedHostKey) = recovered.hostKeyChallenge.isSome) ∧
    recovered.validateStoppedResult = .ok () := by
  have validated := h.validated
  simp only [validateRecoveredTask, bind_eq_ok, rejectIf_eq_ok] at validated
  obtain ⟨_, state, _, -, _, -, _, key, stopped⟩ := validated
  exact ⟨by simpa using state, not_not.mp key, stopped⟩

theorem results (recoverable : recovered.hasRecoverableState = true)
    (h : recovered.validateStoppedResult = .ok ()) :
    ScheduledTask.Results recovered.state recovered.error recovered.stoppedStatus
      (decide (recovered.state = .stoppedResult)) := by
  unfold validateStoppedResult at h
  unfold ScheduledTask.Results
  split at h
  · cases h
  · next status state persisted =>
    obtain ⟨passed, -⟩ := ite_error_eq_ok.mp h
    simp only [Bool.or_eq_true, Bool.not_eq_true', bne_iff_ne, ne_eq, not_or,
      Bool.not_eq_false, not_not] at passed
    obtain ⟨terminal, failed⟩ := passed
    rw [if_pos state]
    refine ⟨by simp [state], status, persisted, terminal, ?_⟩
    rw [← failed, decide_eq_true_iff]
  · next unstopped unfinished =>
    obtain ⟨passed, -⟩ := ite_error_eq_ok.mp h
    simp only [Bool.or_eq_true, not_or, Bool.not_eq_true, Option.isSome_eq_false_iff,
      Option.isNone_iff_eq_none] at passed
    have live : recovered.state ≠ .stoppedResult ∧ recovered.state ≠ .error := by
      unfold hasRecoverableState at recoverable
      refine ⟨fun state => unstopped state passed.1, fun state => ?_⟩
      rw [state] at recoverable
      cases recoverable
    rw [if_neg live.1]
    exact ⟨by simp [live.1], passed.1, by simp [passed.2, live.2]⟩

theorem inv (h : recovered.Restores maxTasks t) (publishable : t.Publishable) : t.Inv := by
  obtain ⟨recoverable, key, stopped⟩ := h.checks
  obtain ⟨retryTimer, slowReadmission, noSpaceProbe, rfl, -, -, blocked⟩ := h.task
  have live : recovered.state ≠ .pausedRestarting ∧ recovered.state ≠ .removed ∧
      recovered.state.idleSlot .none = true := by
    unfold hasRecoverableState at recoverable
    cases hs : recovered.state <;> simp_all [TaskState.idleSlot]
  exact {
    placed := live.2.2
    current := by rintro _ ⟨⟩
    staged := ⟨rfl, .inl ⟨rfl, rfl, fun restarting => absurd restarting live.1⟩⟩
    deferred := rfl
    challenged := key.symm
    presented := by rintro _ _ _ ⟨⟩
    conditioned := fun h => .inl (publishable.conditions h)
    retained := by rintro ⟨⟩
    probing := fun h => ⟨blocked h, live.2.1, rfl⟩
    finished := results recoverable stopped
    demoted := by rintro - ⟨⟩
    slowed := by rintro - ⟨⟩
    started := fun h => absurd rfl h
    unpersisted := fun _ => Finset.notMem_empty _ }

end RecoveredSchedulerTask.Restores

/-! ## The restored scheduler -/

namespace RequestScheduler

structure Restored (scheduler : RequestScheduler) : Prop where
  indexed : scheduler.Indexed
  tasks : ∀ (gid : Gid) (t : ScheduledTask), scheduler.tasks[gid]? = some t →
    t.Publishable ∧ ∃ recovered : RecoveredSchedulerTask,
      recovered.Restores scheduler.config.maxTasks t

variable {timerEffects : OrderedMap Gid (List TransitionEffect)}
  {memberships : OrderedMap Gid QueueClass} {gid : Gid}

theorem restorePublication_ok {state state' : RequestScheduler × List TransitionEffect}
    (h : restorePublication timerEffects state gid = .ok state') :
    ∃ t published, state.1.tasks[gid]? = some t ∧ t.Publishable ∧
      state'.1 = { state.1 with publishedSnapshots := published } := by
  unfold restorePublication at h
  split at h
  · cases h
  · next t stored =>
    split at h
    · cases h
    · next snapshot taken =>
      obtain ⟨publishable, rfl⟩ := ScheduledTask.snapshot_eq_ok.mp taken
      obtain rfl := ok.inj h
      exact ⟨t, _, stored, publishable, rfl⟩

theorem foldlM_restorePublication {scheduler : RequestScheduler} {members : List Gid}
    {result : RequestScheduler × List TransitionEffect}
    (h : members.foldlM (restorePublication timerEffects) (scheduler, []) = .ok result) :
    ∃ published, result.1 = { scheduler with publishedSnapshots := published } ∧
      ∀ gid ∈ members, ∃ t, scheduler.tasks[gid]? = some t ∧ t.Publishable := by
  refine foldlM_history h ?_ ?_
  · exact ⟨scheduler.publishedSnapshots, rfl, by simp⟩
  · rintro done state gid state' ⟨published, hstate, all⟩ step
    obtain ⟨t, published', stored, publishable, hstate'⟩ := restorePublication_ok step
    rw [hstate] at stored hstate'
    exact ⟨published', hstate', forall_mem_snoc.mpr ⟨all, t, stored, publishable⟩⟩

variable {self : RequestScheduler}

theorem checkMembership_ok {c : QueueClass} {u : Unit} (h : self.checkMembership (gid, c) = .ok u) :
    self.classOf gid = some c := by
  unfold checkMembership at h
  split at h
  · cases h
  · next t stored =>
    split at h
    · cases h
    · next expected queued =>
      obtain ⟨same, -⟩ := ite_error_eq_ok.mp h
      rw [Indexed.classOf_stored stored, queued, not_not.mp same]

theorem checkMembershipCount_ok {u : Unit} (h : self.checkMembershipCount memberships = .ok u) :
    memberships.size = self.tasks.size := by
  unfold checkMembershipCount at h
  split at h
  · assumption
  · split at h
    · cases h
    · split at h <;> cases h

/-- When every member of a queue is a task of that class and there are as
many members as tasks, every task is a member. -/
theorem exists_membership (size : memberships.size = self.tasks.size)
    (classified : ∀ (gid : Gid) (c : QueueClass), memberships[gid]? = some c →
      self.classOf gid = some c) {t : ScheduledTask} (stored : self.tasks[gid]? = some t) :
    ∃ c, memberships[gid]? = some c ∧ t.queueClass = some c := by
  have known (g : Gid) (h : memberships[g]?.isSome = true) : self.tasks[g]?.isSome = true := by
    obtain ⟨c, hc⟩ := Option.isSome_iff_exists.mp h
    have known := classified g c hc
    cases ht : self.tasks[g]? with
    | none => simp [classOf, ht] at known
    | some => rfl
  obtain ⟨c, hc⟩ := Option.isSome_iff_exists.mp
    (isSome_of_size_eq size known (k := gid) (by simp [stored]))
  exact ⟨c, hc, (Indexed.classOf_stored stored).symm.trans (classified gid c hc)⟩

theorem restore_restored {config : SchedulerConfig} {batch : SchedulerRestoreBatch}
    {plan : SchedulerRestorePlan} (h : restore config batch = .ok (self, plan)) :
    self.Restored := by
  simp only [restore, bind_eq_ok, rejectIf_eq_ok, pure_eq] at h
  obtain ⟨_, -, queues, read, filled, folded, _, count, _, checked, ⟨result, effects⟩, published,
    h⟩ := h
  obtain ⟨rfl, -⟩ := Prod.mk.inj (ok.inj h)
  have reads := RestoredQueues.Reads.ofOrders read
  have fills := RestoredTasks.Fills.of_foldlM folded
  obtain ⟨snapshots, rfl, shown⟩ := foldlM_restorePublication published
  have classified (gid : Gid) (c : QueueClass) (member : queues.memberships[gid]? = some c) :
      filled.scheduler.classOf gid = some c := by
    obtain ⟨_, ok⟩ := ok_of_mapM checked (Std.ExtTreeMap.mem_toList_iff_getElem?_eq_some.mpr member)
    exact checkMembership_ok ok
  have member (gid : Gid) (t : ScheduledTask) (stored : filled.scheduler.tasks[gid]? = some t) :=
    exists_membership (checkMembershipCount_ok count) classified stored
  have same (gid : Gid) : filled.scheduler.classOf gid = queues.memberships[gid]? := by
    cases ht : filled.scheduler.tasks[gid]? with
    | some t =>
      obtain ⟨c, hc, queued⟩ := member gid t ht
      rw [Indexed.classOf_stored ht, queued, hc]
    | none =>
      cases hm : queues.memberships[gid]? with
      | none => simp [classOf, ht]
      | some c => exact classified gid c hm
  have publication (gid : Gid) (t : ScheduledTask)
      (stored : filled.scheduler.tasks[gid]? = some t) : t.Publishable := by
    obtain ⟨c, hc, -⟩ := member gid t stored
    have queued : gid ∈ allQueueClasses.flatMap queues.queues.get :=
      List.mem_flatMap.mpr ⟨c, mem_allQueueClasses c, (reads.classifies.mem_iff c gid).mpr hc⟩
    obtain ⟨u, hu, publishable⟩ := shown gid queued
    obtain rfl := Option.some.inj (hu.symm.trans stored)
    exact publishable
  exact {
    indexed := ⟨⟨fills.identified.keyed, fills.identified.inverse, fills.identified.highest⟩,
      reads.classifies.congr same⟩
    tasks := fun gid t stored =>
      ⟨publication gid t stored, fills.configured ▸ fills.tasks gid t stored⟩ }

theorem Restored.valid (restored : self.Restored) : self.Valid where
  indexed := restored.indexed
  tasks gid t stored := by
    obtain ⟨publishable, recovered, restores⟩ := restored.tasks gid t stored
    exact restores.inv publishable

theorem Starts.valid (starts : self.Starts) : self.Valid := by
  cases starts with
  | new config => exact .new config
  | restore restored => exact (restore_restored restored).valid

theorem Starts.restores (starts : self.Starts) (stored : self.tasks[gid]? = some t) :
    ∃ recovered : RecoveredSchedulerTask, recovered.Restores self.config.maxTasks t := by
  cases starts with
  | new => simp [RequestScheduler.new] at stored
  | restore restored => exact ((restore_restored restored).tasks gid t stored).2

end RequestScheduler

theorem valid_of_reachable {self : RequestScheduler} (h : schedulerMachine.Reachable self) :
    self.Valid :=
  h.invariant (fun _ starts => starts.valid) fun _ input valid => valid.apply input

theorem valid_of_reachable_admitted : ∃ self : RequestScheduler,
    self.activeSlotCount = 1 ∧ self.Valid :=
  ⟨_, by decide, valid_of_reachable ⟨_, .new (Script.config true), _,
    Machine.run_trace _ [Script.add, Script.admitNext]⟩⟩

theorem valid_of_run {self before : RequestScheduler} {history : List SchedulerStep}
    (starts : before.Starts) (run : schedulerMachine.Run before history self) : self.Valid :=
  run.invariant starts.valid fun _ input valid => valid.apply input

end Ariax
