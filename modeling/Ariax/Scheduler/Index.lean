import Ariax.Scheduler.Run

/-!
# Identities and queue membership

The tasks are stored under their own GIDs, the identity index is the inverse
of the task map, no identity is above the highest one seen, and the queues
classify the GIDs by the class of their tasks. These facts are kept by every
change on the strength of the checks of the commit alone.
-/

namespace Ariax

open RequestScheduler ScheduledTask SchedulerQueues OrderedMap

section Identity

variable {self : RequestScheduler} {gid : Gid} {t : ScheduledTask} {cause : StepCause}
  {action : SchedulerAction} {draft : Draft} {publish : Bool} {ids : IdCounters}

def ScheduledTask.Same (t u : ScheduledTask) : Prop := u.taskId = t.taskId ∧ u.gid = t.gid

theorem ScheduledTask.EntersGeneration.same {entered : ScheduledTask}
    (h : t.EntersGeneration entered) : t.Same entered := by
  cases h <;> exact ⟨rfl, rfl⟩

theorem Draft.Reprobed.same {draft draft' : Draft} (h : draft.Reprobed draft') :
    draft.task.Same draft'.task := by
  cases h <;> exact ⟨rfl, rfl⟩

theorem Draft.Controls.same {original : ScheduledTask} {draft draft' : Draft}
    (h : draft.Controls original action draft') : draft.task.Same draft'.task := by
  cases h <;> exact ⟨rfl, rfl⟩

theorem Settles.same {draft draft' : Draft} {ids ids' : IdCounters} {target : DrainTarget}
    (h : Settles draft ids target draft' publish ids') : draft.task.Same draft'.task := by
  cases h <;> exact ⟨rfl, rfl⟩

theorem TaskStep.same (step : TaskStep self gid t cause action draft publish ids) :
    t.Same draft.task := by
  cases step with
  | resumeProbing idle source blocked retains probes =>
    have same := probes.reprobed.same
    split at same <;> exact same
  | patchPersistedControl _ _ controls =>
    have same := controls.same
    unfold patchPersistenceDraft at same
    split at same <;> exact same
  | patchAppliedControl _ _ controls | hostKeyRemoved _ _ controls =>
    exact controls.same
  | admitted _ _ _ admits | representationRestart _ admits
  | retryAdmitted _ _ admits | slowAdmitted _ _ admits =>
    exact admits.generation.same
  | restartQuiesced _ _ settles reprobes | drained _ _ _ settles reprobes =>
    cases reprobes.reprobed <;> exact settles.same
  | probed _ _ _ reprobes => exact reprobes.reprobed.same
  | _ => exact ⟨rfl, rfl⟩

end Identity

/-! ## The scheduler after a change -/

/-- The task after an admission that may have passed it over. -/
def ScheduledTask.passed (ordinary : Bool) (t : ScheduledTask) : ScheduledTask :=
  if ordinary && t.slowReadmissionReady then
    { t with slowRemainingPosition := t.slowRemainingPosition - 1 }
  else
    t

theorem ScheduledTask.passed_eq (ordinary : Bool) (t : ScheduledTask) :
    ∃ position, t.passed ordinary = { t with slowRemainingPosition := position } := by
  unfold passed
  split
  · exact ⟨_, rfl⟩
  · exact ⟨t.slowRemainingPosition, rfl⟩

namespace RequestScheduler

section

variable (self : RequestScheduler) (ordinary : Bool)
include self ordinary

theorem getElem?_tasks_passing (gid : Gid) :
    (self.passing ordinary).tasks[gid]? = self.tasks[gid]?.map (passed ordinary) := by
  cases ordinary with
  | false =>
    have same : passed false = id := funext fun t => by simp [passed]
    simp [passing, same]
  | true =>
    simp only [passing, advanceSlowPositions, if_true, Std.ExtTreeMap.getElem?_map]
    rfl

@[simp] theorem passing_taskIds : (self.passing ordinary).taskIds = self.taskIds := by
  cases ordinary <;> rfl

@[simp] theorem passing_queues : (self.passing ordinary).queues = self.queues := by
  cases ordinary <;> rfl

@[simp] theorem passing_highestTaskId :
    (self.passing ordinary).highestTaskId = self.highestTaskId := by
  cases ordinary <;> rfl

end

variable (self : RequestScheduler) (call : FinishCall) (plan : CommitPlan)

@[simp] theorem commit_queues :
    (self.commit call plan).queues = self.queues.setAll plan.updates := by
  unfold commit
  split <;> split <;> rfl

@[simp] theorem commit_highestTaskId :
    (self.commit call plan).highestTaskId = self.highestTaskId := by
  unfold commit
  split <;> split <;> rfl

@[simp] theorem commit_ids : (self.commit call plan).ids = call.ids := by
  unfold commit
  split <;> split <;> rfl

@[simp] theorem commit_config : (self.commit call plan).config = self.config := by
  unfold commit
  split <;> split <;> rfl

theorem commit_tasks : (self.commit call plan).tasks =
    match call.updated with
    | some task => self.tasks.insert task.gid task
    | none => self.tasks.erase call.original.gid := by
  unfold commit
  split <;> split <;> simp_all

theorem commit_taskIds : (self.commit call plan).taskIds =
    match call.updated with
    | some task => self.taskIds.insert task.taskId task.gid
    | none => self.taskIds.erase call.original.taskId := by
  unfold commit
  split <;> split <;> simp_all

end RequestScheduler

section

variable (ordinary : Bool) (t : ScheduledTask)
include ordinary t

@[simp] theorem ScheduledTask.passed_taskId : (t.passed ordinary).taskId = t.taskId := by
  obtain ⟨position, h⟩ := t.passed_eq ordinary
  rw [h]

@[simp] theorem ScheduledTask.passed_gid : (t.passed ordinary).gid = t.gid := by
  obtain ⟨position, h⟩ := t.passed_eq ordinary
  rw [h]

@[simp] theorem ScheduledTask.passed_queueClass :
    (t.passed ordinary).queueClass = t.queueClass := by
  obtain ⟨position, h⟩ := t.passed_eq ordinary
  rw [h]
  rfl

end

/-- Tasks and identities agree with each other. -/
structure RequestScheduler.Identified (scheduler : RequestScheduler) : Prop where
  keyed : ∀ {gid : Gid} {t : ScheduledTask}, scheduler.tasks[gid]? = some t → t.gid = gid
  inverse : ∀ {taskId : TaskId} {gid : Gid}, scheduler.taskIds[taskId]? = some gid ↔
    ∃ t, scheduler.tasks[gid]? = some t ∧ t.taskId = taskId
  highest : ∀ {gid : Gid} {t : ScheduledTask}, scheduler.tasks[gid]? = some t →
    ∃ highest, scheduler.highestTaskId = some highest ∧ t.taskId ≤ highest

/-- Tasks, identities and queues agree with each other. -/
structure RequestScheduler.Indexed (scheduler : RequestScheduler) : Prop
    extends scheduler.Identified where
  classified : Classifies scheduler.queues.get scheduler.classOf

/-- A scheduler in which the record of one task has been replaced, and its
GID moved to the queue of the new class. -/
structure Replaced (before after : RequestScheduler) (gid : Gid) (t u : ScheduledTask)
    (ordinary : Bool) : Prop where
  tasks : ∀ g : Gid, after.tasks[g]? =
    (if gid = g then some u else before.tasks[g]?).map (passed ordinary)
  taskIds : after.taskIds = before.taskIds.insert u.taskId gid
  highest : after.highestTaskId = before.highestTaskId
  queues : after.queues.get =
    Classifies.moved before.queues.get gid t.queueClass u.queueClass

variable {self after : RequestScheduler} {gid : Gid} {t u : ScheduledTask}
  {action : SchedulerAction}
  {draft : Draft} {instant : MonotonicInstant} {publish ordinary : Bool} {ids : IdCounters}
  {plan : CommitPlan}

section

variable (h : Replaced self after gid t u ordinary)
include h

theorem Replaced.cases {g : Gid} {v : ScheduledTask} (stored : after.tasks[g]? = some v) :
    ∃ w, v = w.passed ordinary ∧ ((g = gid ∧ w = u) ∨ (g ≠ gid ∧ self.tasks[g]? = some w)) := by
  rw [h.tasks] at stored
  by_cases hg : gid = g
  · rw [if_pos hg] at stored
    exact ⟨u, (Option.some.inj stored).symm, .inl ⟨hg.symm, rfl⟩⟩
  · rw [if_neg hg] at stored
    obtain ⟨w, hw, rfl⟩ := Option.map_eq_some_iff.mp stored
    exact ⟨w, rfl, .inr ⟨Ne.symm hg, hw⟩⟩

theorem Replaced.new : after.tasks[gid]? = some (u.passed ordinary) := by
  simp [h.tasks]

theorem Replaced.old {g : Gid} (hg : g ≠ gid) :
    after.tasks[g]? = self.tasks[g]?.map (passed ordinary) := by
  simp [h.tasks, Ne.symm hg]

end

theorem Draft.Commits.replaced (commits : draft.Commits self t action instant publish ids plan)
    (hgid : t.gid = gid) (same : t.Same draft.task) :
    Replaced self ((self.commit (draft.call t action instant publish ids) plan).passing ordinary)
      gid t draft.task ordinary := by
  obtain rfl : gid = draft.task.gid := hgid.symm.trans same.2.symm
  refine ⟨fun g => ?_, ?_, ?_, ?_⟩
  · rw [getElem?_tasks_passing, commit_tasks]
    simp only [Draft.call, getElem?_insert]
  · rw [passing_taskIds, commit_taskIds]
    simp only [Draft.call]
  · simp
  · rw [passing_queues, commit_queues, commits.updates, hgid, get_setAll_classOrders]

variable {conditions : TaskConditions} {position : Option ℕ} {desiredPaused : Bool}
  {taskId : TaskId}

theorem getElem?_tasks_addition (g : Gid) :
    (self.commit (additionCall self taskId gid desiredPaused conditions position instant)
      plan).tasks[g]? =
      if gid = g then some (addedTask taskId gid desiredPaused conditions) else self.tasks[g]? := by
  rw [commit_tasks]
  exact getElem?_insert self.tasks gid g _

theorem getElem?_tasks_deletion (hgid : t.gid = gid) (g : Gid) :
    (self.commit (t.deletionCall .stoppedResultDeletionSucceeded instant ids) plan).tasks[g]? =
      if gid = g then none else self.tasks[g]? := by
  subst hgid
  rw [commit_tasks]
  exact getElem?_erase self.tasks t.gid g

theorem reorder_perm {order : List Gid} {old position : ℕ} (found : order.idxOf? gid = some old)
    (inside : position < order.length) :
    ((order.eraseIdx old).insertIdx position gid).Perm order := by
  have member : gid ∈ order := by
    by_contra h
    simp [List.idxOf?_eq_none_iff.mpr h] at found
  have erased : order.eraseIdx old = order.erase gid := by
    rw [List.erase_eq_eraseIdx, found]
  have bound : position ≤ (order.erase gid).length := by
    rw [List.length_erase_of_mem member]
    omega
  rw [erased]
  exact (List.perm_insertIdx gid _ bound).trans (List.perm_cons_erase member).symm

variable {input : SchedulerInput}

theorem RequestScheduler.apply_induction {P : RequestScheduler → Prop}
    (h : P self) (change : ∀ outcome after, Change self input outcome after → P after) :
    P (self.apply input).2 := by
  have ends := self.apply_ends input
  generalize self.apply input = result at ends
  cases ends with
  | error | quiet => exact h
  | change made => exact change _ _ made

variable (config : SchedulerConfig)

theorem RequestScheduler.Identified.new : (new config).Identified where
  keyed h := by simp [RequestScheduler.new] at h
  inverse := by simp [RequestScheduler.new]
  highest h := by simp [RequestScheduler.new] at h

theorem RequestScheduler.Identified.inserted (identified : self.Identified)
    (freshGid : self.tasks[u.gid]? = none) (freshId : self.taskIds[u.taskId]? = none)
    (tasks : ∀ g : Gid, after.tasks[g]? = if u.gid = g then some u else self.tasks[g]?)
    (taskIds : ∀ id : TaskId,
      after.taskIds[id]? = if u.taskId = id then some u.gid else self.taskIds[id]?)
    (highest : ∃ highest, after.highestTaskId = some highest ∧ u.taskId ≤ highest ∧
      ∀ old, self.highestTaskId = some old → old ≤ highest) : after.Identified := by
  refine ⟨fun {g v} hv => ?_, fun {id g} => ?_, fun {g v} hv => ?_⟩
  · rw [tasks] at hv
    split_ifs at hv with hg
    · obtain rfl := Option.some.inj hv
      exact hg
    · exact identified.keyed hv
  · rw [taskIds, tasks]
    by_cases hg : u.gid = g
    · subst hg
      rw [if_pos rfl]
      split_ifs with hid
      · simpa using hid
      · rw [identified.inverse, freshGid]
        simpa using hid
    · rw [if_neg hg, ← identified.inverse]
      split_ifs with hid
      · subst hid
        simp [freshId, hg]
      · rfl
  · rw [tasks] at hv
    obtain ⟨top, htop, new, old⟩ := highest
    refine ⟨top, htop, ?_⟩
    split_ifs at hv with hg
    · obtain rfl := Option.some.inj hv
      exact new
    · obtain ⟨before, hbefore, le⟩ := identified.highest hv
      exact le.trans (old before hbefore)

namespace RequestScheduler.Indexed

theorem new : (new config).Indexed where
  toIdentified := .new config
  classified := ⟨fun c => by cases c <;> simp [RequestScheduler.new, SchedulerQueues.get],
    fun c gid => by cases c <;> simp [RequestScheduler.new, SchedulerQueues.get, classOf]⟩

theorem classOf_stored (stored : self.tasks[gid]? = some t) : self.classOf gid = t.queueClass := by
  simp [classOf, stored]

variable (indexed : self.Indexed)
include indexed

theorem replaced (stored : self.tasks[gid]? = some t) (same : t.Same u)
    (h : Replaced self after gid t u ordinary) : after.Indexed := by
  refine ⟨⟨fun {g v} hv => ?_, fun {id g} => ?_, fun {g v} hv => ?_⟩, ?_⟩
  · obtain ⟨w, rfl, ⟨rfl, rfl⟩ | ⟨-, hw⟩⟩ := h.cases hv
    · exact (w.passed_gid ordinary).trans (same.2.trans (indexed.keyed stored))
    · exact (w.passed_gid ordinary).trans (indexed.keyed hw)
  · rw [h.taskIds, getElem?_insert, same.1]
    by_cases hg : g = gid
    · subst hg
      simp only [h.new, Option.some.injEq, exists_eq_left', passed_taskId, same.1]
      split_ifs with hid
      · simp [hid]
      · rw [indexed.inverse, stored]
        simp
    · rw [h.old hg]
      simp only [Option.map_eq_some_iff, exists_exists_and_eq_and, passed_taskId]
      rw [← indexed.inverse]
      split_ifs with hid
      · subst hid
        have owner := indexed.inverse.mpr ⟨t, stored, rfl⟩
        simp [owner]
      · rfl
  · obtain ⟨w, rfl, ⟨rfl, rfl⟩ | ⟨-, hw⟩⟩ := h.cases hv
    · rw [h.highest, passed_taskId, same.1]
      exact indexed.highest stored
    · rw [h.highest, passed_taskId]
      exact indexed.highest hw
  · rw [h.queues, ← classOf_stored stored]
    refine (indexed.classified.move gid u.queueClass).congr fun g => ?_
    by_cases hg : g = gid
    · subst hg
      simp [classOf, h.new]
    · simp [classOf, h.old hg, hg, Option.bind_map]

theorem added (fresh : FreshTask self taskId gid)
    (commits : CommitsAddition self taskId gid desiredPaused conditions position plan) :
    ({ self.commit (additionCall self taskId gid desiredPaused conditions position instant)
        plan with highestTaskId := some taskId } : RequestScheduler).Indexed := by
  set call := additionCall self taskId gid desiredPaused conditions position instant
  have tasks (g : Gid) : (self.commit call plan).tasks[g]? = if gid = g then
      some (addedTask taskId gid desiredPaused conditions) else self.tasks[g]? :=
    getElem?_tasks_addition g
  have taskIds (id : TaskId) : (self.commit call plan).taskIds[id]? =
      if taskId = id then some gid else self.taskIds[id]? := by
    rw [commit_taskIds]
    exact getElem?_insert self.taskIds taskId id gid
  refine ⟨indexed.toIdentified.inserted
    (u := addedTask taskId gid desiredPaused conditions) fresh.freshGid fresh.freshId tasks taskIds
    ⟨taskId, rfl, le_refl _, fun old h => (fresh.above old h).le⟩, ?_⟩
  · have free : self.classOf gid = none := by simp [classOf, fresh.freshGid]
    have inside : addedPosition self desiredPaused position ≤
        (self.queues.get (addedClass desiredPaused)).length := min_le_right _ _
    have queues : (self.commit call plan).queues.get = Function.update self.queues.get
        (addedClass desiredPaused) ((self.queues.get (addedClass desiredPaused)).insertIdx
          (addedPosition self desiredPaused position) gid) := funext fun c => by
      simp [commits.updates, setAll, get_set, Function.update, eq_comm]
    rw [queues]
    refine (indexed.classified.enter free (addedClass desiredPaused) inside).congr fun g => ?_
    by_cases hg : gid = g
    · subst hg
      cases desiredPaused <;> simp [classOf, tasks, addedTask, addedState, addedClass, queueClass]
    · simp [classOf, tasks, hg, Ne.symm hg]

theorem deleted (stored : self.tasks[gid]? = some t) (commits : t.CommitsDeletion self plan) :
    (self.commit (t.deletionCall .stoppedResultDeletionSucceeded instant ids) plan).Indexed := by
  have hgid := indexed.keyed stored
  have tasks (g : Gid) : (self.commit (t.deletionCall .stoppedResultDeletionSucceeded instant
      ids) plan).tasks[g]? = if gid = g then none else self.tasks[g]? :=
    getElem?_tasks_deletion hgid g
  have taskIds (id : TaskId) : (self.commit (t.deletionCall .stoppedResultDeletionSucceeded instant
      ids) plan).taskIds[id]? = if t.taskId = id then none else self.taskIds[id]? := by
    rw [commit_taskIds]
    exact getElem?_erase self.taskIds t.taskId id
  have owner := indexed.inverse.mpr ⟨t, stored, rfl⟩
  refine ⟨⟨fun {g v} hv => ?_, fun {id g} => ?_, fun {g v} hv => ?_⟩, ?_⟩
  · rw [tasks] at hv
    split_ifs at hv
    exact indexed.keyed hv
  · rw [taskIds, tasks]
    by_cases hg : gid = g
    · subst hg
      have absent (hid : t.taskId ≠ id) : self.taskIds[id]? ≠ some gid := by
        rw [ne_eq, indexed.inverse, stored]
        simpa using hid
      rw [if_pos rfl]
      split_ifs with hid
      · simp
      · simp [absent hid]
    · rw [if_neg hg, ← indexed.inverse]
      split_ifs with hid
      · subst hid
        simp [owner, hg]
      · rfl
  · rw [tasks] at hv
    split_ifs at hv
    rw [commit_highestTaskId]
    exact indexed.highest hv
  · rw [commit_queues, commits.updates, hgid, get_setAll_classOrders, ← classOf_stored stored]
    refine (indexed.classified.move gid none).congr fun g => ?_
    by_cases hg : gid = g
    · subst hg
      simp [classOf, tasks]
    · simp [classOf, tasks, hg, Ne.symm hg]

theorem reordered {queue : QueueClass} {order : List Gid}
    (same : order.Perm (self.queues.get queue)) :
    ({ self with queues := self.queues.set queue order } : RequestScheduler).Indexed := by
  refine ⟨⟨indexed.keyed, indexed.inverse, indexed.highest⟩, ?_⟩
  have get : (self.queues.set queue order).get = Function.update self.queues.get queue order :=
    funext fun c => by simp [get_set, Function.update, eq_comm]
  exact get ▸ indexed.classified.reorder same

theorem change {outcome : SchedulerOutcome}
    (h : Change self input outcome after) : after.Indexed := by
  cases h with
  | step stored _ step commits =>
    exact indexed.replaced stored step.same (commits.replaced (indexed.keyed stored) step.same)
  | add _ fresh commits => exact indexed.added fresh commits
  | delete stored fresh body barrier state commits => exact indexed.deleted stored commits
  | reorder stored idle queued free found inside moved =>
    exact indexed.reordered (moved ▸ reorder_perm found inside)
  | policies =>
    exact ⟨⟨indexed.keyed, indexed.inverse, indexed.highest⟩, indexed.classified⟩

end RequestScheduler.Indexed

end Ariax
