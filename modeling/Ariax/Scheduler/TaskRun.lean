import Ariax.Scheduler.Effects
import Ariax.Scheduler.Valid

/-!
# The life of one task

A run seen from one of its tasks. A call leaves the record of the task as it
was, makes a step of it, adds it or deletes it; an identity is never used
twice. The effects that concern the task are those of its own steps.
-/

namespace Ariax

open List Option RequestScheduler TransitionEffect

def SchedulerStep.effects (step : SchedulerStep) : List TransitionEffect :=
  match step.output with
  | .ok outcome => outcome.effects
  | .error _ => []

namespace RequestScheduler

def taskById (self : RequestScheduler) (taskId : TaskId) : Option ScheduledTask :=
  self.taskIds[taskId]?.bind fun gid => self.tasks[gid]?

variable {self after : RequestScheduler} {taskId : TaskId} {gid : Gid} {t u : ScheduledTask}
  {ordinary : Bool}

variable (before : self.Identified)
include before

theorem Identified.taskById_eq_some :
    self.taskById taskId = some t ↔ self.tasks[t.gid]? = some t ∧ t.taskId = taskId := by
  constructor
  · intro h
    obtain ⟨gid, owner, stored⟩ := bind_eq_some_iff.mp h
    obtain ⟨u, stored', same⟩ := before.inverse.mp owner
    obtain rfl := some.inj (stored.symm.trans stored')
    exact ⟨(before.keyed stored) ▸ stored, same⟩
  · rintro ⟨stored, rfl⟩
    exact bind_eq_some_iff.mpr ⟨t.gid, before.inverse.mpr ⟨t, stored, rfl⟩, stored⟩

theorem Identified.taskById_of_stored (stored : self.tasks[gid]? = some t) :
    self.taskById t.taskId = some t :=
  before.taskById_eq_some.mpr ⟨(before.keyed stored).symm ▸ stored, rfl⟩

theorem Identified.taskById_replaced (stored : self.tasks[gid]? = some t) (same : t.Same u)
    (h : Replaced self after gid t u ordinary) :
    after.taskById taskId = if taskId = t.taskId then some (u.passed ordinary)
      else (self.taskById taskId).map (ScheduledTask.passed ordinary) := by
  unfold taskById
  rw [h.taskIds, OrderedMap.getElem?_insert, same.1]
  split_ifs with hu ht ht
  · simp [h.new]
  · exact absurd hu.symm ht
  · exact absurd ht.symm hu
  · cases owner : self.taskIds[taskId]? with
    | none => rfl
    | some g =>
      have other : g ≠ gid := by
        rintro rfl
        obtain ⟨v, stored', rfl⟩ := before.inverse.mp owner
        obtain rfl := some.inj (stored.symm.trans stored')
        exact hu rfl
      simp [h.old other]

variable (later : after.Identified)
include later

theorem Identified.taskById_congr
    (same : ∀ t : ScheduledTask, t.taskId = taskId → (after.tasks[t.gid]? = some t ↔
      self.tasks[t.gid]? = some t)) :
    after.taskById taskId = self.taskById taskId := by
  refine ext fun t => ?_
  rw [later.taskById_eq_some, before.taskById_eq_some]
  exact and_congr_left (same t)

theorem Identified.taskById_inserted (fresh : self.tasks[u.gid]? = none)
    (tasks : ∀ g : Gid, after.tasks[g]? = if u.gid = g then some u else self.tasks[g]?) :
    after.taskById taskId = if taskId = u.taskId then some u else self.taskById taskId := by
  split_ifs with owner
  · exact later.taskById_eq_some.mpr ⟨by simp [tasks], owner.symm⟩
  · refine before.taskById_congr later fun t same => ?_
    rw [tasks]
    split_ifs with there
    · rw [← there, fresh]
      simp only [some.injEq, reduceCtorEq, iff_false]
      rintro rfl
      exact owner same.symm
    · rfl

theorem Identified.taskById_erased (stored : self.tasks[gid]? = some t)
    (tasks : ∀ g : Gid, after.tasks[g]? = if gid = g then none else self.tasks[g]?) :
    after.taskById taskId = if taskId = t.taskId then none else self.taskById taskId := by
  split_ifs with owner
  · refine eq_none_iff_forall_ne_some.mpr fun v found => ?_
    obtain ⟨there, same⟩ := later.taskById_eq_some.mp found
    rw [tasks] at there
    split_ifs at there with other
    -- the identity belonged to the erased record only
    have twice := before.taskById_of_stored there
    rw [same, owner, before.taskById_of_stored stored] at twice
    obtain rfl := some.inj twice
    exact other (before.keyed stored).symm
  · refine before.taskById_congr later fun v same => ?_
    rw [tasks]
    split_ifs with there
    · rw [← there, stored]
      simp only [some.injEq, false_iff]
      rintro rfl
      exact owner same.symm
    · rfl

end RequestScheduler

/-! ## Whose effects a step asks for -/

/-- A draft whose effects concern its own task. -/
structure Draft.Owned (taskId : TaskId) (draft : Draft) : Prop where
  own : draft.task.taskId = taskId
  effects : ∀ effect ∈ draft.effects, effect.taskId = taskId

section Owned

variable {taskId : TaskId} {draft draft' : Draft} {t : ScheduledTask}

theorem ScheduledTask.owned_draft (same : t.taskId = taskId) :
    t.draft.Owned taskId := ⟨same, by simp [draft]⟩

theorem ScheduledTask.owned_effects (t : ScheduledTask) {effect : TransitionEffect}
    (h : effect ∈ t.releaseEffects ∨ effect ∈ t.cancelRetryEffects ∨
      effect ∈ t.cancelSlowReadmissionEffects ∨ effect ∈ t.rejectedKeyEffects) :
    effect.taskId = t.taskId := by
  unfold releaseEffects cancelRetryEffects cancelSlowReadmissionEffects rejectedKeyEffects at h
  rcases h with h | h | h | h <;> split at h <;> simp_all [TransitionEffect.taskId]

namespace Draft.Owned

section

variable (owned : draft.Owned taskId)
include owned

theorem setState {state : TaskState} :
    (draft.setState state).Owned taskId := ⟨owned.own, owned.effects⟩

theorem setControl {control : Option PendingUserControl} :
    (draft.setControl control).Owned taskId := ⟨owned.own, owned.effects⟩

theorem dropProbe : draft.dropProbe.Owned taskId :=
  ⟨owned.own, owned.effects⟩

theorem mark {kind : TaskEventKind} : (draft.mark kind).Owned taskId := ⟨owned.own, owned.effects⟩

theorem awaitTerminal {status : Aria2Status} {error : Option PublicError} :
    (draft.awaitTerminal status error).Owned taskId :=
  ⟨owned.own, owned.effects⟩

variable {effects : List TransitionEffect}

theorem push {task : ScheduledTask}
    (same : task.taskId = draft.task.taskId) (new : ∀ effect ∈ effects, effect.taskId = taskId) :
    Draft.Owned taskId ⟨task, draft.effects ++ effects⟩ := by
  refine ⟨same.trans owned.own, fun effect member => ?_⟩
  rcases mem_append.mp member with member | member
  · exact owned.effects effect member
  · exact new effect member

theorem cancelTimers : draft.cancelTimers.Owned taskId := by
  refine (owned.push rfl fun effect member => ?_).push rfl fun effect member => ?_
  · exact (draft.task.owned_effects (.inr (.inl member))).trans owned.own
  · exact (draft.task.owned_effects (.inr (.inr (.inl member)))).trans owned.own

theorem cancelSlowReadmission : draft.cancelSlowReadmission.Owned taskId :=
  owned.push rfl fun _ member =>
    (draft.task.owned_effects (.inr (.inr (.inl member)))).trans owned.own

theorem releaseSlot : draft.releaseSlot.Owned taskId :=
  owned.push rfl fun _ member => (draft.task.owned_effects (.inl member)).trans owned.own

theorem discard (state : TaskState) : (draft.discard state).Owned taskId := by
  refine ((owned.push rfl fun effect member => ?_).push rfl fun effect member => ?_).push rfl
    fun effect member => ?_
  · exact (draft.task.owned_effects (.inr (.inl member))).trans owned.own
  · exact (draft.task.owned_effects (.inr (.inr (.inl member)))).trans owned.own
  · exact (draft.task.owned_effects (.inr (.inr (.inr member)))).trans owned.own

theorem awaitDrain {target : DrainTarget} {force : Bool}
    (new : ∀ effect ∈ effects, effect.taskId = taskId) :
    (draft.awaitDrain target force effects).Owned taskId :=
  owned.push rfl new

theorem cancels {force f : Bool}
    (cancels : draft.Cancels force f effects) : ∀ effect ∈ effects, effect.taskId = taskId := by
  cases cancels with
  | begin => simpa [TransitionEffect.taskId] using owned.own
  | retarget => split <;> simp [TransitionEffect.taskId, owned.own]

end

variable {ids' ids : IdCounters} (owned : draft.Owned taskId)
include owned

theorem reprobed (h : draft.Reprobed draft') : draft'.Owned taskId := by
  cases h with
  | kept => exact owned
  | awaited => exact owned.push rfl (by simpa [TransitionEffect.taskId] using owned.own)

theorem settles {target : DrainTarget} {publish : Bool}
    (h : Settles draft ids target draft' publish ids') : draft'.Owned taskId := by
  cases h with
  | patch | readmission => exact owned.push rfl (by simpa [TransitionEffect.taskId] using owned.own)
  | idle | source | undecided => exact owned
  | error | removed => exact owned.awaitTerminal

theorem controls {original : ScheduledTask} {action : SchedulerAction}
    (h : draft.Controls original action draft') : draft'.Owned taskId := by
  cases h with
  | pauseDraining => exact owned.push rfl (by simpa [TransitionEffect.taskId] using owned.own)
  | removeDraining =>
    exact (owned.discard _).push rfl (by simpa [TransitionEffect.taskId] using owned.own)
  | pauseIdle => exact ⟨owned.own, owned.effects⟩
  | resume => exact cancelTimers ⟨owned.own, owned.effects⟩
  | removeIdle => exact (owned.discard _).awaitTerminal

end Draft.Owned

theorem TaskStep.owned {self : RequestScheduler} {gid : Gid}
    {cause : StepCause} {action : SchedulerAction} {publish : Bool} {ids : IdCounters}
    (step : TaskStep self gid t cause action draft publish ids) : draft.Owned t.taskId := by
  have own {u : ScheduledTask} (same : u.taskId = t.taskId) : u.draft.Owned t.taskId :=
    ScheduledTask.owned_draft same
  have settled {target : DrainTarget} {publish : Bool} {settled reprobed : Draft}
      {ids ids' : IdCounters} {kind : TaskEventKind}
      (settles : Settles { t with pendingBarrier := none }.draft.releaseSlot self.ids target settled
        publish ids) (reprobes : Reprobes settled ids reprobed ids') :
      (reprobed.mark kind).Owned t.taskId := by
    refine .mark (.reprobed (.settles ?_ settles) reprobes.reprobed)
    exact .releaseSlot (own (by rfl))
  have staged {patchId : OptionPatchId} {succeeded : Bool} :
      (patchPersistenceDraft t patchId succeeded).Owned t.taskId := by
    cases succeeded <;> exact own (by rfl)
  have drains {force f : Bool} {effects : List TransitionEffect}
      (cancels : t.draft.Cancels force f effects) : ∀ effect ∈ effects, effect.taskId = t.taskId :=
    (own (by rfl)).cancels cancels
  have released : ∀ effect ∈ t.releaseEffects, effect.taskId = t.taskId :=
    fun _ member => t.owned_effects (.inl member)
  cases step with
  | pauseDeferred => exact .setControl (.cancelTimers (own (by rfl)))
  | pauseDraining _ _ _ cancels =>
    exact .setState (.awaitDrain (.cancelTimers (own (by rfl))) (drains cancels))
  | pauseRetry => exact .setState (.releaseSlot (.cancelTimers (own (by rfl))))
  | pauseIdle => exact .setState (.cancelTimers (own (by rfl)))
  | resumeDeferred => exact .setControl (.cancelSlowReadmission (own (by rfl)))
  | resumeProbing idle source blocked retains probes =>
    refine Draft.Owned.reprobed ?_ probes.reprobed
    split
    · exact ⟨rfl, fun effect member => t.owned_effects (.inr (.inr (.inl member)))⟩
    · exact own (by rfl)
  | resume => exact .cancelSlowReadmission (own (by rfl))
  | sourceDraining =>
    exact .awaitDrain (.cancelTimers (own (by rfl))) (by simp [taskId])
  | sourceIdle => exact .cancelTimers (own (by rfl))
  | patchInPlace | patchRestart | patchHostKey =>
    exact ⟨rfl, by simp [acceptInPlacePatch, acceptRestartPatch,
      acceptHostKeyPatch, taskId, ScheduledTask.draft]⟩
  | removeDeferred => exact .setControl (.dropProbe (.cancelTimers (own (by rfl))))
  | removeDraining _ _ _ cancels =>
    exact .awaitDrain (.discard (own (by rfl)) _) (drains cancels)
  | removeIdle => exact .awaitTerminal (.releaseSlot (.discard (own (by rfl)) _))
  | admitted _ _ _ admits | representationRestart _ admits
  | retryAdmitted _ _ admits | slowAdmitted _ _ admits =>
    cases admits.generation <;> exact ⟨rfl, by simp [admissionDraft, Draft.mark,
      taskId, ScheduledTask.clearGenerationEventHistory]⟩
  | patchPersistedControl _ _ controls => exact .controls staged controls
  | patchPersisted =>
    exact .awaitDrain (.setState staged) (by simp [taskId])
  | patchPersistenceFailed => exact staged
  | patchAppliedControl _ _ controls | hostKeyRemoved _ _ controls =>
    refine .controls ?_ controls
    exact own (by rfl)
  | restartFailed => exact .awaitTerminal (.setState (.setControl (own (by rfl))))
  | retryReleased =>
    refine ⟨rfl, fun effect member => ?_⟩
    rcases mem_snoc.mp member with member | rfl
    · exact released effect member
    · rfl
  | challenge =>
    refine ⟨rfl, fun effect member => ?_⟩
    rcases mem_cons.mp member with rfl | member
    · rfl
    · exact released effect member
  | endWork => exact .mark (.awaitTerminal (.releaseSlot (own (by rfl))))
  | verificationRecoverable => exact .mark (.releaseSlot (own (by rfl)))
  | noSpace _ cancels =>
    refine .mark (.awaitDrain ?_ (drains cancels))
    exact ⟨rfl, by simp [taskId]⟩
  | terminalFailure _ cancels | slowPaused _ cancels
  | slowDemoted state valid found succ cancels =>
    exact .mark (.awaitDrain (own (by rfl)) (drains cancels))
  | restartQuiesced _ _ settles reprobes | drained _ _ _ settles reprobes =>
    exact settled settles reprobes
  | probed _ _ _ reprobes =>
    exact Draft.Owned.reprobed ⟨rfl, by simp [taskId]⟩ reprobes.reprobed
  | _ => exact ⟨rfl, by simp [taskId, Draft.mark, Draft.setState,
      ScheduledTask.draft, patchApplicationDraft, hostKeyDraft]⟩

end Owned

/-- What a call does to the record of one task, and the effects with which
it concerns the task. -/
inductive Evolves (self : RequestScheduler) (input : SchedulerInput) (taskId : TaskId) :
    List TransitionEffect → Option ScheduledTask → Option ScheduledTask → Prop
  | other {effects : List TransitionEffect} {before : Option ScheduledTask} (ordinary : Bool)
      (silent : ∀ effect ∈ effects, effect.taskId ≠ taskId) :
      Evolves self input taskId effects before (before.map (ScheduledTask.passed ordinary))
  | step {cause : StepCause} {instant : MonotonicInstant} {gid : Gid} {t : ScheduledTask}
      {action : SchedulerAction} {draft : Draft} {publish : Bool} {ids : IdCounters}
      {plan : CommitPlan} (ordinary : Bool) (owner : t.taskId = taskId)
      (stored : self.tasks[gid]? = some t) (reaches : input.Reaches gid t cause instant)
      (step : TaskStep self gid t cause action draft publish ids)
      (commits : draft.Commits self t action instant publish ids plan) :
      Evolves self input taskId plan.outcome.effects (some t) (some (draft.task.passed ordinary))
  | add {gid : Gid} {desiredPaused : Bool} {conditions : TaskConditions} {position : Option ℕ}
      {plan : CommitPlan} (fresh : FreshTask self taskId gid)
      (commits : CommitsAddition self taskId gid desiredPaused conditions position plan) :
      Evolves self input taskId plan.outcome.effects none
        (some (addedTask taskId gid desiredPaused conditions))
  | delete {t : ScheduledTask} (owner : t.taskId = taskId) (state : t.state = .stoppedResult) :
      Evolves self input taskId [] (some t) none
  | reorder {t : ScheduledTask} {queue : QueueClass} {order : List Gid} (owner : t.taskId = taskId)
      (queued : t.queueClass = some queue) :
      Evolves self input taskId [.persistQueueTransition t.taskId t.gid (some queue) (some queue)
        t.desiredPaused t.slowDemotionCount t.slowSlot [⟨queue, order⟩]] (some t) (some t)

variable {self after : RequestScheduler} {t : ScheduledTask} {action : SchedulerAction}
  {draft : Draft} {instant : MonotonicInstant} {publish : Bool} {ids : IdCounters}
  {plan : CommitPlan} {input : SchedulerInput} {taskId : TaskId}

theorem Draft.Commits.owned (commits : draft.Commits self t action instant publish ids plan)
    (owned : draft.Owned t.taskId) {effect : TransitionEffect}
    (member : effect ∈ plan.outcome.effects) : effect.taskId = t.taskId := by
  obtain ⟨effects, persisted, reported⟩ := commits.effects
  rw [reported] at member
  rcases mem_append.mp member with member | member
  · have persists := FinishCall.persists_of_persistenceEffects persisted
    cases persists with
    | unchanged => exact owned.effects effect member
    | first _ owner =>
      rcases mem_cons.mp member with rfl | member
      · exact owner
      · exact owned.effects effect member
    | last _ owner =>
      rcases mem_snoc.mp member with member | rfl
      · exact owned.effects effect member
      · exact owner
  · obtain ⟨snapshot, -, rfl⟩ := mem_map.mp member
    rfl

theorem map_passed_false (before : Option ScheduledTask) :
    before.map (ScheduledTask.passed false) = before := by
  cases before <;> simp [ScheduledTask.passed]

variable {before : Option ScheduledTask}

theorem Evolves.aside {effects : List TransitionEffect}
    (silent : ∀ effect ∈ effects, effect.taskId ≠ taskId) :
    Evolves self input taskId effects before before := by
  have aside : Evolves self input taskId effects before (before.map (ScheduledTask.passed false)) :=
    .other false silent
  rwa [map_passed_false] at aside

theorem Evolves.still : Evolves self input taskId [] before before :=
  .aside (by simp)

theorem Change.evolves {outcome : SchedulerOutcome} (valid : self.Valid)
    (change : Change self input outcome after) (taskId : TaskId) :
    Evolves self input taskId outcome.effects (self.taskById taskId) (after.taskById taskId) := by
  have before := valid.indexed.toIdentified
  have later := (valid.indexed.change change).toIdentified
  cases change with
  | @step _ _ _ gid t _ draft _ _ _ ordinary stored reaches taskStep commits =>
    have replaced : Replaced self _ gid t draft.task ordinary :=
      commits.replaced (before.keyed stored) taskStep.same
    rw [before.taskById_replaced stored taskStep.same replaced]
    split_ifs with owner
    · subst owner
      rw [before.taskById_of_stored stored]
      exact .step ordinary rfl stored reaches taskStep commits
    · refine .other ordinary fun effect member same => owner ?_
      exact same.symm.trans (commits.owned taskStep.owned member)
  | @add _ _ added gid desiredPaused conditions _ plan adds fresh commits =>
    rw [before.taskById_inserted later (u := addedTask ..) fresh.freshGid getElem?_tasks_addition]
    split_ifs with owner
    · subst owner
      have new : self.taskById taskId = none := by
        simp [taskById, fresh.freshId]
      rw [new]
      exact .add fresh commits
    · refine .aside fun effect member same => owner ?_
      rw [commits.effects] at member
      rcases mem_pair.mp member with rfl | rfl <;> exact same.symm
  | delete stored _ _ _ state commits =>
    rw [commits.effects,
      before.taskById_erased later stored (getElem?_tasks_deletion (before.keyed stored))]
    split_ifs with owner
    · rw [owner, before.taskById_of_stored stored]
      exact .delete rfl state
    · exact .still
  | @reorder gid _ t _ _ _ _ stored idle queued =>
    change Evolves self _ taskId _ (self.taskById taskId) (self.taskById taskId)
    obtain rfl := before.keyed stored
    by_cases owner : t.taskId = taskId
    · subst owner
      rw [before.taskById_of_stored stored]
      exact .reorder rfl queued
    · refine .aside fun effect member same => owner ?_
      rw [mem_singleton.mp member] at same
      exact same
  | policies => exact .still

theorem RequestScheduler.Valid.evolves (valid : self.Valid) (input : SchedulerInput)
    (taskId : TaskId) :
    Evolves self input taskId (SchedulerStep.effects (schedulerMachine.step self input))
      (self.taskById taskId) ((self.apply input).2.taskById taskId) := by
  have ends := self.apply_ends input
  have effects : SchedulerStep.effects (schedulerMachine.step self input) =
    SchedulerStep.effects ⟨self, input, (self.apply input).1, (self.apply input).2⟩ := rfl
  rw [effects]
  generalize self.apply input = result at ends
  cases ends with
  | error => exact .still
  | quiet quiet => cases quiet <;> exact .still
  | change change => exact change.evolves valid taskId

end Ariax
