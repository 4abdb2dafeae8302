import Ariax.Scheduler.Retention

/-!
# Effects of a step

What a committed step asks of the adapters. The commit adds at most one
effect that persists a queue transition or a terminal result, and the
published snapshot; everything else was put there by the handler. Of the
handler's effects those that drive a worker are listed per step: they tell
when a slot is given back, a generation starts, an allocation starts, and an
option patch is staged or applied. Conversely, a draft that follows the
contract of its action, leaves a stopped queue alone while one of its results
is being deleted, and may be published, is committed.
-/

namespace Ariax

open Draft Except FinishCall RequestScheduler ScheduledTask TransitionEffect

namespace TransitionEffect

/-- The effects a commit adds to those of its handler. -/
def isCommitted : TransitionEffect → Bool
  | persistQueueTransition .. | persistTerminal .. | publishSnapshot .. => true
  | _ => false

/-- The effects that drive a worker through its slot, generation and options. -/
def drives : TransitionEffect → Bool
  | releaseSlot .. | persistGenerationStarted .. | startAllocation .. | stageOptionPatch ..
  | applyOptionPatch .. => true
  | _ => false

theorem isCommitted_of_drives {effect : TransitionEffect} (h : effect.drives = true) :
    effect.isCommitted = false := by
  cases effect <;> first | rfl | cases h

end TransitionEffect

section Commit

variable {self : RequestScheduler} {t : ScheduledTask} {action : SchedulerAction} {draft : Draft}
  {instant : MonotonicInstant} {publish : Bool} {ids : IdCounters} {plan : CommitPlan}

/-- The effects of a call, and at most one more that persists its result or its queue. -/
inductive FinishCall.Persists (call : FinishCall) : List TransitionEffect → Prop
  | unchanged : Persists call call.effects
  | first {effect : TransitionEffect} (committed : effect.isCommitted = true)
      (owner : effect.taskId = call.original.taskId) : Persists call (effect :: call.effects)
  | last {effect : TransitionEffect} (committed : effect.isCommitted = true)
      (owner : effect.taskId = call.original.taskId) : Persists call (call.effects ++ [effect])

variable {effects : List TransitionEffect} {updates : List QueueUpdate} {queues : SchedulerQueues}
  {call : FinishCall}

theorem FinishCall.persists_of_persistenceEffects
    (h : call.persistenceEffects queues updates = .ok effects) : call.Persists effects := by
  have placed {effect : TransitionEffect}
      (h : (if call.queueEffectFirst = true then
          (.ok (effect :: call.effects) : Except SchedulerError (List TransitionEffect))
        else .ok (call.effects ++ [effect])) = .ok effects) (committed : effect.isCommitted = true)
      (owner : effect.taskId = call.original.taskId) : call.Persists effects := by
    split at h <;> obtain rfl := ok.inj h
    · exact .first committed owner
    · exact .last committed owner
  unfold persistenceEffects at h
  split at h
  · split at h
    · obtain ⟨-, h⟩ := ite_error_eq_ok.mp h
      obtain rfl := ok.inj h
      exact .last rfl rfl
    · cases h
  · split at h
    · dsimp only at h
      split at h
      · split at h
        · split at h
          · exact placed h rfl rfl
          · cases h
        · cases h
      · exact placed h rfl rfl
    · obtain rfl := ok.inj h
      exact .unchanged

section

variable (p : TransitionEffect → Bool)
  (other : ∀ effect, p effect = true → effect.isCommitted = false)
include other

theorem FinishCall.Persists.filter (h : call.Persists effects) :
    effects.filter p = call.effects.filter p := by
  have dropped (effect : TransitionEffect) (committed : effect.isCommitted = true) :
      p effect = false := by
    cases hp : p effect with
    | false => rfl
    | true =>
      rw [other effect hp] at committed
      cases committed
  cases h with
  | unchanged => rfl
  | first committed | last committed => simp [dropped _ committed]

theorem Draft.Commits.filter_effects
    (commits : draft.Commits self t action instant publish ids plan) :
    plan.outcome.effects.filter p = draft.effects.filter p := by
  obtain ⟨effects, persisted, reported⟩ := commits.effects
  have published : (publishEffects t.taskId plan.snapshot).filter p = [] := by
    rw [List.filter_eq_nil_iff]
    intro effect member hp
    obtain ⟨snapshot, -, rfl⟩ := List.mem_map.mp member
    exact absurd (other _ hp) (by simp [isCommitted])
  rw [reported, List.filter_append, published, List.append_nil,
    (persists_of_persistenceEffects persisted).filter p other]
  rfl

end

/-! ## Drafts that commit -/

/-- What a draft has to satisfy to be committed for a task. -/
structure Draft.Ready (scheduler : RequestScheduler) (t : ScheduledTask) (action : SchedulerAction)
    (draft : Draft) (publish : Bool) : Prop where
  accepted : (transitionContract t.state action).kind = .transition ∨
    (transitionContract t.state action).kind = .stay
  target : draft.task.state ∈ (transitionContract t.state action).targets
  classed : t.queueClass.isSome = true
  unstopped : scheduler.pendingStoppedDeletion = none ∨
    (t.queueClass ≠ some .stopped ∧ draft.task.queueClass ≠ some .stopped)
  persists : (∀ generation status,
      draft.task.pendingBarrier ≠ some (.terminalPersistence generation status)) ∨
    (t.queueClass ≠ some .stopped ∧ draft.task.queueClass = some .stopped)
  publishable : publish = true → draft.task.Publishable
  few : draft.effects.length + 2 ≤ maxSchedulerEffects

variable {oldClass newClass : Option QueueClass}

theorem RequestScheduler.rejectStoppedMutation_classOrders {gid : Gid}
    (h : self.pendingStoppedDeletion = none ∨ (oldClass ≠ some .stopped ∧
      newClass ≠ some .stopped)) :
    self.rejectStoppedMutation action (self.classOrders gid oldClass newClass) = .ok () := by
  unfold rejectStoppedMutation
  split
  · next touched =>
    rcases h with free | ⟨old, new⟩
    · simp [rejectPendingDeletion, free]
    · refine absurd touched.2 ?_
      unfold classOrders
      split
      · simp
      · cases oldClass <;> cases newClass <;> simp_all
  · rfl

theorem RequestScheduler.classOrders_eq_nil {gid : Gid} :
    self.classOrders gid oldClass newClass = [] ↔ oldClass = newClass := by
  unfold classOrders
  split
  · simp_all
  · cases oldClass <;> cases newClass <;> simp_all

theorem Draft.terminalPersistence_eq_none (live : ∀ generation status,
      draft.task.pendingBarrier ≠ some (.terminalPersistence generation status)) :
    (draft.call t action instant publish ids).terminalPersistence = none := by
  simp only [terminalPersistence, Draft.call]

theorem Draft.Ready.persistenceEffects (h : draft.Ready self t action publish)
    (instant : MonotonicInstant) (ids : IdCounters) :
    ∃ effects, (draft.call t action instant publish ids).persistenceEffects self.queues
        (self.classOrders t.gid t.queueClass draft.task.queueClass) = .ok effects ∧
      effects.length ≤ draft.effects.length + 1 := by
  obtain ⟨c, old⟩ := Option.isSome_iff_exists.mp h.classed
  have oldClass : (draft.call t action instant publish ids).oldClass = some c := old
  have newClass : (draft.call t action instant publish ids).newClass = draft.task.queueClass := rfl
  unfold FinishCall.persistenceEffects
  cases terminal : (draft.call t action instant publish ids).terminalPersistence with
  | some =>
    rcases h.persists with live | ⟨other, stopped⟩
    · rw [Draft.terminalPersistence_eq_none live] at terminal
      cases terminal
    · have moved : self.classOrders t.gid t.queueClass draft.task.queueClass ≠ [] := by
        rw [Ne, classOrders_eq_nil, stopped]
        exact other
      simp only [oldClass, newClass, stopped] at moved ⊢
      simp [moved, Draft.call]
  | none =>
    simp only
    split
    · have listed (effect : TransitionEffect) : ∃ effects,
          (if (draft.call t action instant publish ids).queueEffectFirst = true then
            (.ok (effect :: draft.effects) : Except SchedulerError (List TransitionEffect))
          else .ok (draft.effects ++ [effect])) = .ok effects ∧
          effects.length ≤ draft.effects.length + 1 := by
        split <;> exact ⟨_, rfl, by simp⟩
      by_cases same : t.queueClass = draft.task.queueClass
      · rw [classOrders_eq_nil.mpr same]
        have kept : draft.task.queueClass = some c := same.symm.trans old
        simp only [oldClass, newClass, kept, if_true, ok_bind]
        exact listed _
      · cases updates : self.classOrders t.gid t.queueClass draft.task.queueClass with
        | nil => exact absurd (classOrders_eq_nil.mp updates) same
        | cons => exact listed _
    · exact ⟨_, rfl, Nat.le_succ _⟩

theorem Draft.Ready.commitPlan (h : draft.Ready self t action publish)
    (members : self.memberships t.gid = t.queueClass.toList) (instant : MonotonicInstant)
    (ids : IdCounters) :
    ∃ plan, self.commitPlan (draft.call t action instant publish ids) = .ok plan := by
  let call := draft.call t action instant publish ids
  obtain ⟨effects, persisted, length⟩ := h.persistenceEffects instant ids
  have unrejected : call.rejectUnaccepted = .ok () := by
    have accepts : (transitionContract t.state action).accepts = true := by
      rcases h.accepted with kind | kind <;> simp [TransitionContract.accepts, kind]
    simp [call, rejectUnaccepted, Draft.call, accepts]
  have queued : self.queueUpdates call.original.gid call.oldClass call.newClass =
      .ok (self.classOrders t.gid t.queueClass draft.task.queueClass) :=
    queueUpdates_of_members members
  have snapshot : ∃ snapshot,
      call.publishedSnapshot self.config.retryWaitHoldsSlot = .ok snapshot := by
    cases publish with
    | false => exact ⟨none, rfl⟩
    | true =>
      have taken : draft.task.snapshot self.config.retryWaitHoldsSlot = .ok _ :=
        ScheduledTask.snapshot_eq_ok.mpr ⟨h.publishable rfl, rfl⟩
      refine ⟨some (draft.task.statusSnapshot self.config.retryWaitHoldsSlot), ?_⟩
      simp only [call, publishedSnapshot, Draft.call, if_true, taken]
      rfl
  have record : ∃ record, call.changeRecord = .ok record := by
    unfold changeRecord
    rcases h.accepted with kind | kind <;> simp [call, Draft.call, kind, h.target]
  obtain ⟨snapshot, hsnapshot⟩ := snapshot
  obtain ⟨record, hrecord⟩ := record
  unfold RequestScheduler.commitPlan
  rw [unrejected, ok_bind, queued, ok_bind,
    show call.placeAdded _ = .ok _ from rfl, ok_bind,
    rejectStoppedMutation_classOrders h.unstopped, ok_bind, persisted,
    ok_bind, hsnapshot, ok_bind, hrecord, ok_bind]
  have bound : ¬maxSchedulerEffects < (effects ++ publishEffects t.taskId snapshot).length := by
    have few := h.few
    have published : (publishEffects t.taskId snapshot).length ≤ 1 := by
      cases snapshot <;> simp [publishEffects]
    rw [List.length_append]
    omega
  have checked : SchedulerOutcome.checked record.1 record.2
      (effects ++ publishEffects t.taskId snapshot) = .ok ⟨record.1, record.2, _⟩ := if_neg bound
  cases snapshot <;>
    simp only [publishEffects, Option.toList, List.map] at checked <;>
    simp only [Draft.call, checked, ok_bind] <;>
    exact ⟨_, rfl⟩

end Commit

/-! ## Effects that drive a worker -/

section

variable (t : ScheduledTask)
include t

@[simp] theorem ScheduledTask.drives_cancelRetryEffects :
    t.cancelRetryEffects.filter drives = [] := by
  unfold cancelRetryEffects
  split <;> rfl

@[simp] theorem ScheduledTask.drives_cancelSlowReadmissionEffects :
    t.cancelSlowReadmissionEffects.filter drives = [] := by
  unfold cancelSlowReadmissionEffects
  split <;> rfl

@[simp] theorem ScheduledTask.drives_rejectedKeyEffects :
    t.rejectedKeyEffects.filter drives = [] := by
  unfold rejectedKeyEffects
  split <;> rfl

@[simp] theorem ScheduledTask.drives_releaseEffects :
    t.releaseEffects.filter drives = t.releaseEffects := by
  unfold releaseEffects
  split <;> rfl

end

namespace Draft

variable (draft : Draft)

@[simp] theorem drives_cancelTimers :
    draft.cancelTimers.effects.filter drives = draft.effects.filter drives := by
  simp [cancelTimers]

@[simp] theorem drives_cancelSlowReadmission :
    draft.cancelSlowReadmission.effects.filter drives = draft.effects.filter drives := by
  simp [cancelSlowReadmission]

@[simp] theorem drives_discard (state : TaskState) :
    (draft.discard state).effects.filter drives = draft.effects.filter drives := by
  simp [discard]

@[simp] theorem drives_releaseSlot : draft.releaseSlot.effects.filter drives =
      draft.effects.filter drives ++ draft.task.releaseEffects := by
  simp [releaseSlot]

variable {effects : List TransitionEffect}

theorem drives_awaitDrain {target : DrainTarget} {force : Bool}
    (none : effects.filter drives = []) :
    (draft.awaitDrain target force effects).effects.filter drives =
      draft.effects.filter drives := by
  simp [awaitDrain, none]

variable {draft}

theorem Cancels.drives {force f : Bool}
    (cancels : draft.Cancels force f effects) : effects.filter drives = [] := by
  cases cancels with
  | begin => rfl
  | retarget => split <;> rfl

theorem Reprobed.drives {draft' : Draft} (reprobed : draft.Reprobed draft') :
    draft'.effects.filter drives = draft.effects.filter drives := by
  cases reprobed with
  | kept => rfl
  | awaited => simp [awaitProbe, TransitionEffect.drives]

end Draft

variable {ids' ids : IdCounters} {draft draft' : Draft}

/-- The effects of a step that drive its worker, with what the step does to
the slot of the task. -/
inductive Drives (self : RequestScheduler) (t u : ScheduledTask) :
    StepCause → List TransitionEffect → Prop
  | keeps {cause : StepCause} (slot : u.slot.ownsSlot = t.slot.ownsSlot) : Drives self t u cause []
  | releases {cause : StepCause} (slot : u.slot = .none) : Drives self t u cause t.releaseEffects
  | enters {cause : StepCause} (slot : u.slot = .reserved)
      (barrier : u.pendingBarrier = some (.generationPersistence u.generation))
      (room : t.slot = .none → self.activeSlotCount < self.config.maxActiveTasks) :
      Drives self t u cause [.persistGenerationStarted t.taskId t.gid u.generation]
  | starts (barrier : t.pendingBarrier = some (.generationPersistence t.generation))
      (slot : u.slot = .active) :
      Drives self t u (.event .generationPersisted) [.startAllocation t.taskId t.gid t.generation]
  | stages {cause : StepCause} {patchId : OptionPatchId}
      {satisfies : Option CredentialRequirementKey} (slot : u.slot = t.slot) :
      Drives self t u cause [.stageOptionPatch t.taskId t.gid patchId satisfies]
  | applies {cause : StepCause} {patchId : OptionPatchId}
      {satisfies : Option CredentialRequirementKey} (slot : u.slot = t.slot)
      (barrier : u.pendingBarrier = some (.optionPatchApplication u.generation patchId)) :
      Drives self t u cause [.applyOptionPatch t.taskId t.gid patchId satisfies]
  | quiesces {cause : StepCause} {patchId : OptionPatchId}
      {satisfies : Option CredentialRequirementKey} (slot : u.slot = .none)
      (barrier : u.pendingBarrier = some (.optionPatchApplication u.generation patchId)) :
      Drives self t u cause
        (t.releaseEffects ++ [.applyOptionPatch t.taskId t.gid patchId satisfies])

theorem Settles.drives {d : Draft} {target : DrainTarget} {publish : Bool}
    (settles : Settles d ids target draft publish ids') :
    draft.effects.filter drives = d.effects.filter drives ∨
      ∃ patchId, draft.effects.filter drives =
          d.effects.filter drives ++
            [.applyOptionPatch d.task.taskId d.task.gid patchId
              d.task.pendingCredentialRequirement] ∧
        draft.task.pendingBarrier =
          some (.optionPatchApplication draft.task.generation patchId) := by
  cases settles with
  | patch => exact .inr ⟨_, by simp [drives], rfl⟩
  | readmission => exact .inl (by simp [drives])
  | _ => exact .inl rfl

variable {self : RequestScheduler} {gid : Gid} {t : ScheduledTask} {cause : StepCause}
  {action : SchedulerAction} {draft : Draft} {publish : Bool} {ids : IdCounters}

theorem Draft.Controls.drives {original : ScheduledTask} {d draft : Draft}
    (controls : d.Controls original action draft) :
    draft.effects.filter drives = d.effects.filter drives ∧
      draft.task.slot = d.task.slot := by
  cases controls with
  | pauseDraining | removeDraining =>
    exact ⟨by simp [drives_awaitDrain, drives], rfl⟩
  | pauseIdle => exact ⟨rfl, rfl⟩
  | resume => exact ⟨by simp, rfl⟩
  | removeIdle => exact ⟨by simp [awaitTerminal], rfl⟩

theorem RequestScheduler.patchPersistenceDraft_effects {patchId : OptionPatchId}
    {succeeded : Bool} : (patchPersistenceDraft t patchId succeeded).effects = [] := by
  cases succeeded <;> rfl

theorem Settles.drains {settled reprobed : Draft} {target : DrainTarget} {ids ids' : IdCounters}
    {publish : Bool}
    (settles : Settles { t with pendingBarrier := none }.draft.releaseSlot self.ids target settled
      publish ids) (reprobes : Reprobes settled ids reprobed ids') (kind : TaskEventKind) :
    Drives self t (reprobed.mark kind).task cause
      ((reprobed.mark kind).effects.filter TransitionEffect.drives) := by
  have slot : (reprobed.mark kind).task.slot = .none := by
    cases reprobes.reprobed <;> exact settles.frame.slot
  have effects : (reprobed.mark kind).effects.filter TransitionEffect.drives =
      settled.effects.filter TransitionEffect.drives := reprobes.reprobed.drives
  have released : ({ t with pendingBarrier := none }.draft.releaseSlot).effects.filter
      TransitionEffect.drives = t.releaseEffects := drives_releaseSlot _
  rw [effects]
  rcases settles.drives with same | ⟨patchId, applied, barrier⟩
  · rw [same, released]
    exact .releases slot
  · rw [applied, released]
    refine .quiesces slot ?_
    cases reprobes.reprobed <;> exact barrier

theorem TaskStep.drives (inv : t.Inv) (fresh : cause.Fresh t)
    (step : TaskStep self gid t cause action draft publish ids) :
    Drives self t draft.task cause (draft.effects.filter drives) := by
  -- a step whose handler drives nothing
  have kept {u : ScheduledTask} {effects : List TransitionEffect}
      (none : effects.filter TransitionEffect.drives = [])
      (slot : u.slot.ownsSlot = t.slot.ownsSlot) :
      Drives self t u cause (effects.filter TransitionEffect.drives) := none ▸ .keeps slot
  have released {u : ScheduledTask} {effects : List TransitionEffect}
      (release : effects.filter TransitionEffect.drives = t.releaseEffects)
      (slot : u.slot = .none) :
      Drives self t u cause (effects.filter TransitionEffect.drives) := release ▸ .releases slot
  cases step with
  | pauseDeferred | removeDeferred =>
    refine kept ?_ rfl
    simp [setControl, dropProbe, draft]
  | pauseDraining _ _ _ cancels =>
    refine kept ?_ rfl
    simp [setState, awaitDrain, cancels.drives, draft]
  | pauseRetry =>
    refine released ?_ rfl
    simp only [setState, drives_releaseSlot, drives_cancelTimers]
    rfl
  | pauseIdle =>
    refine kept ?_ rfl
    simp [setState, draft]
  | resumeDeferred =>
    refine kept ?_ rfl
    simp [setControl, draft]
  | resumeProbing idle source blocked retains probes =>
    refine kept (probes.reprobed.drives.trans ?_) ?_
    · split <;> simp
    · cases probes.reprobed <;> split <;> rfl
  | resume | sourceIdle =>
    refine kept ?_ rfl
    simp [draft]
  | sourceDraining =>
    refine kept ?_ rfl
    simp [awaitDrain, draft, drives]
  | patchInPlace | applyRestartPatch => exact .applies rfl rfl
  | patchRestart => exact .stages rfl
  | removeDraining _ _ _ cancels =>
    refine kept ?_ rfl
    simp [awaitDrain, cancels.drives, draft]
  | removeIdle =>
    refine released ?_ rfl
    simp only [awaitTerminal, drives_releaseSlot, drives_discard]
    rfl
  | admitted _ _ _ admits | representationRestart _ admits
  | retryAdmitted _ _ admits | slowAdmitted _ _ admits =>
    cases admits.generation <;> exact .enters rfl rfl admits.slot
  | generationPersisted barrier => exact .starts barrier rfl
  | patchPersistedControl _ _ controls =>
    obtain ⟨effects, slot⟩ := controls.drives
    refine kept (effects.trans ?_) ?_
    · rw [patchPersistenceDraft_effects]
      rfl
    · rw [slot, patchPersistenceDraft_task]
  | patchPersisted =>
    refine kept ?_ ?_
    · simp [awaitDrain, setState, patchPersistenceDraft_effects, drives]
    · simp [awaitDrain, setState, patchPersistenceDraft_task]
  | patchPersistenceFailed =>
    refine kept ?_ ?_
    · rfl
    · rw [patchPersistenceDraft_task]
  | patchAppliedControl _ _ controls | hostKeyRemoved _ _ controls =>
    obtain ⟨effects, slot⟩ := controls.drives
    refine kept effects ?_
    rw [slot]
    rfl
  | retryRetained state row =>
    have owned := (inv.reporting fresh state row.reports).2
    exact kept rfl (by rw [owned]; rfl)
  | retryReleased | challenge =>
    refine released ?_ rfl
    simp [mark, drives]
  | endWork =>
    refine released ?_ rfl
    simp only [mark, awaitTerminal, drives_releaseSlot]
    rfl
  | verificationRecoverable =>
    refine released ?_ rfl
    simp only [mark, drives_releaseSlot]
    rfl
  | noSpace _ cancels | terminalFailure _ cancels | slowPaused _ cancels =>
    refine kept ?_ rfl
    simp [mark, awaitDrain, cancels.drives, draft, drives]
  | slowDemoted state valid found succ cancels =>
    refine kept ?_ rfl
    simp [mark, awaitDrain, cancels.drives, draft]
  | restartQuiesced _ _ settles reprobes | drained _ _ _ settles reprobes =>
    exact settles.drains reprobes _
  | probed _ _ _ reprobes =>
    refine kept (reprobes.reprobed.drives.trans ?_) (by cases reprobes.reprobed <;> rfl)
    simp [drives]
  | _ => exact kept rfl rfl

end Ariax
