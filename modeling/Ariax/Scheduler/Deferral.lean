import Ariax.Scheduler.Effects
import Ariax.Scheduler.Timers

/-!
# Controls deferred by the application of a patch

A pause or a resume that arrives while a patch is being applied in place is
kept until the application is acknowledged, and is then carried out by other
code than a control that arrives afterwards. Both orders are evaluated here
and compared on what a control is for: the state, the pause intent, the
admission conditions, and whether a disk-space probe or a retry timer is
outstanding.
-/

namespace Ariax

open Draft RequestScheduler ScheduledTask TaskState

/-! ## Calls that are known to commit -/

section Performs

variable {self : RequestScheduler} {t : ScheduledTask} {action : SchedulerAction} {draft : Draft}
  {publish : Bool} {ids : IdCounters} {input : SchedulerInput}

/-- A call leaves a task with a known record, and the counters with known values. -/
structure Performs (scheduler : RequestScheduler) (input : SchedulerInput) (u : ScheduledTask)
    (ids : IdCounters) : Prop where
  valid : (scheduler.apply input).2.ValidTimed
  stored : (scheduler.apply input).2.tasks[u.gid]? = some u
  ids : (scheduler.apply input).2.ids = ids

theorem RequestScheduler.Indexed.memberships_stored (indexed : self.Indexed)
    (stored : self.tasks[t.gid]? = some t) : self.memberships t.gid = t.queueClass.toList := by
  have member (c : QueueClass) : t.gid ∈ self.queues.get c ↔ t.queueClass = some c := by
    rw [indexed.classified.mem_iff, RequestScheduler.Indexed.classOf_stored stored]
  unfold memberships
  simp only [member]
  cases t.queueClass with
  | none => rfl
  | some c => cases c <;> rfl

theorem Draft.Ready.performs (ready : draft.Ready self t action publish) (valid : self.ValidTimed)
    (stored : self.tasks[t.gid]? = some t) (instant : MonotonicInstant)
    (plan : self.apply input = self.perform (.ok (draft.finish t action instant publish ids))) :
    Performs self input draft.task ids := by
  have members := valid.valid.indexed.memberships_stored stored
  obtain ⟨committed, hplan⟩ := ready.commitPlan members instant ids
  refine ⟨valid.apply input, ?_, ?_⟩ <;>
    rw [plan, finish, perform, finishAction, hplan]
  · simp only [commit_tasks, call]
    simp
  · simp [call]

end Performs

/-! ## Live tasks -/

section Live

variable {self : RequestScheduler} {t : ScheduledTask} {action : SchedulerAction} {draft : Draft}
  {publish : Bool}

theorem ScheduledTask.queueClass_of_live (live : t.state.isTerminal = false) :
    ∃ c, t.queueClass = some c ∧ c ≠ .stopped := by
  unfold queueClass
  cases hs : t.state <;> simp_all [isTerminal] <;> split <;> simp

theorem ScheduledTask.Inv.retains (inv : t.Inv) (live : t.state.isTerminal = false)
    (blocked : t.conditions.blocksAdmission = true) : t.state.retainsConditions = true := by
  rcases inv.conditioned blocked with retains | removed
  · exact retains
  · simp [removed, isTerminal] at live

/-- An action moves a task to a state, or leaves it there. -/
structure ContractAllows (state : TaskState) (action : SchedulerAction) (target : TaskState) :
    Prop where
  kind : (transitionContract state action).kind = .transition ∨
    (transitionContract state action).kind = .stay
  target : actionTarget state action = some target

namespace ContractAllows

variable {state target : TaskState} (row : ContractAllows state action target)
include row

theorem mem_targets : target ∈ (transitionContract state action).targets := by
  have h := row.target
  unfold actionTarget at h
  rcases row.kind with kind | kind <;> simp only [kind] at h <;> exact List.mem_of_head? h

theorem accepts : (transitionContract state action).accepts = true ∧
    (transitionContract state action).kind ≠ .noOp := by
  rcases row.kind with kind | kind <;> simp [TransitionContract.accepts, kind]

end ContractAllows

/-- The draft of a step between live states that keeps the presented host key
is ready when the contract allows it. -/
theorem Draft.Ready.of_live (inv : t.Inv) (live : t.state.isTerminal = false)
    (row : ContractAllows t.state action draft.task.state)
    (live' : draft.task.state.isTerminal = false)
    (result : draft.task.terminalPersisted = t.terminalPersisted ∧
      draft.task.stoppedStatus = t.stoppedStatus)
    (challenge : draft.task.hostKeyChallenge = t.hostKeyChallenge)
    (shown : draft.task.state = .pausedHostKey ↔ t.state = .pausedHostKey)
    (conditions : draft.task.conditions.blocksAdmission = true →
      draft.task.state.retainsConditions = true)
    (barrier : ∀ generation status,
      draft.task.pendingBarrier ≠ some (.terminalPersistence generation status))
    (few : draft.effects.length + 2 ≤ maxSchedulerEffects) :
    draft.Ready self t action publish := by
  obtain ⟨c, old, unstopped⟩ := queueClass_of_live live
  obtain ⟨c', new, unstopped'⟩ := queueClass_of_live live'
  have unfinished {state : TaskState} (live : state.isTerminal = false) :
      state ≠ .stoppedResult ∧ state.isTerminalPending = false := by
    cases state <;> simp_all [isTerminal, isTerminalPending]
  have finished := inv.finished
  rw [ScheduledTask.Results, if_neg (unfinished live).1] at finished
  refine ⟨row.kind, row.mem_targets, by rw [old]; rfl, .inr ⟨?_, ?_⟩, .inl barrier, fun _ => ?_,
    few⟩
  · rw [old]
    exact fun same => unstopped (Option.some.inj same)
  · rw [new]
    exact fun same => unstopped' (Option.some.inj same)
  · refine ⟨?_, (unfinished live').2, ?_, conditions, fun _ => ?_, fun state => ?_⟩
    · rw [challenge, inv.challenged]
      simp [shown]
    · rw [result.1, finished.1]
      simp [(unfinished live').1]
    · rw [result.2, finished.2.1]
    · exact absurd state (unfinished live').1

end Live

/-! ## The acknowledgement -/

/-- A task that waits for the application of a patch without a restart. -/
structure ScheduledTask.AppliesInPlace (t : ScheduledTask) (patchId : OptionPatchId) : Prop where
  barrier : t.pendingBarrier = some (.optionPatchApplication t.generation patchId)
  mode : t.pendingOptionPatchMode = some .inPlace

def ScheduledTask.patchApplied (t : ScheduledTask) (patchId : OptionPatchId) : TaskEventEnvelope :=
  ⟨t.taskId, t.gid, t.generation, .optionPatchApplied patchId⟩

def ScheduledTask.appliedAction (t : ScheduledTask) : SchedulerAction :=
  if t.pendingCredentialRequirement.isSome then .credentialsSatisfied
  else .inPlaceOptionPatchApplied

section Acknowledgement

variable {self : RequestScheduler} {t : ScheduledTask} {patchId : OptionPatchId}
  {instant : MonotonicInstant}

namespace ScheduledTask.AppliesInPlace

variable (waits : t.AppliesInPlace patchId) (inv : t.Inv)
include waits inv

theorem states :
    t.state.isTerminal = false ∧ t.state ≠ .accepted ∧ t.state ≠ .pausedRestarting := by
  obtain ⟨placed, unstopped⟩ := inv.applying waits.barrier
  have moving : t.state ≠ .pausedRestarting := by
    have staged := inv.staged
    rw [waits.barrier, waits.mode] at staged
    obtain ⟨-, -, ⟨-, moving, -⟩ | ⟨mode, -⟩⟩ := staged
    · exact moving
    · cases mode
  cases hs : t.state <;> simp_all [idleSlot, isTerminal]

theorem requirement : t.pendingOptionPatch = some patchId ∧ t.pendingSourceReplacement = false ∧
      (t.pendingCredentialRequirement.isSome = true →
        t.credentialKey = t.pendingCredentialRequirement ∧ t.state.retainsConditions = true) := by
  have staged := inv.staged
  rw [waits.barrier, waits.mode] at staged
  obtain ⟨patch, source, ⟨-, -, bound⟩ | ⟨mode, -⟩⟩ := staged
  · refine ⟨patch, source, fun required => ?_⟩
    rcases bound with none | bound
    · rw [none] at required
      cases required
    · refine ⟨bound.symm, ?_⟩
      have needed : t.conditions.needsCredentials.isSome = true := by
        simpa [bound, credentialKey] using required
      have blocked : t.conditions.blocksAdmission = true := by
        simp [TaskConditions.blocksAdmission, needed]
      exact inv.retains (waits.states inv).1 blocked
  · cases mode

/-- The contract lets the acknowledgement through in every such state, and
leaves the state alone. -/
theorem appliedAction_row : ContractAllows t.state t.appliedAction t.state ∧
    patchApplicationAction .inPlace t.pendingCredentialRequirement true = .ok t.appliedAction := by
  obtain ⟨live, accepted, moving⟩ := waits.states inv
  obtain ⟨-, -, bound⟩ := waits.requirement inv
  unfold appliedAction
  cases hr : t.pendingCredentialRequirement with
  | none =>
    refine ⟨⟨.inr ?_, ?_⟩, rfl⟩ <;> cases hs : t.state <;>
      first | rfl | simp_all [isTerminal]
  | some =>
    refine ⟨⟨.inr ?_, ?_⟩, rfl⟩ <;> cases hs : t.state <;>
      first | rfl | simp_all [retainsConditions]

end ScheduledTask.AppliesInPlace

theorem RequestScheduler.planEvent_of_fresh {envelope : TaskEventEnvelope}
    (stored : self.tasks[envelope.event.gid]? = some t)
    (fresh : RequestScheduler.EventFresh t envelope) :
    self.planEvent envelope instant = (do
      rejectInvalidEvent envelope.event
      self.dispatchEvent t envelope.event instant) := by
  have current : generationDisposition t.generation envelope.event.generation = .ok .fresh := by
    simp [generationDisposition, fresh.generation]
  have unbarred : rejectBarred t envelope.event = .ok () := by
    unfold rejectBarred
    cases hb : t.pendingBarrier with
    | none => rfl
    | some barrier => exact if_pos (fresh.unbarred barrier hb)
  simp only [planEvent, taskClone_eq_ok.mpr stored, Except.ok_bind, fresh.owner,
    current, fresh.unseen, unbarred, ne_eq, not_true_eq_false, if_false, Bool.false_eq_true]

theorem RequestScheduler.planEvent_patchApplied (inv : t.Inv)
    (stored : self.tasks[t.gid]? = some t) (waits : t.AppliesInPlace patchId) :
    self.planEvent (t.patchApplied patchId) instant = (do
      match ← (patchApplicationDraft t patchId true).completePendingUserControl t with
      | (some action, draft) =>
        return draft.finish t action instant (publishesPatchApplication action) self.ids
      | (none, draft) =>
        return (draft.setState t.state).finish t t.appliedAction instant
          (publishesPatchApplication t.appliedAction) self.ids) := by
  obtain ⟨patch, -, bound⟩ := waits.requirement inv
  have fresh : RequestScheduler.EventFresh t (t.patchApplied patchId) := by
    refine ⟨rfl, rfl, rfl, fun barrier hb => ?_⟩
    obtain rfl := Option.some.inj (waits.barrier.symm.trans hb)
    rfl
  have expected : tokenDisposition (expectedPatchApplication t)
      t.lastOptionPatchApplication patchId = .fresh := by
    simp [expectedPatchApplication, waits.barrier, tokenDisposition]
  have current : ¬(t.pendingCredentialRequirement.isSome = true ∧
      t.credentialKey ≠ t.pendingCredentialRequirement) :=
    fun ⟨required, stale⟩ => stale (bound required).1
  rw [planEvent_of_fresh stored fresh]
  change optionPatchApplicationCompleted self t patchId none instant = _
  simp only [optionPatchApplicationCompleted, expected, patch, waits.mode, rejectIf]
  simp only [ne_eq, not_true_eq_false, if_false, Except.ok_bind, current]
  obtain ⟨row, selected⟩ := waits.appliedAction_row inv
  have uncontrolled (draft : Draft) : (do
      let action ← patchApplicationAction .inPlace t.pendingCredentialRequirement
        (none : Option PublicError).isNone
      t.staleIfRejectedEvent action instant do
        let state ← t.targetState action
        pure ((draft.setState state).finish t action instant (publishesPatchApplication action)
          self.ids)) =
      (.ok ((draft.setState t.state).finish t t.appliedAction instant
        (publishesPatchApplication t.appliedAction) self.ids) : Except SchedulerError Planned) := by
    rw [show patchApplicationAction .inPlace t.pendingCredentialRequirement
      (none : Option PublicError).isNone = .ok t.appliedAction from selected, Except.ok_bind,
      staleIfRejectedEvent, if_pos row.accepts.1,
      targetState_eq_ok.mpr row.target]
    rfl
  simp only [uncontrolled]
  rfl

end Acknowledgement

/-! ## What the two orders leave -/

/-- What a control is for, read off the record of a task. -/
structure ControlView where
  state : TaskState
  desiredPaused : Bool
  conditions : TaskConditions
  probing : Bool
  retrying : Bool
  applying : Bool
  deriving DecidableEq

def ScheduledTask.controlView (t : ScheduledTask) : ControlView where
  state := t.state
  desiredPaused := t.desiredPaused
  conditions := t.conditions
  probing := t.noSpaceProbe.isSome
  retrying := t.retryLive
  applying := (expectedPatchApplication t).isSome

/-- The conditions of a task after a patch that may satisfy its credentials. -/
def ScheduledTask.appliedConditions (t : ScheduledTask) : TaskConditions :=
  if t.pendingCredentialRequirement.isSome then { t.conditions with needsCredentials := none }
  else t.conditions

variable {self : RequestScheduler} {t u : ScheduledTask} {patchId : OptionPatchId}
  {force : Bool} (instant : MonotonicInstant) {action : SchedulerAction}

theorem appliedConditions_blocks (h : t.appliedConditions.blocksAdmission = true) :
    t.conditions.blocksAdmission = true := by
  unfold appliedConditions at h
  split at h
  · simp only [TaskConditions.blocksAdmission, Bool.or_eq_true] at h ⊢
    simp_all
  · exact h

theorem patchApplicationDraft_conditions :
    (patchApplicationDraft t patchId true).task.conditions = t.appliedConditions := by
  simp [patchApplicationDraft, draft, appliedConditions]

def ScheduledTask.pausing (t : ScheduledTask) (force : Bool) : ScheduledTask :=
  ({ t with desiredPaused := true }.draft.cancelTimers.setControl (some (.pause force))).task

theorem length_cancelSlowReadmissionEffects (t : ScheduledTask) :
    t.cancelSlowReadmissionEffects.length ≤ 1 := by
  unfold cancelSlowReadmissionEffects
  split <;> simp

theorem length_cancelTimers (d : Draft) : d.cancelTimers.effects.length ≤ d.effects.length + 2 := by
  have retry : d.task.cancelRetryEffects.length ≤ 1 := by
    unfold cancelRetryEffects
    split <;> simp
  have slow := length_cancelSlowReadmissionEffects d.task
  simp only [cancelTimers, List.length_append]
  omega

theorem length_cancelSlowReadmission (d : Draft) :
    d.cancelSlowReadmission.effects.length ≤ d.effects.length + 1 := by
  have slow := length_cancelSlowReadmissionEffects d.task
  simp only [cancelSlowReadmission, List.length_append]
  omega

theorem deferredPause_row (live : t.state.isTerminal = false)
    (unchallenged : t.state ≠ .pausedHostKey) :
    ContractAllows t.state .deferredPauseCompleted t.state.afterPause := by
  cases hs : t.state <;>
    first | exact ⟨.inl rfl, rfl⟩ | exact ⟨.inr rfl, rfl⟩ | simp_all [isTerminal]

theorem afterPause_facts (live : t.state.isTerminal = false) :
    t.state.afterPause.isTerminal = false ∧
      (t.state.afterPause = .pausedHostKey ↔ t.state = .pausedHostKey) ∧
      (t.state ≠ .pausedHostKey → t.state.afterPause.retainsConditions = true) := by
  cases hs : t.state <;>
    simp_all [isTerminal, afterPause, retainsConditions]

section

variable (t : ScheduledTask) (patchId : OptionPatchId)

/-- The draft of a pause that waited, before a worker is told to stop. -/
def ScheduledTask.pausedDraft : Draft where
  task := { (patchApplicationDraft t patchId true).task with
    pendingUserControl := none, state := t.state.afterPause, desiredPaused := true }
  effects := []

/-- The draft of a pause that waited: a worker that holds a slot is drained. -/
def ScheduledTask.drainedDraft (force : Bool) : Draft :=
  if t.slot.ownsSlot then
    (t.pausedDraft patchId).awaitDrain .paused force
      [.cancelGeneration t.taskId t.gid t.generation force]
  else
    t.pausedDraft patchId

end

theorem ScheduledTask.targetState_eq_error
    (h : actionTarget t.state action = none) : ∃ error, t.targetState action = .error error := by
  cases target : t.targetState action with
  | error error => exact ⟨error, rfl⟩
  | ok => cases h.symm.trans (targetState_eq_ok.mp target)

variable (waits : t.AppliesInPlace patchId)
include waits

theorem ScheduledTask.AppliesInPlace.deferring :
    t.deferringBarrier = some (.optionPatchApplication t.generation patchId) :=
  deferringBarrier_eq_some.mpr ⟨waits.barrier, rfl⟩

variable (valid : self.ValidTimed) (stored : self.tasks[t.gid]? = some t)
include valid stored

theorem patchApplied_performs (free : t.pendingUserControl = none) :
    Performs self (.event (t.patchApplied patchId) instant)
      (patchApplicationDraft t patchId true).task self.ids := by
  have inv := valid.valid.tasks _ t stored
  obtain ⟨live, -, -⟩ := waits.states inv
  have row := (waits.appliedAction_row inv).1
  have ready : Draft.Ready self t t.appliedAction (patchApplicationDraft t patchId true)
      (publishesPatchApplication t.appliedAction) := by
    refine .of_live inv live row live ⟨rfl, rfl⟩ rfl .rfl (fun blocked => inv.retains live ?_)
      (fun _ _ => by rintro ⟨⟩)
      (by simp [patchApplicationDraft, draft, maxSchedulerEffects])
    exact appliedConditions_blocks blocked
  refine ready.performs valid stored instant ?_
  have control : (patchApplicationDraft t patchId true).completePendingUserControl t =
      .ok (none, patchApplicationDraft t patchId true) := by
    simp only [completePendingUserControl, patchApplicationDraft, draft, free]
  change perform self (planEvent self _ instant) = _
  rw [planEvent_patchApplied inv stored waits, control]
  rfl

theorem pauseDeferred_performs (free : t.pendingUserControl = none) :
    Performs self (.command (.pause t.gid force) instant) (t.pausing force) self.ids := by
  have inv := valid.valid.tasks _ t stored
  obtain ⟨live, accepted, -⟩ := waits.states inv
  have row : ContractAllows t.state .pauseDeferred t.state := by
    cases hs : t.state <;> first | exact ⟨.inr rfl, rfl⟩ | simp_all [isTerminal]
  have ready : Draft.Ready self t .pauseDeferred
      ({ t with desiredPaused := true }.draft.cancelTimers.setControl (some (.pause force)))
      true := by
    refine .of_live inv live row live ⟨rfl, rfl⟩ rfl .rfl (inv.retains live)
      (fun generation status same => ?_) ?_
    · cases waits.barrier.symm.trans same
    · have few := length_cancelTimers { t with desiredPaused := true }.draft
      have none : ({ t with desiredPaused := true }.draft).effects.length = 0 := rfl
      simp only [setControl, maxSchedulerEffects]
      omega
  refine ready.performs valid stored instant ?_
  change perform self (pause self t.gid force instant) = _
  simp only [pause, taskClone_eq_ok.mpr stored, Except.ok_bind,
    waits.deferring, pauseDeferred, free]
  simp [PendingBarrier.isHostKeyResolution]

variable (paused : t.pendingUserControl = some (.pause force))
include paused

theorem patchApplied_pauses (unchallenged : t.state ≠ .pausedHostKey) :
    Performs self (.event (t.patchApplied patchId) instant) (t.drainedDraft patchId force).task
      self.ids := by
  have inv := valid.valid.tasks _ t stored
  obtain ⟨live, -, -⟩ := waits.states inv
  have row := deferredPause_row live unchallenged
  obtain ⟨live', shown, retains⟩ := afterPause_facts live
  have ready : Draft.Ready self t .deferredPauseCompleted (t.drainedDraft patchId force) true := by
    unfold drainedDraft
    split <;>
      exact .of_live inv live row live' ⟨rfl, rfl⟩ rfl shown
        (fun _ => retains unchallenged) (fun _ _ => by rintro ⟨⟩)
        (by simp [pausedDraft, awaitDrain, maxSchedulerEffects])
  refine ready.performs valid stored instant ?_
  change perform self (planEvent self _ instant) = _
  have control : (patchApplicationDraft t patchId true).completePendingUserControl t =
      .ok (some .deferredPauseCompleted, t.drainedDraft patchId force) := by
    unfold completePendingUserControl drainedDraft
    simp only [show (patchApplicationDraft t patchId true).task.pendingUserControl =
      some (.pause force) from paused, targetState_eq_ok.mpr row.target, Except.ok_bind]
    have owns : (patchApplicationDraft t patchId true).task.slot = t.slot := rfl
    by_cases owned : t.slot.ownsSlot = true
    · simp only [setControl, owns, owned, if_true]
      rfl
    · simp only [setControl, owns, owned]
      rfl
  rw [planEvent_patchApplied inv stored waits, control]
  rfl

theorem patchApplied_fails (challenged : t.state = .pausedHostKey) :
    (self.apply (.event (t.patchApplied patchId) instant)).2 = self := by
  have inv := valid.valid.tasks _ t stored
  obtain ⟨error, rejected⟩ := targetState_eq_error (show
    actionTarget t.state .deferredPauseCompleted = none by rw [challenged]; rfl)
  have control : (patchApplicationDraft t patchId true).completePendingUserControl t =
      .error error := by
    simp only [completePendingUserControl, show
      (patchApplicationDraft t patchId true).task.pendingUserControl = some (.pause force)
        from paused, rejected]
    rfl
  change (perform self (planEvent self _ instant)).2 = _
  rw [planEvent_patchApplied inv stored waits, control]
  rfl

end Ariax
