import Ariax.Scheduler.Specs
import Ariax.Scheduler.Step

/-!
# What the event handlers plan

Each event handler, taken apart once: when it succeeds for a task of the
event's generation, it plans one of the steps of its event, deletes the
task, or ignores the event.
-/

namespace Ariax

open ScheduledTask Except

namespace RequestScheduler

variable {self : RequestScheduler} {gid : Gid} {t : ScheduledTask} {cause : StepCause}
  {instant : MonotonicInstant} {planned : Planned}
  {handler : Except SchedulerError Planned} {resolutionId : HostKeyResolutionId}
  {target : TaskState} {disposition : EventDisposition} {action : SchedulerAction}

theorem ignored_plans (h : t.ignored disposition instant = .ok planned) :
    Plans self gid t cause instant planned := by
  obtain ⟨outcome, ignored, rfl⟩ := map_eq_ok.mp h
  exact .ignored ignored

/-- An event the contract rejects is ignored as stale, so it is enough to look
at the handler of an accepted one. -/
theorem staleIfRejected_plans (h : t.staleIfRejectedEvent action instant handler = .ok planned)
    (accepted : (transitionContract t.state action).accepts = true → handler = .ok planned →
      Plans self gid t cause instant planned) : Plans self gid t cause instant planned := by
  unfold staleIfRejectedEvent at h
  split at h
  next accepts => exact accepted accepts h
  next => exact ignored_plans h

/-- An accepted event moves its task to the target that the contract has for it. -/
theorem targeted_plans {p : Prop} [Decidable p]
    {next : TaskState → Except SchedulerError Planned}
    (h : t.staleIfRejectedEvent action instant (t.targetState action >>= next) = .ok planned)
    (row : actionTarget t.state action = if p then some target else none)
    (accepted : p → next target = .ok planned → Plans self gid t cause instant planned) :
    Plans self gid t cause instant planned := by
  refine staleIfRejected_plans h fun _ h => ?_
  obtain ⟨state, htarget, h⟩ := bind_eq_ok.mp h
  obtain ⟨live, rfl⟩ := target_of_ite htarget row
  exact accepted live h

variable {family : IdFamily} {expected last : Option (NonzeroId family)} {actual : NonzeroId family}

theorem tokenDisposition_eq_fresh :
    tokenDisposition expected last actual = .fresh ↔ expected = some actual := by
  unfold tokenDisposition
  split <;> [simp_all; (split <;> simp_all)]

/-- An event with the token of another operation is ignored. -/
theorem fresh_plans
    (h : (if tokenDisposition expected last actual ≠ .fresh then
      t.ignored (tokenDisposition expected last actual) instant else handler) = .ok planned)
    (accepted : expected = some actual → handler = .ok planned →
      Plans self gid t cause instant planned) : Plans self gid t cause instant planned := by
  split at h
  next => exact ignored_plans h
  next fresh => exact accepted (tokenDisposition_eq_fresh.mp (not_not.mp fresh)) h

/-! ## Acknowledgements of barriers -/

theorem generationPersisted_plans
    (h : self.generationPersisted t t.generation instant = .ok planned) :
    Plans self gid t (.event .generationPersisted) instant planned := by
  unfold generationPersisted at h
  split at h
  next => exact ignored_plans h
  next barrier =>
    refine staleIfRejected_plans h fun accepts h => ?_
    have state : t.state = .allocating := by
      revert accepts
      cases t.state <;> decide
    cases h
    exact .step (.generationPersisted (not_not.mp barrier) state)

variable {patchId : OptionPatchId} {body : TaskEventBody} {error : Option PublicError}
  {source : TaskState} {succeeded : Bool}

theorem expectedPatchPersistence_eq_some : expectedPatchPersistence t = some patchId ↔
      t.pendingBarrier = some (.optionPatchPersistence t.generation patchId) := by
  unfold expectedPatchPersistence
  split <;> simp_all

theorem patchPersistenceDraft_barrier :
    (patchPersistenceDraft t patchId succeeded).task.pendingBarrier = none := by
  cases succeeded <;> rfl

theorem Controls.completed {d d' : Draft} (h : d.Controls t action d') :
    action = .deferredPauseCompleted ∨ action = .deferredResumeCompleted ∨
      action = .deferredRemoveCompleted := by
  cases h <;> simp

theorem optionPatchPersistenceCompleted_plans (row : PatchPersistenceRow patchId body succeeded)
    (h : self.optionPatchPersistenceCompleted t patchId succeeded instant = .ok planned) :
    Plans self gid t (.event body) instant planned := by
  refine fresh_plans h fun expected h => ?_
  have barrier := expectedPatchPersistence_eq_some.mp expected
  simp only [bind_eq_ok] at h
  obtain ⟨-, -, -, -, ⟨completed, d⟩, completes, h⟩ := h
  obtain ⟨rfl, uncontrolled, rfl⟩ | ⟨action, rfl, controls⟩ :=
    Draft.completePendingUserControl_ok completes patchPersistenceDraft_barrier
  · refine staleIfRejected_plans h fun _ h => ?_
    obtain ⟨state, htarget, h⟩ := bind_eq_ok.mp h
    cases row with
    | persisted =>
      obtain ⟨live, rfl⟩ := target_of_ite htarget actionTarget_restartPersisted
      cases h
      exact .step (.patchPersisted barrier uncontrolled live)
    | failed =>
      obtain ⟨live, rfl⟩ := target_of_ite htarget actionTarget_restartPersistenceFailed
      cases h
      exact .step (.patchPersistenceFailed barrier uncontrolled live)
  · have step : TaskStep self gid t (.event body) action d
        (decide (action ≠ .deferredRemoveCompleted)) self.ids :=
      .patchPersistedControl barrier row controls
    obtain rfl | rfl | rfl := Controls.completed controls <;> cases h <;> exact .step step

theorem expectedPatchApplication_eq_some : expectedPatchApplication t = some patchId ↔
      t.pendingBarrier = some (.optionPatchApplication t.generation patchId) := by
  unfold expectedPatchApplication
  split <;> simp_all

section

variable (barrier : t.pendingBarrier = some (.optionPatchApplication t.generation patchId))
include barrier

theorem restartApplicationFailed_plans {error : PublicError}
    (mode : t.pendingOptionPatchMode = some .activeRestart)
    (h : self.restartApplicationFailed t (patchApplicationDraft t patchId false) error instant =
      .ok planned) :
    Plans self gid t (.event (.optionPatchApplicationFailed patchId error)) instant planned := by
  refine targeted_plans h actionTarget_restartFailed fun quiesced h => ?_
  cases Draft.beginTerminal_bind h
  exact .step (.restartFailed barrier mode quiesced)

variable {mode : PendingOptionPatchMode} (hmode : t.pendingOptionPatchMode = some mode)
  (row : PatchApplicationRow patchId body error)
include hmode row

/-- A patch application without a deferred control concludes with its own action. -/
theorem patchApplication_plans (uncontrolled : t.pendingUserControl = none)
    (selected : patchApplicationAction mode t.pendingCredentialRequirement error.isNone =
      .ok action)
    (h : t.staleIfRejectedEvent action instant (do
      let state ← t.targetState action
      return ((patchApplicationDraft t patchId error.isNone).setState state).finish t action
        instant (publishesPatchApplication action) self.ids) = .ok planned) :
    Plans self gid t (.event body) instant planned := by
  refine staleIfRejected_plans h fun accepts h => ?_
  obtain ⟨state, htarget, h⟩ := bind_eq_ok.mp h
  cases mode with
  | matchingHostKey => cases selected
  | inPlace =>
    rw [targetState_eq_ok,
      actionTarget_patchApplication (inPlace_of_patchApplicationAction selected),
      if_pos accepts] at htarget
    cases htarget
    cases h
    exact .step (.patchApplied barrier hmode uncontrolled row selected)
  | activeRestart =>
    cases row with
    | failed => cases selected
    | applied =>
      cases selected
      obtain ⟨quiesced, rfl⟩ := target_of_ite htarget actionTarget_restartApplied
      cases h
      exact .step (.restartApplied barrier hmode uncontrolled quiesced)

theorem controlledApplication_plans
    (h : (do
      match ← (patchApplicationDraft t patchId error.isNone).completePendingUserControl t with
      | (some action, d) =>
        return d.finish t action instant (publishesPatchApplication action) self.ids
      | (none, d) =>
        let action ← patchApplicationAction mode t.pendingCredentialRequirement error.isNone
        t.staleIfRejectedEvent action instant do
          let state ← t.targetState action
          return (d.setState state).finish t action instant
            (publishesPatchApplication action) self.ids) = .ok planned) :
    Plans self gid t (.event body) instant planned := by
  obtain ⟨⟨completed, d⟩, completes, h⟩ := bind_eq_ok.mp h
  obtain ⟨rfl, uncontrolled, rfl⟩ | ⟨action, rfl, controls⟩ :=
    Draft.completePendingUserControl_ok completes rfl
  · obtain ⟨action, selected, h⟩ := bind_eq_ok.mp h
    exact patchApplication_plans barrier hmode row uncontrolled selected h
  · have step : TaskStep self gid t (.event body) action d
        (decide (action ≠ .deferredRemoveCompleted)) self.ids :=
      .patchAppliedControl barrier row controls
    obtain rfl | rfl | rfl := Controls.completed controls <;> cases h <;> exact .step step

end

theorem optionPatchApplicationCompleted_plans (row : PatchApplicationRow patchId body error)
    (h : self.optionPatchApplicationCompleted t patchId error instant = .ok planned) :
    Plans self gid t (.event body) instant planned := by
  refine fresh_plans h fun expected h => ?_
  have barrier := expectedPatchApplication_eq_some.mp expected
  obtain ⟨-, -, h⟩ := bind_eq_ok.mp h
  split at h
  next => cases h
  next => cases h
  next mode _ hmode =>
    obtain ⟨-, -, h⟩ := bind_eq_ok.mp h
    split at h
    next error =>
      cases row
      exact restartApplicationFailed_plans barrier hmode h
    next => exact controlledApplication_plans barrier hmode row h

theorem expectedResolution_eq_some : (expectedResolution t).1 = some resolutionId ↔
      ∃ challenge, t.pendingBarrier =
        some (.hostKeyResolution t.generation resolutionId challenge) := by
  unfold expectedResolution
  split
  next generation resolution challenge hb =>
    split <;> simp_all
  next other =>
    simp only [reduceCtorEq, false_iff, not_exists]
    intro challenge hb
    exact other _ _ _ hb

theorem hostKeyResolutionCompleted_plans (row : HostKeyRow resolutionId body succeeded)
    (h : self.hostKeyResolutionCompleted t resolutionId succeeded instant = .ok planned) :
    Plans self gid t (.event body) instant planned := by
  refine fresh_plans h fun expected h => ?_
  obtain ⟨challenge, barrier⟩ := expectedResolution_eq_some.mp expected
  simp only [bind_eq_ok] at h
  obtain ⟨-, -, -, -, h⟩ := h
  split at h
  next force removing =>
    obtain ⟨⟨completed, d⟩, completes, h⟩ := bind_eq_ok.mp h
    obtain ⟨rfl, uncontrolled, rfl⟩ | ⟨action, rfl, controls⟩ :=
      Draft.completePendingUserControl_ok completes rfl
    · cases h
    · -- only a removal completes as one
      obtain rfl : action = .deferredRemoveCompleted := by
        cases controls <;>
          simp_all [hostKeyDraft, draft]
      simp only [ne_eq, not_true_eq_false, decide_false, Bool.and_false] at h
      cases h
      exact .step (.hostKeyRemoved barrier row controls)
  next kept =>
    refine staleIfRejected_plans h fun _ h => ?_
    obtain ⟨state, htarget, h⟩ := bind_eq_ok.mp h
    cases row with
    | persisted =>
      obtain ⟨shown, rfl⟩ := target_of_ite htarget actionTarget_hostKeyResolved
      have publishes : SchedulerAction.forHostKeyResolution t.desiredPaused ≠
          .deferredRemoveCompleted := by
        cases t.desiredPaused <;> simp [SchedulerAction.forHostKeyResolution]
      simp only [if_true, publishes, ne_eq, not_false_eq_true, decide_true, Bool.and_self] at h
      cases h
      exact .step (.hostKeyResolved barrier kept shown)
    | failed =>
      obtain ⟨shown, rfl⟩ := target_of_ite htarget (actionTarget_hostKey (.inr (.inr rfl)))
      cases h
      exact .step (.hostKeyUnresolved barrier kept shown)

/-! ## Worker progress -/

theorem advanceWork_plans (row : AdvanceRow source body action target)
    (h : self.advanceWork t action body.kind instant = .ok planned) :
    Plans self gid t (.event body) instant planned := by
  refine targeted_plans h (actionTarget_advance row) fun live h => ?_
  cases h
  exact .step (.advance live row)

theorem dataComplete_plans {seed : Bool} (h : self.dataComplete t seed instant = .ok planned) :
    Plans self gid t (.event (.dataComplete seed)) instant planned := by
  cases seed with
  | false => exact advanceWork_plans .dataComplete h
  | true => exact advanceWork_plans .payloadComplete h

theorem enterRetryWait_plans {retryAt : MonotonicInstant}
    (row : RetryRow source body action retryAt)
    (h : self.enterRetryWait t action body.kind retryAt instant = .ok planned) :
    Plans self gid t (.event body) instant planned := by
  refine staleIfRejected_plans h fun _ h => ?_
  obtain ⟨⟨timer, ids⟩, draw, h⟩ := bind_eq_ok.mp h
  obtain ⟨state, htarget, h⟩ := bind_eq_ok.mp h
  obtain ⟨live, rfl⟩ := target_of_ite htarget (actionTarget_retry row)
  cases policy : self.config.retryWaitHoldsSlot with
  | true =>
    simp only [policy, if_true] at h
    cases h
    exact .step (.retryRetained live row draw policy)
  | false =>
    simp only [policy, Bool.false_eq_true, if_false] at h
    cases h
    exact .step (.retryReleased live row draw policy)

theorem hostKeyChallenge_plans {challenge : PresentedHostKeyChallenge}
    {active : Bool} (row : ChallengeRow source body action challenge)
    (selected : action = if active then .activeHostKeyChallengeRequired
      else .hostKeyChallengeRequired)
    (h : self.allocationHostKeyChallenge t challenge active instant = .ok planned) :
    Plans self gid t (.event body) instant planned := by
  unfold allocationHostKeyChallenge at h
  simp only [← selected] at h
  refine targeted_plans h (actionTarget_challenge row) fun live h => ?_
  cases h
  have kind : (if active = true then TaskEventKind.activeHostKeyChallenge
      else TaskEventKind.allocationHostKeyChallenge) = body.kind := by
    cases active <;> cases row <;> first | rfl | cases selected
  rw [kind]
  exact .step (.challenge live row)

theorem endWork_plans {status : Aria2Status}
    (row : EndRow source body action target status error)
    (h : self.endWork t action body.kind status error instant = .ok planned) :
    Plans self gid t (.event body) instant planned := by
  refine targeted_plans h (actionTarget_end row) fun live h => ?_
  cases Draft.beginTerminal_bind h
  exact .step (.endWork live row)

theorem verificationRecoverable_plans (h : self.verificationRecoverable t instant = .ok planned) :
    Plans self gid t (.event .verificationRecoverable) instant planned := by
  refine targeted_plans h SingleRow.verificationRecoverable.target_eq fun live h => ?_
  cases h
  exact .step (.verificationRecoverable live)

theorem activeRepresentationRestart_plans
    (h : self.activeRepresentationRestart t instant = .ok planned) :
    Plans self gid t (.event .activeRepresentationRestart) instant planned := by
  refine staleIfRejected_plans h fun _ h => ?_
  obtain ⟨d, admitted, h⟩ := bind_eq_ok.mp h
  obtain ⟨entered, admits, row, rfl⟩ := planAdmission_ok admitted
  rw [SingleRow.representationRestart.target_eq] at row
  have live : t.state = .active := (Option.ite_none_right_eq_some.mp row).1
  cases h
  exact .step (.representationRestart live admits)

/-! ## Readmission timers -/

theorem retryReady_plans {timer : RetryTimerId}
    (h : self.retryReady t timer instant = .ok planned) :
    Plans self gid t (.event (.retryReady timer)) instant planned := by
  refine fresh_plans h fun expected h => ?_
  obtain ⟨⟨timer', at'⟩, armed, rfl⟩ := Option.map_eq_some_iff.mp expected
  split at h
  next =>
    refine staleIfRejected_plans h fun _ h => ?_
    obtain ⟨d, admitted, h⟩ := bind_eq_ok.mp h
    obtain ⟨entered, admits, row, rfl⟩ := planAdmission_ok admitted
    rw [actionTarget_admission .retryWait] at row
    have state : t.state = .retryWait := (Option.ite_none_right_eq_some.mp row).1
    cases h
    exact .step (.retryAdmitted state armed admits)
  next =>
    refine staleIfRejected_plans h fun accepts h => ?_
    have state : t.state = .retryWait := by
      revert accepts
      cases t.state <;> decide
    cases h
    exact .step (.retryBlocked state armed)

theorem readmitSlow_plans {timer : SlowReadmissionId}
    (h : self.readmitSlow t timer instant = .ok planned) :
    Plans self gid t (.event (.readmitSlow timer)) instant planned := by
  refine fresh_plans h fun expected h => ?_
  obtain ⟨⟨timer', at'⟩, armed, rfl⟩ := Option.map_eq_some_iff.mp expected
  split at h
  next =>
    refine staleIfRejected_plans h fun _ h => ?_
    obtain ⟨d, admitted, h⟩ := bind_eq_ok.mp h
    obtain ⟨entered, admits, row, rfl⟩ := planAdmission_ok admitted
    rw [actionTarget_admission .waitingSlow] at row
    have state : t.state = .waitingSlow := (Option.ite_none_right_eq_some.mp row).1
    cases h
    exact .step (.slowAdmitted state armed admits)
  next =>
    refine staleIfRejected_plans h fun accepts h => ?_
    have state : t.state = .waitingSlow := by
      revert accepts
      cases t.state <;> decide
    cases h
    exact .step (.slowBlocked state armed)

end RequestScheduler

end Ariax
