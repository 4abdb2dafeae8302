import Ariax.Scheduler.Specs
import Ariax.Scheduler.Step

/-!
# What the command handlers plan

Each command handler, taken apart once: when it succeeds, it plans one of
the steps of its command for the task stored under the GID, or replies that
there is nothing to do.
-/

namespace Ariax

open ScheduledTask Except

namespace RequestScheduler

variable {self : RequestScheduler} {gid : Gid} {instant : MonotonicInstant} {planned : Planned}
  {satisfies : Option CredentialRequirementKey} {t : ScheduledTask}
  {kind : ValidatedOptionPatchKind}
  {barrier : PendingBarrier} {action : SchedulerAction} {force : Bool}

theorem pauseDeferred_plans (deferring : t.deferringBarrier = some barrier)
    (h : self.pauseDeferred t barrier force instant = .ok planned) :
    Plans self gid t (.command (.pause gid force)) instant planned := by
  unfold pauseDeferred at h
  split at h
  next => cases h
  next kept =>
    cases h
    exact .step (.pauseDeferred deferring kept)

variable (self gid instant planned) in
/-- The command plans something for the task stored under the GID. -/
def PlansCommand (command : SchedulerCommand) : Prop :=
  ∃ t, self.tasks[gid]? = some t ∧ Plans self gid t (.command command) instant planned

theorem pause_plans (h : self.pause gid force instant = .ok planned) :
    self.PlansCommand gid instant planned (.pause gid force) := by
  simp only [pause, bind_eq_ok, taskClone_eq_ok] at h
  obtain ⟨t, ht, h⟩ := h
  refine ⟨t, ht, ?_⟩
  cases direct : t.deferringBarrier with
  | some =>
    simp only [direct] at h
    exact pauseDeferred_plans direct h
  | none =>
    simp only [direct] at h
    split at h
    next =>
      cases h
      exact .noop
    next =>
      obtain ⟨target, htarget, h⟩ := bind_eq_ok.mp h
      obtain ⟨live, rfl⟩ := target_of_ite htarget actionTarget_pause
      split at h
      next drains =>
        obtain ⟨f, effects, cancels, h⟩ := Draft.beginCancellation_bind h
        cases h
        exact .step (.pauseDraining direct live drains (cancels.congr rfl rfl rfl rfl))
      next drained =>
        split at h
        next state =>
          cases h
          rw [state]
          exact .step (.pauseRetry direct (by simpa using drained) state)
        next state =>
          split at h
          next barrier hbarrier =>
            split at h
            next exempt =>
              -- a host-key resolution defers the pause, so this barrier is not one
              have := deferringBarrier_eq_none direct hbarrier
              cases barrier <;>
                simp [PendingBarrier.isHostKeyResolution, PendingBarrier.defersUserControl]
                  at exempt this
            next => cases h
          next idle =>
            cases h
            exact .step (.pauseIdle idle (by simpa using drained) live state)

theorem resumeDeferred_plans (deferring : t.deferringBarrier = some barrier)
    (source : t.pendingSourceReplacement = false)
    (h : self.resumeDeferred t barrier instant = .ok planned) :
    Plans self gid t (.command (.resume gid)) instant planned := by
  unfold resumeDeferred at h
  split at h
  next => cases h
  next kept =>
    split at h
    next =>
      cases h
      exact .noop
    next paused =>
      cases h
      refine .step (.resumeDeferred deferring source kept ?_)
      simpa [or_iff_not_imp_left, pausePending_eq_true] using paused

theorem resumeWithProbe_plans (idle : t.pendingBarrier = none)
    (source : t.pendingSourceReplacement = false) (blocked : t.conditions.noSpace.isSome = true)
    (retains : t.state.retainsConditions = true)
    (h : self.resumeWithProbe t t.state.afterProbeRequest instant = .ok planned) :
    Plans self gid t (.command (.resume gid)) instant planned := by
  unfold resumeWithProbe at h
  split at h
  next =>
    cases h
    exact .noop
  next =>
    obtain ⟨⟨d, ids⟩, probed, h⟩ := bind_eq_ok.mp h
    cases h
    exact .step (.resumeProbing idle source blocked retains (Draft.scheduleNoSpaceProbe_ok probed))

theorem resume_plans (h : self.resume gid instant = .ok planned) :
    self.PlansCommand gid instant planned (.resume gid) := by
  simp only [resume, bind_eq_ok, taskClone_eq_ok, rejectIf_eq_ok, Bool.not_eq_true] at h
  obtain ⟨t, ht, -, source, h⟩ := h
  refine ⟨t, ht, ?_⟩
  cases direct : t.deferringBarrier with
  | some =>
    simp only [direct] at h
    exact resumeDeferred_plans direct source h
  | none =>
    simp only [direct, bind_eq_ok, rejectPending_eq_ok] at h
    obtain ⟨-, idle, h⟩ := h
    split at h
    next =>
      cases h
      exact .noop
    next accepted =>
      obtain ⟨target, htarget, h⟩ := bind_eq_ok.mp h
      by_cases probing : (t.conditions.snapshot.noSpace && t.state.retainsConditions) = true
      · simp only [SchedulerAction.forResume, probing, if_true] at h htarget
        obtain ⟨retains, rfl⟩ := target_of_ite htarget actionTarget_explicitNoSpaceProbe
        exact resumeWithProbe_plans idle source (Bool.and_elim_left probing) retains h
      · simp only [SchedulerAction.forResume, probing] at h htarget accepted
        obtain ⟨state, rfl⟩ := target_of_ite htarget (actionTarget_resume accepted)
        have ready : t.conditions.noSpace = none := by
          rcases state with hs | hs | hs <;>
            simpa [hs, TaskState.retainsConditions, TaskConditions.snapshot] using probing
        cases h
        exact .step (.resume idle source ready state)

/-! ## Host keys, source replacement and option patches -/

theorem approveHostKey_plans {challenge : HostKeyChallengeId} {fingerprint : HostKeyFingerprint}
    (h : self.approveHostKey gid challenge fingerprint instant = .ok planned) :
    self.PlansCommand gid instant planned (.approveHostKey gid challenge fingerprint) := by
  simp only [approveHostKey, bind_eq_ok, taskClone_eq_ok, rejectPending_eq_ok] at h
  obtain ⟨t, ht, -, idle, h⟩ := h
  refine ⟨t, ht, ?_⟩
  split at h
  next => cases h
  next presented shown =>
    simp only [bind_eq_ok, rejectIf_eq_ok, not_or, not_not] at h
    obtain ⟨-, ⟨same, -⟩, target, htarget, ⟨resolutionId, ids⟩, draw, h⟩ := h
    obtain ⟨state, rfl⟩ := target_of_ite htarget (actionTarget_hostKey (.inl rfl))
    cases h
    exact .step (.approveHostKey idle state shown same draw)

theorem beginSourceReplacement_plans (h : self.beginSourceReplacement gid instant = .ok planned) :
    self.PlansCommand gid instant planned (.beginSourceReplacement gid) := by
  simp only [beginSourceReplacement, bind_eq_ok, taskClone_eq_ok, rejectIf_eq_ok,
    rejectPending_eq_ok, Bool.or_eq_true, not_or, Bool.not_eq_true] at h
  obtain ⟨t, ht, -, idle, -, ⟨fresh, unpatched⟩, target, htarget, h⟩ := h
  refine ⟨t, ht, ?_⟩
  obtain ⟨state, rfl⟩ := target_of_ite htarget actionTarget_sourceRequested
  have unpatched : t.pendingOptionPatch = none := by simpa using unpatched
  split at h
  next slot =>
    rw [Draft.beginCancellation_of_none (by exact idle)] at h
    cases h
    exact .step (.sourceDraining idle fresh unpatched state
      (SlotOwnership.ownsSlot_eq_true.mp slot))
  next slot =>
    cases h
    exact .step (.sourceIdle idle fresh unpatched state
      (SlotOwnership.ownsSlot_eq_false.mp (Bool.eq_false_iff.mpr slot)))

theorem commitSourceReplacement_plans
    (h : self.commitSourceReplacement gid satisfies instant = .ok planned) :
    self.PlansCommand gid instant planned (.commitSourceReplacement gid satisfies) := by
  simp only [commitSourceReplacement, bind_eq_ok, taskClone_eq_ok, rejectIf_eq_ok,
    rejectPending_eq_ok, targetState_eq_ok, actionTarget_sourceCommitted] at h
  obtain ⟨t, ht, -, idle, -, -, -, quiesced, target, htarget, h⟩ := h
  refine ⟨t, ht, ?_⟩
  obtain ⟨pending, slot⟩ : t.pendingSourceReplacement = true ∧ t.slot = .none := by
    simpa using quiesced
  split at h
  next => cases h
  next queue queued =>
    simp only [bind_eq_ok] at h
    obtain ⟨-, -, h⟩ := h
    cases h
    exact .step (.sourceCommitted idle pending slot htarget rfl queued)

theorem optionPatchAction_ok (h : optionPatchAction t kind = .ok action) :
    (action = .inPlaceOptionPatchAccepted ∧
        (kind = .inPlace ∨ (kind = .activeRestart ∧ t.state.restartable = false))) ∨
      (action = .activeRestartOptionPatchAccepted ∧ kind = .activeRestart) ∨
      (action = .applyMatchingHostKeyOption ∧
        ∃ challenge fingerprint presented, kind = .matchingHostKey challenge fingerprint ∧
          t.hostKeyChallenge = some presented ∧ presented.summary.id = challenge) := by
  cases kind with
  | inPlace =>
    cases h
    exact .inl ⟨rfl, .inl rfl⟩
  | activeRestart =>
    cases hs : t.state <;> simp only [optionPatchAction, hs] at h <;> cases h <;>
      simp [TaskState.restartable]
  | matchingHostKey challenge fingerprint =>
    simp only [optionPatchAction] at h
    split at h
    next => cases h
    next presented shown =>
      obtain ⟨same, h⟩ := ite_error_eq_ok.mp h
      cases h
      exact .inr (.inr ⟨rfl, challenge, fingerprint, presented, rfl, shown,
        not_not.mp (not_or.mp same).1⟩)

theorem rejectUnboundCredentials_ok {u : Unit}
    (h : t.rejectUnboundCredentials kind satisfies = .ok u) :
    (∀ key, satisfies = some key → t.credentialKey = some key) ∧
      ∀ challenge fingerprint, kind = .matchingHostKey challenge fingerprint →
        satisfies = none := by
  unfold rejectUnboundCredentials at h
  split at h
  next => simp
  next expected =>
    obtain ⟨bound, h⟩ := ite_error_eq_ok.mp h
    split at h
    next => cases h
    next other =>
      refine ⟨fun key hkey => ?_, fun challenge fingerprint hkind => absurd hkind (other _ _)⟩
      cases hkey
      exact not_not.mp bound

theorem applyOptionPatch_plans {patchId : OptionPatchId}
    (h : self.applyOptionPatch gid patchId kind satisfies instant = .ok planned) :
    self.PlansCommand gid instant planned (.applyOptionPatch gid patchId kind satisfies) := by
  simp only [applyOptionPatch, bind_eq_ok, taskClone_eq_ok, rejectIf_eq_ok,
    rejectPending_eq_ok, Bool.not_eq_true] at h
  obtain ⟨t, ht, -, idle, -, source, -, -, _, bound, action, selected, target, htarget, h⟩ := h
  refine ⟨t, ht, ?_⟩
  obtain ⟨satisfied, keyless⟩ := rejectUnboundCredentials_ok bound
  obtain ⟨rfl, staged⟩ | ⟨rfl, rfl⟩ | ⟨rfl, challenge, fingerprint, presented, rfl, shown, same⟩ :=
    optionPatchAction_ok selected
  · obtain ⟨⟨live, validated⟩, rfl⟩ := target_of_ite htarget actionTarget_inPlaceAccepted
    obtain rfl | ⟨rfl, unstarted⟩ := staged
    · cases h
      exact .step (.patchInPlace idle source satisfied live validated (.inl rfl))
    · cases h
      exact .step (.patchInPlace idle source satisfied live validated (.inr ⟨rfl, unstarted⟩))
  · obtain ⟨state, rfl⟩ := target_of_ite htarget actionTarget_restartAccepted
    cases h
    exact .step (.patchRestart idle source satisfied state)
  · obtain ⟨state, rfl⟩ := target_of_ite htarget (actionTarget_hostKey (.inr (.inl rfl)))
    obtain rfl := keyless _ _ rfl
    simp only at h
    split at h
    next unshown => simp [shown] at unshown
    next presented' shown' =>
      obtain ⟨⟨resolutionId, ids⟩, draw, h⟩ := bind_eq_ok.mp h
      cases h
      cases shown.symm.trans shown'
      exact .step (.patchHostKey idle source state shown same draw)

/-! ## Removal -/

theorem remove_plans (h : self.remove gid force instant = .ok planned) :
    self.PlansCommand gid instant planned (.remove gid force) := by
  simp only [remove, bind_eq_ok, taskClone_eq_ok] at h
  obtain ⟨t, ht, h⟩ := h
  refine ⟨t, ht, ?_⟩
  split at h
  next deferring =>
    cases h
    exact .step (.removeDeferred deferring)
  next direct =>
    have direct : t.deferringBarrier = none := by simpa using direct
    split at h
    next =>
      cases h
      exact .noop
    next accepted =>
      obtain ⟨target, htarget, h⟩ := bind_eq_ok.mp h
      obtain ⟨live, rfl⟩ := target_of_ite htarget (actionTarget_remove accepted)
      split at h
      next drains =>
        obtain ⟨f, effects, cancels, h⟩ := Draft.beginCancellation_bind h
        cases h
        exact .step (.removeDraining direct live drains (cancels.congr rfl rfl rfl rfl))
      next drained =>
        split at h
        next => cases h
        next idle =>
          cases Draft.beginTerminal_bind h
          exact .step (.removeIdle idle live (by simpa using drained))

theorem rejectPendingDeletion_eq_ok {operation : String} {u : Unit} :
    self.rejectPendingDeletion operation = .ok u ↔ self.pendingStoppedDeletion = none := by
  unfold rejectPendingDeletion
  cases self.pendingStoppedDeletion <;> simp

theorem removeStoppedResult_plans (h : self.removeStoppedResult gid instant = .ok planned) :
    self.PlansCommand gid instant planned (.removeStoppedResult gid) := by
  simp only [removeStoppedResult, bind_eq_ok, taskClone_eq_ok,
    rejectPending_eq_ok, rejectPendingDeletion_eq_ok] at h
  obtain ⟨t, ht, -, idle, -, alone, target, htarget, ⟨deletionId, ids⟩, draw, h⟩ := h
  refine ⟨t, ht, ?_⟩
  obtain ⟨state, rfl⟩ := target_of_ite htarget SingleRow.removeStopped.target_eq
  split at h
  next => cases h
  next position found =>
    cases h
    exact .step (.removeStopped idle alone state draw found)

/-! ## Admission -/

theorem firstInQueue_spec {queueClass : QueueClass} {eligible : ScheduledTask → Bool}
    (h : self.firstInQueue queueClass eligible = some gid) :
    ∃ t, self.tasks[gid]? = some t ∧ eligible t = true := by
  simpa [firstInQueue, Option.any_eq_true] using List.find?_some h

theorem unblocked_idle (h : t.unblocked = true) : t.pendingBarrier = none := by
  simp only [unblocked, Bool.and_eq_true, Option.isNone_iff_eq_none] at h
  exact h.1.1

/-- No barrier is pending on the task the next admission is for, and its
timer has fired. -/
theorem admissionCandidate_due (h : self.admissionCandidate = .ok gid) :
    ∃ t, self.tasks[gid]? = some t ∧ t.pendingBarrier = none ∧ t.Due := by
  have choice {a b : Option Gid} (h : (a <|> b) = some gid) : a = some gid ∨ b = some gid := by
    cases a <;> simp_all
  have demoted (h : (self.firstInQueue .demoted
      fun task => task.isReadySlow && task.unblocked) = some gid) :
      ∃ t, self.tasks[gid]? = some t ∧ t.pendingBarrier = none ∧ t.Due := by
    obtain ⟨t, ht, eligible⟩ := firstInQueue_spec h
    simp only [isReadySlow, Bool.and_eq_true, decide_eq_true_eq] at eligible
    obtain ⟨⟨state, ready⟩, unblocked⟩ := eligible
    exact ⟨t, ht, unblocked_idle unblocked, by simp [state], fun _ => ready⟩
  simp only [admissionCandidate] at h
  split at h
  next gid' found =>
    cases h
    rcases choice found with found | found
    · obtain ⟨t, ht, eligible⟩ := firstInQueue_spec found
      simp only [awaitsRestartPatch, Bool.and_eq_true, decide_eq_true_eq,
        Option.isNone_iff_eq_none] at eligible
      obtain ⟨⟨⟨⟨state, idle⟩, -⟩, -⟩, -⟩ := eligible
      exact ⟨t, ht, idle, by simp [state], by simp [state]⟩
    rcases choice found with found | found
    · obtain ⟨t, ht, eligible⟩ := firstInQueue_spec found
      simp only [retainedRetry, Bool.and_eq_true, decide_eq_true_eq] at eligible
      obtain ⟨⟨⟨state, ready⟩, -⟩, unblocked⟩ := eligible
      exact ⟨t, ht, unblocked_idle unblocked, fun _ => ready, by simp [state]⟩
    rcases choice found with found | found
    · exact demoted (Option.filter_eq_some_iff.mp found).1
    rcases choice found with found | found
    · obtain ⟨t, ht, eligible⟩ := firstInQueue_spec found
      simp only [waitingAdmissible, isWaiting, Bool.and_eq_true,
        Bool.or_eq_true, decide_eq_true_eq] at eligible
      obtain ⟨⟨-, waits⟩, unblocked⟩ := eligible
      refine ⟨t, ht, unblocked_idle unblocked, fun state => ?_, fun state => ?_⟩ <;>
        simp_all
    · exact demoted found
  next => cases h

theorem admissionAction_ok {state : TaskState} (h : admissionAction state = .ok action) :
    AdmissionRow state action := by
  cases state <;> cases h <;> constructor

theorem planNextAdmission_step {ordinary : Bool}
    (h : self.planNextAdmission instant = .ok (planned, ordinary)) :
    ∃ gid t action draft publish, self.tasks[gid]? = some t ∧
      TaskStep self gid t .admission action draft publish self.ids ∧
      planned = draft.finish t action instant publish self.ids := by
  simp only [planNextAdmission, bind_eq_ok, taskClone_eq_ok] at h
  obtain ⟨gid, candidate, t, ht, h⟩ := h
  obtain ⟨t', ht', idle, due⟩ := admissionCandidate_due candidate
  obtain rfl : t' = t := Option.some.inj (ht'.symm.trans ht)
  split at h
  next restarting =>
    split at h
    next => cases h
    next patchId staged =>
      cases h
      exact ⟨gid, t', _, _, _, ht, .applyRestartPatch idle restarting.1 restarting.2 staged, rfl⟩
  next unstaged =>
    simp only [bind_eq_ok] at h
    obtain ⟨action, selected, d, admitted, h⟩ := h
    obtain ⟨entered, admits, -, rfl⟩ := planAdmission_ok admitted
    cases h
    exact ⟨gid, t', _, _, _, ht,
      .admitted rfl (admissionAction_ok selected) unstaged admits due, rfl⟩

end RequestScheduler

end Ariax
