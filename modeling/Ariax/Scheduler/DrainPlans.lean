import Ariax.Scheduler.EventPlans

/-!
# What the remaining event handlers plan

The handlers of drains, probes and terminal results taken apart, and the
dispatch of an event that passed the checks before its handler.
-/

namespace Ariax

open Except

namespace RequestScheduler

variable {self : RequestScheduler} {gid : Gid} {t : ScheduledTask}
  {instant : MonotonicInstant} {planned : Planned}

/-! ## Work that has to be drained -/

theorem noSpace_plans {condition : NoSpaceCondition}
    (h : self.noSpace t condition instant = .ok planned) :
    Plans self gid t (.event (.noSpace condition)) instant planned := by
  unfold noSpace at h
  split at h
  next => cases h
  next =>
    refine targeted_plans h SingleRow.noSpace.target_eq fun live h => ?_
    obtain ⟨f, effects, cancels, h⟩ := Draft.beginCancellation_bind h
    cases h
    exact .step (.noSpace live (cancels.congr rfl rfl rfl rfl))

theorem terminalFailure_plans {error : PublicError}
    (h : self.terminalFailure t error instant = .ok planned) :
    Plans self gid t (.event (.terminalFailure error)) instant planned := by
  refine targeted_plans h SingleRow.terminalFailure.target_eq fun live h => ?_
  obtain ⟨f, effects, cancels, h⟩ := Draft.beginCancellation_bind h
  cases h
  exact .step (.terminalFailure live (cancels.congr rfl rfl rfl rfl))

theorem slowDemoted_plans {decision : SlowReadmissionDecision}
    (h : self.slowDemoted t decision instant = .ok planned) :
    Plans self gid t (.event (.slowDemoted decision)) instant planned := by
  obtain ⟨valid, h⟩ := ite_error_eq_ok.mp h
  refine targeted_plans h actionTarget_slowDemote fun live h => ?_
  split at h
  next => cases h
  next position found =>
    split at h
    next => cases h
    next count succ =>
      obtain ⟨f, effects, cancels, h⟩ := Draft.beginCancellation_bind h
      cases h
      exact .step (.slowDemoted live (by simpa using valid) found succ
        (cancels.congr rfl rfl rfl rfl))

theorem slowPaused_plans (h : self.slowPaused t instant = .ok planned) :
    Plans self gid t (.event .slowPaused) instant planned := by
  refine targeted_plans h actionTarget_slowPause fun live h => ?_
  obtain ⟨f, effects, cancels, h⟩ := Draft.beginCancellation_bind h
  cases h
  exact .step (.slowPaused live (cancels.congr rfl rfl rfl rfl))

theorem cancellationDrained_plans
    (h : self.cancellationDrained t t.generation instant = .ok planned) :
    Plans self gid t (.event .cancellationDrained) instant planned := by
  unfold cancellationDrained at h
  split at h
  next expected target force barrier =>
    split at h
    next => exact ignored_plans h
    next same =>
      obtain rfl : expected = t.generation := not_not.mp same
      refine staleIfRejected_plans h fun accepts h => ?_
      obtain ⟨moving, h⟩ := ite_error_eq_ok.mp h
      obtain ⟨⟨settled, publish, ids⟩, settles, h⟩ := bind_eq_ok.mp h
      obtain ⟨⟨reprobed, ids'⟩, reprobes, h⟩ := bind_eq_ok.mp h
      have settles := drainDestination_ok settles fun quiesced => if_pos quiesced
      have reprobes := probeAfterDrain_ok reprobes
      by_cases quiesced : target = .pausedRestarting
      · subst quiesced
        have state : t.state = .pausedRestarting := by
          revert accepts
          cases t.state <;> decide
        cases h
        exact .step (.restartQuiesced barrier state settles reprobes)
      · have state : t.state = target.state := by simpa [quiesced] using moving
        simp only [quiesced, if_false] at h
        cases h
        exact .step (.drained barrier state quiesced settles reprobes)
  next => exact ignored_plans h

/-! ## Probes and terminal results -/

theorem noSpaceProbeCompleted_plans {probeId : NoSpaceProbeId} {origin : NoSpaceProbeOrigin}
    {ready : Bool} {nextRetryAt : Option MonotonicInstant}
    (h : self.noSpaceProbeCompleted t probeId origin ready nextRetryAt instant = .ok planned) :
    Plans self gid t (.event (.noSpaceProbeCompleted probeId origin ready nextRetryAt)) instant
      planned := by
  unfold noSpaceProbeCompleted at h
  simp only at h
  split at h
  next => exact ignored_plans h
  next fresh =>
    obtain ⟨fresh, same⟩ := not_or.mp fresh
    have probe : t.noSpaceProbe = some (probeId, origin) := by
      have hid := tokenDisposition_eq_fresh.mp (not_not.mp fresh)
      have horigin := not_not.mp same
      obtain ⟨⟨id, origin'⟩, hp, rfl⟩ := Option.map_eq_some_iff.mp hid
      rw [hp] at horigin ⊢
      simpa using horigin
    split at h
    next => cases h
    next action selected =>
      refine staleIfRejected_plans h fun _ h => ?_
      obtain ⟨conditions, remaining, h⟩ := bind_eq_ok.mp h
      obtain ⟨state, htarget, h⟩ := bind_eq_ok.mp h
      rw [ScheduledTask.targetState_eq_ok, actionTarget_probe selected] at htarget
      cases htarget
      split at h
      next probeAt =>
        obtain ⟨⟨d, ids⟩, probes, h⟩ := bind_eq_ok.mp h
        cases h
        exact .step (.probed probe selected remaining
          (.again (Draft.scheduleNoSpaceProbe_ok probes)))
      next ended =>
        cases h
        refine .step (.probed probe selected remaining (.done ?_))
        cases ready with
        | true => exact .inl rfl
        | false =>
          cases nextRetryAt with
          | none => exact .inr rfl
          | some probeAt => exact absurd rfl (ended probeAt rfl)

theorem terminalPersisted_plans {status : Aria2Status}
    (h : self.terminalPersisted t t.generation status instant = .ok planned) :
    Plans self gid t (.event (.terminalPersisted status)) instant planned := by
  unfold terminalPersisted at h
  split at h
  next =>
    split at h
    next => exact ignored_plans h
    next => cases h
  next barrier =>
    refine targeted_plans h actionTarget_terminalPersisted fun ended h => ?_
    cases h
    exact .step (.terminalPersisted (not_not.mp barrier) ended)

variable {deletionId : StoppedResultDeletionId} {event : TaskEvent}

theorem expectedDeletion_eq_some : expectedDeletion t = some deletionId ↔
      t.pendingBarrier = some (.stoppedResultDeletion t.generation deletionId) := by
  unfold expectedDeletion
  split <;> simp_all

theorem stoppedResult_of_accepts {action : SchedulerAction}
    (row : action = .stoppedResultDeletionSucceeded ∨ action = .stoppedResultDeletionFailed)
    (h : (transitionContract t.state action).accepts = true) : t.state = .stoppedResult := by
  revert h
  rcases row with rfl | rfl <;> cases t.state <;> decide

theorem stoppedResultDeleted_plans
    (h : self.stoppedResultDeletionCompleted t deletionId true instant = .ok planned) :
    Plans self gid t (.event (.stoppedResultDeleted deletionId)) instant planned := by
  refine fresh_plans h fun expected h => ?_
  have barrier := expectedDeletion_eq_some.mp expected
  refine staleIfRejected_plans h fun accepts h => ?_
  cases h
  exact .delete rfl barrier (stoppedResult_of_accepts (.inl rfl) accepts)

theorem stoppedResultDeletionFailed_plans
    (h : self.stoppedResultDeletionCompleted t deletionId false instant = .ok planned) :
    Plans self gid t (.event (.stoppedResultDeletionFailed deletionId)) instant planned := by
  refine fresh_plans h fun expected h => ?_
  have barrier := expectedDeletion_eq_some.mp expected
  refine staleIfRejected_plans h fun accepts h => ?_
  cases h
  exact .step (.deletionFailed barrier (stoppedResult_of_accepts (.inr rfl) accepts))

/-! ## Dispatch -/

/-- An event its task owns, of its current generation, not seen before and
let through by its barrier. -/
structure EventFresh (t : ScheduledTask) (envelope : TaskEventEnvelope) : Prop where
  owner : t.taskId = envelope.taskId
  generation : envelope.event.generation = t.generation
  unseen : isDuplicate t envelope.event = false
  unbarred : ∀ barrier, t.pendingBarrier = some barrier →
    barrier.acceptsEvent envelope.event.kind = true

theorem dispatchEvent_plans (fresh : event.generation = t.generation)
    (h : self.dispatchEvent t event instant = .ok planned) :
    Plans self gid t (.event event.body) instant planned := by
  obtain ⟨_, generation, body⟩ := event
  obtain rfl : generation = t.generation := fresh
  cases body with
  | generationPersisted => exact generationPersisted_plans h
  | optionPatchPersisted => exact optionPatchPersistenceCompleted_plans .persisted h
  | optionPatchPersistenceFailed => exact optionPatchPersistenceCompleted_plans .failed h
  | optionPatchApplied => exact optionPatchApplicationCompleted_plans .applied h
  | optionPatchApplicationFailed _ error =>
    exact optionPatchApplicationCompleted_plans (.failed error) h
  | allocationSucceeded => exact advanceWork_plans .allocationSucceeded h
  | allocationRetryable retryAt => exact enterRetryWait_plans (.allocationRetryable retryAt) h
  | activeHostKeyChallenge challenge => exact hostKeyChallenge_plans (.active challenge) rfl h
  | allocationHostKeyChallenge challenge =>
    exact hostKeyChallenge_plans (.allocation challenge) rfl h
  | allocationFailed error => exact endWork_plans (.allocationFailed error) h
  | retryReady => exact retryReady_plans h
  | activeRetryIdle retryAt => exact enterRetryWait_plans (.activeRetryIdle retryAt) h
  | activeRepresentationRestart => exact activeRepresentationRestart_plans h
  | dataComplete => exact dataComplete_plans h
  | noSpace => exact noSpace_plans h
  | terminalFailure => exact terminalFailure_plans h
  | slowDemoted => exact slowDemoted_plans h
  | slowPaused => exact slowPaused_plans h
  | readmitSlow => exact readmitSlow_plans h
  | verificationSucceeded => exact endWork_plans .verificationSucceeded h
  | verificationRecoverable => exact verificationRecoverable_plans h
  | verificationFailed error => exact endWork_plans (.verificationFailed error) h
  | seedingComplete => exact endWork_plans .seedingComplete h
  | seedingFailed error => exact endWork_plans (.seedingFailed error) h
  | cancellationDrained => exact cancellationDrained_plans h
  | noSpaceProbeCompleted =>
    exact noSpaceProbeCompleted_plans h
  | terminalPersisted => exact terminalPersisted_plans h
  | hostKeyResolutionPersisted =>
    exact hostKeyResolutionCompleted_plans .persisted h
  | hostKeyResolutionFailed => exact hostKeyResolutionCompleted_plans .failed h
  | stoppedResultDeleted => exact stoppedResultDeleted_plans h
  | stoppedResultDeletionFailed => exact stoppedResultDeletionFailed_plans h

theorem generationDisposition_ok {expected actual : Generation} {disposition : EventDisposition}
    (h : generationDisposition expected actual = .ok disposition) :
    disposition = .stale ∨ (disposition = .fresh ∧ actual = expected) := by
  unfold generationDisposition at h
  split at h
  next =>
    cases h
    exact .inl rfl
  next below =>
    obtain ⟨above, h⟩ := ite_error_eq_ok.mp h
    cases h
    exact .inr ⟨rfl, le_antisymm (not_lt.mp above) (not_lt.mp below)⟩

theorem rejectBarred_eq_ok {u : Unit} : rejectBarred t event = .ok u ↔
      ∀ barrier, t.pendingBarrier = some barrier → barrier.acceptsEvent event.kind = true := by
  unfold rejectBarred
  cases t.pendingBarrier <;> simp

/-- A handled event is ignored, or it is fresh and its handler plans for its task. -/
theorem planEvent_plans {envelope : TaskEventEnvelope}
    (h : self.planEvent envelope instant = .ok planned) :
    ∃ t, self.tasks[envelope.event.gid]? = some t ∧
      ((∃ disposition outcome, t.ignoredForDisposition disposition instant = .ok outcome ∧
          planned = .reply outcome) ∨
        (EventFresh t envelope ∧
          Plans self envelope.event.gid t (.event envelope.event.body) instant planned)) := by
  simp only [planEvent, bind_eq_ok, taskClone_eq_ok] at h
  obtain ⟨t, ht, h⟩ := h
  refine ⟨t, ht, ?_⟩
  have ignores {disposition : EventDisposition}
      (h : t.ignored disposition instant = .ok planned) :
      ∃ disposition outcome, t.ignoredForDisposition disposition instant = .ok outcome ∧
        planned = .reply outcome := by
    obtain ⟨outcome, ignored, rfl⟩ := map_eq_ok.mp h
    exact ⟨disposition, outcome, ignored, rfl⟩
  split at h
  next => exact .inl (ignores h)
  next owner =>
    obtain ⟨disposition, hgeneration, h⟩ := bind_eq_ok.mp h
    obtain rfl | ⟨rfl, generation⟩ := generationDisposition_ok hgeneration
    · exact .inl (ignores h)
    · simp only [ne_eq, not_true_eq_false, if_false] at h
      split at h
      next => exact .inl (ignores h)
      next unseen =>
        simp only [bind_eq_ok, rejectBarred_eq_ok] at h
        obtain ⟨-, unbarred, -, -, h⟩ := h
        exact .inr ⟨⟨not_not.mp owner, generation, by simpa using unseen, unbarred⟩,
          dispatchEvent_plans generation h⟩

end RequestScheduler

end Ariax
