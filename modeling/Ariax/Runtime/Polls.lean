import Ariax.Runtime.Driver

/-!
# What one poll can do

A poll takes one of a fixed list of steps: it waits for the sink, hands an
effect to it, takes a completion from it, stages a snapshot, moves on to the
next outcome, publishes the draft, or faults. Everything about runs of a
driver is proved from this list.
-/

namespace Ariax

open SchedulerEffectSink

/-- The effects that are handed to the sink; a snapshot is staged by the driver itself. -/
def TransitionEffect.isDispatched : TransitionEffect → Bool
  | publishSnapshot .. => false
  | _ => true

namespace SchedulerDriver

variable {σ : Type} {self : SchedulerDriver σ} {instant : MonotonicInstant}

/-- The driver has dispatched every effect of its outcome, or has none. -/
structure Exhausted (driver : SchedulerDriver σ) : Prop where
  running : driver.fault = none
  landed : driver.inFlight = none
  unoffered : driver.offered = none
  spent : ∀ pending, driver.pending = some pending →
    pending.outcome.effects[pending.nextEffect]? = none

def Owes (self : SchedulerDriver σ) (effect : TransitionEffect) : Prop :=
  ∃ pending, self.pending = some pending ∧
    pending.outcome.effects[pending.nextEffect]? = some effect

/-- The effect that a poll without an effect in flight hands to the sink. -/
def Offers (self : SchedulerDriver σ) (offered : DispatchedEffect) : Prop :=
  self.offered = some offered ∨
    self.offered = none ∧ self.Owes offered.effect ∧ offered.effect.isDispatched = true

inductive Polls [SchedulerEffectSink σ] (self : SchedulerDriver σ) (instant : MonotonicInstant) :
    SchedulerDriver σ → Prop
  | halted {fault : SchedulerDriverFault} (halted : self.fault = some fault) :
      Polls self instant self
  | waited {expected : DispatchedEffect} {sink : σ} (running : self.fault = none)
      (flight : self.inFlight = some expected)
      (polled : pollCompletion self.sink = (.pending, sink)) :
      Polls self instant { self with sink }
  | completed {expected : DispatchedEffect} {sink : σ}
      {acknowledgement : Option TaskEventEnvelope} {draft : StatusSnapshotDraft}
      (running : self.fault = none) (flight : self.inFlight = some expected)
      (polled : pollCompletion self.sink =
        (.ready (.completed expected.dispatchId acknowledgement), sink)) :
      Polls self instant { self with
        sink
        inFlight := none
        draft := some draft
        acknowledgements := self.acknowledgements ++ acknowledgement.toList }.advanceEffectCursor
  | uncompleted {expected : DispatchedEffect} {sink : σ} {completion : EffectCompletion}
      {fault : SchedulerDriverFault} {inFlight : Option DispatchedEffect}
      (running : self.fault = none) (flight : self.inFlight = some expected)
      (polled : pollCompletion self.sink = (.ready completion, sink))
      (left : inFlight = none ∨ inFlight = self.inFlight) :
      Polls self instant { self with sink, inFlight, fault := some fault }
  | held {offered : DispatchedEffect} {sink : σ} (running : self.fault = none)
      (landed : self.inFlight = none) (offers : self.Offers offered)
      (polled : pollDispatch offered self.sink = (.pending, sink)) :
      Polls self instant { self with sink, offered := some offered }
  | taken {offered : DispatchedEffect} {sink : σ} (running : self.fault = none)
      (landed : self.inFlight = none) (offers : self.Offers offered)
      (polled : pollDispatch offered self.sink = (.ready (.ok ()), sink)) :
      Polls self instant { self with sink, offered := none, inFlight := some offered }
  | refused {offered : DispatchedEffect} {sink : σ} {error : EffectSinkError}
      {fault : SchedulerDriverFault} (running : self.fault = none)
      (landed : self.inFlight = none) (offers : self.Offers offered)
      (polled : pollDispatch offered self.sink = (.ready (.error error), sink)) :
      Polls self instant { self with sink, offered := some offered, fault := some fault }
  | staged {taskId : TaskId} {snapshot : TaskSnapshot} {draft : StatusSnapshotDraft}
      (running : self.fault = none) (landed : self.inFlight = none)
      (unoffered : self.offered = none) (owes : self.Owes (.publishSnapshot taskId snapshot)) :
      Polls self instant { self with draft := some draft }.advanceEffectCursor
  | stuck {fault : SchedulerDriverFault} (running : self.fault = none)
      (landed : self.inFlight = none) (unoffered : self.offered = none) :
      Polls self instant { self with fault := some fault }
  | finished {pending : PendingOutcome} {draft : Option StatusSnapshotDraft}
      (exhausted : self.Exhausted) (last : self.pending = some pending)
      (answered : self.acknowledgements = [])
      (restored : ∀ plan, self.restorePlan = some plan → plan.effects = []) :
      Polls self instant { self with pending := none, draft, restorePlan := none }
  | restored {pending : PendingOutcome} {draft : Option StatusSnapshotDraft}
      {plan : SchedulerRestorePlan} (exhausted : self.Exhausted)
      (last : self.pending = some pending) (answered : self.acknowledgements = [])
      (planned : self.restorePlan = some plan) (remaining : plan.nextBatch.1 ≠ []) :
      Polls self instant { self with
        pending := some ⟨⟨none, none, plan.nextBatch.1⟩, 0⟩
        draft
        restorePlan := some plan.nextBatch.2 }
  | acknowledged {acknowledgement : TaskEventEnvelope} {acknowledgements : List TaskEventEnvelope}
      {outcome : SchedulerOutcome} {scheduler : RequestScheduler}
      {draft : Option StatusSnapshotDraft} (exhausted : self.Exhausted)
      (oldest : self.acknowledgements = acknowledgement :: acknowledgements)
      (handled : self.scheduler.handleEventAt acknowledgement instant = (.ok outcome, scheduler)) :
      Polls self instant { self with
        scheduler, acknowledgements, draft, pending := some ⟨outcome, 0⟩ }
  | broken {acknowledgements : List TaskEventEnvelope} {draft : Option StatusSnapshotDraft}
      {restorePlan : Option SchedulerRestorePlan} {fault : SchedulerDriverFault}
      (exhausted : self.Exhausted) :
      Polls self instant { self with
        pending := none, acknowledgements, draft, restorePlan, fault := some fault }
  | published {draft : StatusSnapshotDraft} {publication : StatusPublication}
      {snapshots : StatusSnapshotStore} (exhausted : self.Exhausted) (done : self.pending = none)
      (answered : self.acknowledgements = []) (drafted : self.draft = some draft)
      (publishes : self.snapshots.publish draft = .ok (publication, snapshots)) :
      Polls self instant { self with draft := none, snapshots }
  | unpublished {fault : SchedulerDriverFault} (exhausted : self.Exhausted)
      (done : self.pending = none) :
      Polls self instant { self with draft := none, fault := some fault }
  | idle (exhausted : self.Exhausted) (done : self.pending = none)
      (answered : self.acknowledgements = []) (drafted : self.draft = none) :
      Polls self instant self

end SchedulerDriver

theorem RequestScheduler.perform_of_error {self scheduler : RequestScheduler}
    {plan : Except SchedulerError Planned} {error : SchedulerError}
    (h : self.perform plan = (.error error, scheduler)) : scheduler = self := by
  unfold perform finishAction at h
  split at h
  · cases h
    rfl
  · cases h
  · split at h <;> cases h
    rfl

namespace SchedulerDriver

variable {σ : Type} {self : SchedulerDriver σ} {instant : MonotonicInstant}

section Outcome

variable [SchedulerEffectSink σ] {pending : PendingOutcome} {draft : Option StatusSnapshotDraft}
  (exhausted : self.Exhausted) (last : self.pending = some pending)
include exhausted last

theorem afterOutcome_polls :
    Polls self instant ({ self with pending := none, draft }.afterOutcome instant).2 := by
  unfold afterOutcome
  split
  · next acknowledgement acknowledgements oldest =>
    unfold applyAcknowledgement
    split
    · next outcome scheduler handled => exact .acknowledged exhausted oldest handled
    · next error scheduler handled =>
      obtain rfl := RequestScheduler.perform_of_error handled
      exact .broken exhausted
  · next answered =>
    unfold continueRestore
    split
    · next planned =>
      have planned : self.restorePlan = none := planned
      have finished :
          Polls self instant { self with pending := none, draft, restorePlan := none } :=
        .finished exhausted last answered (by simp [planned])
      rwa [← planned] at finished
    · next plan planned =>
      split
      · next empty =>
        refine .finished exhausted last answered fun plan' planned' => ?_
        obtain rfl := Option.some.inj (planned.symm.trans planned')
        simpa [SchedulerRestorePlan.nextBatch, maxSchedulerEffects] using empty
      · next remaining =>
        split
        · next outcome checked =>
          obtain rfl := SchedulerOutcome.eq_of_checked checked
          exact .restored exhausted last answered planned (by simpa using remaining)
        · exact .broken exhausted

theorem finishPendingOutcome_polls :
    Polls self instant (self.finishPendingOutcome pending instant).2 := by
  unfold finishPendingOutcome
  split
  · exact afterOutcome_polls exhausted last
  · dsimp only
    split
    · exact .broken exhausted
    · exact afterOutcome_polls exhausted last

end Outcome

variable [SchedulerEffectSink σ]

section

variable (running : self.fault = none)
include running

theorem pollOffered_polls {offered : DispatchedEffect} (landed : self.inFlight = none)
    (offers : self.Offers offered) :
    Polls self instant ({ self with offered := some offered }.pollOffered offered).2 := by
  unfold pollOffered
  split
  · next sink polled => exact .held running landed offers polled
  · next sink polled => exact .taken running landed offers polled
  · next sink polled => exact .refused running landed offers polled
  · next sink polled => exact .refused running landed offers polled

theorem pollInFlight_polls {expected : DispatchedEffect} (flight : self.inFlight = some expected) :
    Polls self instant (self.pollInFlight expected).2 := by
  unfold pollInFlight
  split
  · next sink polled => exact .waited running flight polled
  · next completion sink polled =>
    split
    · exact .uncompleted running flight polled (.inr rfl)
    · next same =>
      split
      · exact .uncompleted running flight polled (.inl rfl)
      · next dispatchId acknowledgement =>
        dsimp only
        split
        · exact .uncompleted running flight polled (.inl rfl)
        · next draft staged =>
          obtain rfl : dispatchId = expected.dispatchId := not_not.mp same
          exact .completed running flight polled

theorem pollEffect_polls {effect : TransitionEffect} {counter : DispatchCounter}
    (landed : self.inFlight = none) (unoffered : self.offered = none) (owes : self.Owes effect) :
    Polls self instant (self.pollEffect effect counter).2.1 := by
  unfold pollEffect
  split
  · exact .stuck running landed unoffered
  · split
    · split
      · exact .stuck running landed unoffered
      · exact .staged running landed unoffered owes
    · next unpublished =>
      split
      · exact .stuck running landed unoffered
      · refine pollOffered_polls running landed (.inr ⟨unoffered, owes, ?_⟩)
        cases effect <;> first | rfl | exact absurd rfl (unpublished _ _)

end

theorem pollDraft_polls (exhausted : self.Exhausted) (done : self.pending = none)
    (answered : self.acknowledgements = []) : Polls self instant self.pollDraft.2 := by
  unfold pollDraft
  split
  · next drafted => exact .idle exhausted done answered drafted
  · next draft drafted =>
    split
    · next publication snapshots publishes =>
      exact .published exhausted done answered drafted publishes
    · exact .unpublished exhausted done

theorem pollAt_polls (counter : DispatchCounter) :
    Polls self instant (self.pollAt instant counter).2.1 := by
  unfold pollAt
  split
  · next halted => exact .halted halted
  · next running flight => exact pollInFlight_polls running flight
  · next running landed unoffered =>
    have polled : Polls self instant _ := pollOffered_polls running landed (.inl unoffered)
    rwa [← unoffered] at polled
  · next pending running landed unoffered last =>
    unfold pollPending
    split
    · next spent =>
      refine finishPendingOutcome_polls ⟨running, landed, unoffered, fun pending' last' => ?_⟩ last
      obtain rfl := Option.some.inj (last.symm.trans last')
      exact spent
    · next effect owed => exact pollEffect_polls running landed unoffered ⟨pending, last, owed⟩
  · next acknowledgement acknowledgements running landed unoffered done oldest =>
    have exhausted : self.Exhausted := ⟨running, landed, unoffered, by simp [done]⟩
    unfold applyAcknowledgement
    split
    · next outcome scheduler handled => exact .acknowledged exhausted oldest handled
    · next error scheduler handled =>
      obtain rfl := RequestScheduler.perform_of_error handled
      have broken : Polls self instant { self with
        pending := none, acknowledgements, fault := some (.scheduler error) } := .broken exhausted
      rwa [← done] at broken
  · next running landed unoffered done answered =>
    exact pollDraft_polls ⟨running, landed, unoffered, by simp [done]⟩ done answered

end SchedulerDriver

end Ariax
