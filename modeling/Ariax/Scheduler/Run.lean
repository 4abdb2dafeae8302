import Ariax.Lib.Machine
import Ariax.Scheduler.CommandPlans
import Ariax.Scheduler.Committed
import Ariax.Scheduler.DrainPlans
import Ariax.Scheduler.Restore

/-!
# The scheduler as a machine

The inputs of a scheduler are its four public operations. An operation
either leaves the scheduler as it was, with an error or with a reply that
reports no change, or it makes one of five changes: a step of one task, the
addition or deletion of a task, a reordering of a queue, or a new policy.
-/

namespace Ariax

open RequestScheduler

inductive SchedulerInput where
  | command (command : SchedulerCommand) (instant : MonotonicInstant)
  | admitNext (instant : MonotonicInstant)
  | event (envelope : TaskEventEnvelope) (instant : MonotonicInstant)
  | configureQueuePolicies (retryWaitHoldsSlot : Bool)
      (slowReadmissionPolicy : SlowReadmissionPolicy)

namespace RequestScheduler

/-- Performs one call. A policy change reports nothing. -/
def apply (self : RequestScheduler) : SchedulerInput → SchedulerResult
  | .command command instant => self.executeCommandAt command instant
  | .admitNext instant => self.admitNextAt instant
  | .event envelope instant => self.handleEventAt envelope instant
  | .configureQueuePolicies retryWaitHoldsSlot slowReadmissionPolicy =>
    (.ok .noop, self.configureQueuePolicies retryWaitHoldsSlot slowReadmissionPolicy)

/-- A scheduler that was just constructed, empty or from a recovered batch. -/
inductive Starts : RequestScheduler → Prop
  | new (config : SchedulerConfig) : Starts (new config)
  | restore {config : SchedulerConfig} {batch : SchedulerRestoreBatch} {self : RequestScheduler}
      {plan : SchedulerRestorePlan} (restored : restore config batch = .ok (self, plan)) :
      Starts self

end RequestScheduler

def schedulerMachine :
    Machine RequestScheduler SchedulerInput (Except SchedulerError SchedulerOutcome) where
  initial := {self | self.Starts}
  next := apply

abbrev SchedulerStep :=
  Step RequestScheduler SchedulerInput (Except SchedulerError SchedulerOutcome)

/-! ## Scripts

A scheduler for one task, and the inputs about that task. -/

namespace Script

def config (retryWaitHoldsSlot : Bool) : SchedulerConfig :=
  ⟨10, 5, retryWaitHoldsSlot, .originalPosition⟩

def gid : Gid := ⟨1, by decide⟩

def taskId : TaskId := ⟨1, by decide⟩

def retryTimerId : RetryTimerId := ⟨1, by decide⟩

def patchId : OptionPatchId := ⟨1, by decide⟩

def nextPatchId : OptionPatchId := ⟨2, by decide⟩

def instant : MonotonicInstant := ⟨0⟩

def execute (command : SchedulerCommand) : SchedulerInput := .command command instant

def add : SchedulerInput := execute (.addValidatedTask taskId gid false ⟨none, none⟩)

def admitNext : SchedulerInput := .admitNext instant

def report (body : TaskEventBody) : SchedulerInput := .event ⟨taskId, gid, .initial, body⟩ instant

/-- The task is added, and its first worker is admitted and active. -/
def activate : List SchedulerInput :=
  [add, admitNext, report .generationPersisted, report .allocationSucceeded]

end Script

/-! ## What one call can do -/

/-- A reply that reports no change: the empty outcome, or an ignored event. -/
inductive SchedulerOutcome.Quiet : SchedulerOutcome → Prop
  | noop : Quiet .noop
  | ignored {transition : StateTransition}
      (reason : transition.reason = .duplicateEventIgnored ∨
        transition.reason = .staleEventIgnored) :
      Quiet ⟨some transition, none, []⟩

inductive SchedulerInput.Reaches (gid : Gid) (t : ScheduledTask) :
    SchedulerInput → StepCause → MonotonicInstant → Prop
  | command (command : SchedulerCommand) (instant : MonotonicInstant) :
      Reaches gid t (.command command instant) (.command command) instant
  | admission (instant : MonotonicInstant) : Reaches gid t (.admitNext instant) .admission instant
  | event {envelope : TaskEventEnvelope} (instant : MonotonicInstant)
      (addressed : envelope.event.gid = gid) (fresh : RequestScheduler.EventFresh t envelope) :
      Reaches gid t (.event envelope instant) (.event envelope.event.body) instant

inductive SchedulerCommand.Adds : SchedulerCommand → TaskId → Gid → Bool → TaskConditions →
    Option ℕ → Prop
  | append (taskId : TaskId) (gid : Gid) (desiredPaused : Bool) (conditions : TaskConditions) :
      Adds (.addValidatedTask taskId gid desiredPaused conditions) taskId gid desiredPaused
        conditions none
  | insert (taskId : TaskId) (gid : Gid) (desiredPaused : Bool) (conditions : TaskConditions)
      (position : ℕ) :
      Adds (.addValidatedTaskAt taskId gid desiredPaused conditions position) taskId gid
        desiredPaused conditions (some position)

/-- The scheduler after an admission that may have passed over ready slow tasks. -/
def RequestScheduler.passing (self : RequestScheduler) (ordinary : Bool) : RequestScheduler :=
  if ordinary then self.advanceSlowPositions else self

inductive Change (self : RequestScheduler) :
    SchedulerInput → SchedulerOutcome → RequestScheduler → Prop
  | step {input : SchedulerInput} {cause : StepCause} {instant : MonotonicInstant} {gid : Gid}
      {t : ScheduledTask} {action : SchedulerAction} {draft : Draft} {publish : Bool}
      {ids : IdCounters} {plan : CommitPlan} {ordinary : Bool}
      (stored : self.tasks[gid]? = some t) (reaches : input.Reaches gid t cause instant)
      (step : TaskStep self gid t cause action draft publish ids)
      (commits : draft.Commits self t action instant publish ids plan) :
      Change self input plan.outcome
        ((self.commit (draft.call t action instant publish ids) plan).passing ordinary)
  | add {command : SchedulerCommand} {instant : MonotonicInstant} {taskId : TaskId} {gid : Gid}
      {desiredPaused : Bool} {conditions : TaskConditions} {position : Option ℕ}
      {plan : CommitPlan} (adds : command.Adds taskId gid desiredPaused conditions position)
      (fresh : FreshTask self taskId gid)
      (commits : CommitsAddition self taskId gid desiredPaused conditions position plan) :
      Change self (.command command instant) plan.outcome
        { self.commit (additionCall self taskId gid desiredPaused conditions position instant)
          plan with highestTaskId := some taskId }
  | delete {envelope : TaskEventEnvelope} {instant : MonotonicInstant} {t : ScheduledTask}
      {deletionId : StoppedResultDeletionId} {plan : CommitPlan}
      (stored : self.tasks[envelope.event.gid]? = some t)
      (fresh : RequestScheduler.EventFresh t envelope)
      (body : envelope.event.body = .stoppedResultDeleted deletionId)
      (barrier : t.pendingBarrier = some (.stoppedResultDeletion t.generation deletionId))
      (state : t.state = .stoppedResult) (commits : t.CommitsDeletion self plan) :
      Change self (.event envelope instant) plan.outcome
        (self.commit (t.deletionCall .stoppedResultDeletionSucceeded instant self.ids) plan)
  | reorder {gid : Gid} {instant : MonotonicInstant} {t : ScheduledTask} {queue : QueueClass}
      {old position : ℕ} {order : List Gid} (stored : self.tasks[gid]? = some t)
      (idle : t.pendingBarrier = none) (queued : t.queueClass = some queue)
      (free : queue = .stopped → self.pendingStoppedDeletion = none)
      (found : (self.queues.get queue).idxOf? gid = some old)
      (inside : position < (self.queues.get queue).length)
      (moved : order = ((self.queues.get queue).eraseIdx old).insertIdx position gid) :
      Change self (.command (.changePosition gid position) instant)
        ⟨none, none, [.persistQueueTransition t.taskId gid (some queue) (some queue)
          t.desiredPaused t.slowDemotionCount t.slowSlot [⟨queue, order⟩]]⟩
        { self with queues := self.queues.set queue order }
  | policies (retryWaitHoldsSlot : Bool) (slowReadmissionPolicy : SlowReadmissionPolicy) :
      Change self (.configureQueuePolicies retryWaitHoldsSlot slowReadmissionPolicy) .noop
        (self.configureQueuePolicies retryWaitHoldsSlot slowReadmissionPolicy)

inductive Ends (self : RequestScheduler) (input : SchedulerInput) : SchedulerResult → Prop
  | error (error : SchedulerError) : Ends self input (.error error, self)
  | quiet {outcome : SchedulerOutcome} (quiet : outcome.Quiet) :
      Ends self input (.ok outcome, self)
  | change {outcome : SchedulerOutcome} {after : RequestScheduler}
      (change : Change self input outcome after) : Ends self input (.ok outcome, after)

variable {self : RequestScheduler} {gid : Gid} {t : ScheduledTask} {cause : StepCause}
  {instant : MonotonicInstant} {input : SchedulerInput} {planned : Planned}

theorem ScheduledTask.ignoredForDisposition_quiet {disposition : EventDisposition}
    {outcome : SchedulerOutcome} (h : t.ignoredForDisposition disposition instant = .ok outcome) :
    outcome.Quiet := by
  have ignored {action : SchedulerAction}
      (reason : (transitionContract t.state action).reason = .duplicateEventIgnored ∨
        (transitionContract t.state action).reason = .staleEventIgnored)
      (h : t.ignoredOutcome action instant = .ok outcome) : outcome.Quiet := by
    simp only [ignoredOutcome, Except.ite_error_eq_ok] at h
    obtain rfl := SchedulerOutcome.eq_of_checked h.2
    exact .ignored reason
  cases disposition with
  | fresh => cases h
  | duplicate =>
    have row : (transitionContract t.state .duplicateEventIgnored).reason =
        .duplicateEventIgnored := by cases t.state <;> rfl
    exact ignored (.inl row) h
  | stale =>
    have row : (transitionContract t.state .staleEventIgnored).reason =
        .staleEventIgnored := by cases t.state <;> rfl
    exact ignored (.inr row) h

section

variable (stored : self.tasks[gid]? = some t) (reaches : input.Reaches gid t cause instant)
include stored reaches

/-- The commit of a planned step, with the slow tasks it may have passed over. -/
theorem TaskStep.ends {action : SchedulerAction} {draft : Draft} {publish : Bool} {ids : IdCounters}
    (step : TaskStep self gid t cause action draft publish ids) (ordinary : Bool) :
    Ends self input
      (match self.perform (.ok (draft.finish t action instant publish ids)) with
      | (.ok outcome, self) => (.ok outcome, self.passing ordinary)
      | result => result) := by
  simp only [perform, finishAction, Draft.finish]
  cases hcommit : self.commitPlan (draft.call t action instant publish ids) with
  | error error => exact .error error
  | ok => exact .change (.step stored reaches step (Draft.commits_of_commitPlan hcommit))

/-- The tail call of a handler that plans for a task ends in a step, a
deletion or a quiet reply. -/
theorem Plans.ends (plans : Plans self gid t cause instant planned) :
    Ends self input (self.perform (.ok planned)) := by
  cases plans with
  | noop => exact .quiet .noop
  | ignored ignored => exact .quiet (ScheduledTask.ignoredForDisposition_quiet ignored)
  | @step action draft publish ids step =>
    have ends := step.ends stored reaches false
    revert ends
    rcases self.perform (.ok (draft.finish t action instant publish ids)) with ⟨_ | _, _⟩ <;>
      exact id
  | @delete deletionId deleted barrier state =>
    subst deleted
    simp only [perform, finishAction]
    cases hcommit : self.commitPlan (t.deletionCall .stoppedResultDeletionSucceeded instant
      self.ids) with
    | error error => exact .error error
    | ok =>
      generalize hcause : StepCause.event (.stoppedResultDeleted deletionId) = cause at reaches
      cases reaches with
      | command | admission => cases hcause
      | @event envelope _ addressed fresh =>
        subst addressed
        exact .change (.delete stored fresh (StepCause.event.inj hcause).symm barrier state
          (ScheduledTask.commitsDeletion_of_commitPlan hcommit))

end

variable {command : SchedulerCommand}

theorem RequestScheduler.perform_command_ends {plan : Except SchedulerError Planned}
    (plans : ∀ {planned}, plan = .ok planned → self.PlansCommand gid instant planned command) :
    Ends self (.command command instant) (self.perform plan) := by
  cases hplan : plan with
  | error error => exact .error error
  | ok =>
    obtain ⟨t, stored, plans⟩ := plans hplan
    exact plans.ends stored (.command command instant)

theorem RequestScheduler.executeAdd_ends {taskId : TaskId}
    {desiredPaused : Bool} {conditions : TaskConditions} {position : Option ℕ}
    (adds : command.Adds taskId gid desiredPaused conditions position) :
    Ends self (.command command instant)
      (self.executeAdd taskId gid desiredPaused conditions position instant) := by
  unfold executeAdd
  cases hadd : self.addValidatedTask taskId gid desiredPaused conditions position instant with
  | error error => exact .error error
  | ok =>
    obtain ⟨fresh, rfl⟩ := addValidatedTask_ok hadd
    simp only [perform, finishAction]
    cases hcommit : self.commitPlan
      (additionCall self taskId gid desiredPaused conditions position instant) with
    | error error => exact .error error
    | ok => exact .change (.add adds fresh (commitsAddition_of_commitPlan hcommit))

theorem RequestScheduler.queueEffectsForReorder_ends {queue : QueueClass} {position : ℕ}
    (stored : self.tasks[gid]? = some t) (idle : t.pendingBarrier = none)
    (queued : t.queueClass = some queue)
    (free : queue = .stopped → self.pendingStoppedDeletion = none) :
    Ends self (.command (.changePosition gid position) instant)
      (self.queueEffectsForReorder gid queue position) := by
  unfold queueEffectsForReorder
  simp only [stored]
  split
  · exact .error _
  · next inside =>
    split
    · exact .error _
    · next old found =>
      split
      · exact .quiet .noop
      · exact .change (.reorder stored idle queued free found (not_le.mp inside) rfl)

theorem RequestScheduler.changePosition_ends {position : ℕ} :
    Ends self (.command (.changePosition gid position) instant)
      (self.changePosition gid position) := by
  unfold changePosition
  split
  · exact .error _
  · next t clone =>
    have stored := taskClone_eq_ok.mp clone
    split
    · exact .error _
    · next idle =>
      split
      · exact .error _
      · next queue queued =>
        split
        · exact .error _
        · next passed =>
          refine queueEffectsForReorder_ends stored idle queued ?_
          rintro rfl
          cases hd : self.pendingStoppedDeletion with
          | none => rfl
          | some barrier =>
            exact (passed (.pendingBarrier barrier "change_position") rfl
              (by simp only [rejectPendingDeletion, hd])).elim

theorem RequestScheduler.executeCommandAt_ends (command : SchedulerCommand) :
    Ends self (.command command instant) (self.executeCommandAt command instant) := by
  cases command with
  | addValidatedTask taskId gid desiredPaused conditions =>
    exact executeAdd_ends (.append taskId gid desiredPaused conditions)
  | addValidatedTaskAt taskId gid desiredPaused conditions position =>
    exact executeAdd_ends (.insert taskId gid desiredPaused conditions position)
  | pause => exact perform_command_ends pause_plans
  | resume => exact perform_command_ends resume_plans
  | beginSourceReplacement => exact perform_command_ends beginSourceReplacement_plans
  | commitSourceReplacement => exact perform_command_ends commitSourceReplacement_plans
  | approveHostKey => exact perform_command_ends approveHostKey_plans
  | applyOptionPatch => exact perform_command_ends applyOptionPatch_plans
  | remove => exact perform_command_ends remove_plans
  | removeStoppedResult => exact perform_command_ends removeStoppedResult_plans
  | changePosition => exact changePosition_ends
  | orderlyShutdown => exact .error _

theorem RequestScheduler.admitNextAt_ends :
    Ends self (.admitNext instant) (self.admitNextAt instant) := by
  unfold admitNextAt
  split
  · exact .error _
  · next planned ordinary hplan =>
    obtain ⟨gid, t, action, draft, publish, stored, step, rfl⟩ := planNextAdmission_step hplan
    exact step.ends stored (.admission instant) ordinary

theorem RequestScheduler.handleEventAt_ends (envelope : TaskEventEnvelope) :
    Ends self (.event envelope instant) (self.handleEventAt envelope instant) := by
  unfold handleEventAt
  cases hplan : self.planEvent envelope instant with
  | error error => exact .error error
  | ok =>
    obtain ⟨t, stored, ⟨disposition, outcome, ignored, rfl⟩ | ⟨fresh, plans⟩⟩ :=
      planEvent_plans hplan
    · exact .quiet (ScheduledTask.ignoredForDisposition_quiet ignored)
    · exact plans.ends stored (.event instant rfl fresh)

/-- Every call leaves the scheduler as it was, or makes one of the listed changes. -/
theorem RequestScheduler.apply_ends (self : RequestScheduler) (input : SchedulerInput) :
    Ends self input (self.apply input) := by
  cases input with
  | command command => exact executeCommandAt_ends command
  | admitNext => exact admitNextAt_ends
  | event envelope => exact handleEventAt_ends envelope
  | configureQueuePolicies retryWaitHoldsSlot slowReadmissionPolicy =>
    exact .change (.policies retryWaitHoldsSlot slowReadmissionPolicy)

theorem apply_of_error {self scheduler : RequestScheduler} (input : SchedulerInput)
    {error : SchedulerError} (h : self.apply input = (.error error, scheduler)) :
    scheduler = self := by
  have ends := self.apply_ends input
  rw [h] at ends
  cases ends
  rfl

end Ariax
