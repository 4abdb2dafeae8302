import Ariax.Lib.Classified
import Ariax.Scheduler.Specs

/-!
# What an accepted commit has checked

`finish_action` compares the queues with the class a task is said to come
from, the new state with the contract of the action, and the snapshot with
the publication checks, before it writes anything. A commit that succeeds
is taken apart here into those facts, once for a step of a task, once for
an added task and once for a deleted one. The publication checks of a
snapshot are read as conditions on the task it was taken from.
-/

namespace Ariax

open Except FinishCall Option RequestScheduler SchedulerOutcome TaskState WireProjection

namespace RequestScheduler

/-- The class of a GID: the queue class of the task stored under it. -/
def classOf (self : RequestScheduler) (gid : Gid) : Option QueueClass :=
  self.tasks[gid]?.bind ScheduledTask.queueClass

variable {self : RequestScheduler} {oldClass newClass : Option QueueClass} {gid : Gid}
  {c : QueueClass}

theorem mem_memberships : c ∈ self.memberships gid ↔ gid ∈ self.queues.get c := by
  simp [memberships]

/-- The queue orders that a change of class writes. -/
def classOrders (self : RequestScheduler) (gid : Gid) (oldClass newClass : Option QueueClass) :
    List QueueUpdate :=
  if oldClass = newClass then []
  else
    oldClass.toList.map (fun c => ⟨c, (self.queues.get c).erase gid⟩) ++
      newClass.toList.map (fun c => ⟨c, self.queues.get c ++ [gid]⟩)

theorem removedFrom_ok (h : gid ∈ self.queues.get c) :
    self.removedFrom gid c = .ok ⟨c, (self.queues.get c).erase gid⟩ := by
  unfold removedFrom
  rw [List.erase_eq_eraseIdx]
  cases hi : (self.queues.get c).idxOf? gid with
  | none => exact absurd h (List.idxOf?_eq_none_iff.mp hi)
  | some => rfl

theorem appendedTo_ok (h : gid ∉ self.queues.get c) :
    self.appendedTo gid c = .ok ⟨c, self.queues.get c ++ [gid]⟩ := by
  simp [appendedTo, h]

/-- The update of the queues succeeds exactly when the task is a member of
the class it is said to come from and of no other. -/
theorem queueUpdates_of_members (h : self.memberships gid = oldClass.toList) :
    self.queueUpdates gid oldClass newClass = .ok (self.classOrders gid oldClass newClass) := by
  have mem (c : QueueClass) : gid ∈ self.queues.get c ↔ oldClass = some c := by
    rw [← mem_memberships, h, mem_toList]
  unfold queueUpdates classOrders
  simp only [rejectIf, h, ne_eq, not_true_eq_false, if_false, ok_bind]
  split
  · rfl
  · next changed =>
    have removed : oldClass.toList.mapM (self.removedFrom gid) =
        .ok (oldClass.toList.map fun c => ⟨c, (self.queues.get c).erase gid⟩) := by
      cases oldClass with
      | none => rfl
      | some c => simp [removedFrom_ok ((mem c).mpr rfl)]
    have appended : newClass.toList.mapM (self.appendedTo gid) =
        .ok (newClass.toList.map fun c => ⟨c, self.queues.get c ++ [gid]⟩) := by
      cases newClass with
      | none => rfl
      | some c => simp [appendedTo_ok (fun hc => changed ((mem c).mp hc))]
    rw [removed, appended]
    rfl

theorem queueUpdates_eq_ok {updates : List QueueUpdate} :
    self.queueUpdates gid oldClass newClass = .ok updates ↔
      self.memberships gid = oldClass.toList ∧
        updates = self.classOrders gid oldClass newClass := by
  constructor
  · intro h
    have members : self.memberships gid = oldClass.toList := by
      unfold queueUpdates at h
      simp only [bind_eq_ok, rejectIf_eq_ok] at h
      obtain ⟨_, members, _⟩ := h
      exact not_not.mp members
    rw [queueUpdates_of_members members] at h
    exact ⟨members, (ok.inj h).symm⟩
  · rintro ⟨members, rfl⟩
    exact queueUpdates_of_members members

theorem get_setAll_classOrders : (self.queues.setAll (self.classOrders gid oldClass newClass)).get =
      Classifies.moved self.queues.get gid oldClass newClass := by
  funext c
  unfold classOrders Classifies.moved
  split
  · rfl
  · cases oldClass <;> cases newClass <;>
      simp only [SchedulerQueues.setAll, toList, List.map_cons, List.map_nil,
        List.nil_append, List.cons_append, List.append_nil, List.foldl_cons, List.foldl_nil,
        SchedulerQueues.get_set, some.injEq] <;> grind

end RequestScheduler

/-! ## Tasks whose snapshot may be published -/

namespace ScheduledTask

/-- The conditions under which the snapshot of a task passes its checks. -/
structure Publishable (t : ScheduledTask) : Prop where
  challenge : t.hostKeyChallenge.isSome = decide (t.state = .pausedHostKey)
  live : t.state.isTerminalPending = false
  retained : t.terminalPersisted = decide (t.state = .stoppedResult)
  conditions : t.conditions.blocksAdmission = true → t.state.retainsConditions = true
  unstopped : t.state ≠ .stoppedResult → t.stoppedStatus = none
  stopped : t.state = .stoppedResult → ∃ status, t.stoppedStatus = some status ∧
    status.isTerminal = true ∧ (status = .error → t.error.isSome = true)

variable {t : ScheduledTask} {retryWaitHoldsSlot : Bool}

theorem blocksAdmission_snapshot (conditions : TaskConditions) :
    (conditions.snapshot.noSpace || conditions.snapshot.needsCredentials) =
      conditions.blocksAdmission := by
  simp [TaskConditions.snapshot, TaskConditions.blocksAdmission, Bool.or_comm]

/-- A state is projected when it may retain its conditions and, for a
stopped result, when its terminal status has been persisted. -/
theorem project_eq_ok (projection : WireProjection) {state : TaskState}
    (live : state.isTerminalPending = false) :
    (∃ status, projection.project state = .ok status) ↔
      ((projection.conditions.noSpace || projection.conditions.needsCredentials) = true →
        state.retainsConditions = true) ∧
      (state = .stoppedResult → projection.terminalPersisted = true ∧
        ∃ status, projection.stoppedStatus = some status ∧ status.isTerminal = true) := by
  unfold project
  simp only [Except.bind_eq_ok, rejectIf_eq_ok]
  by_cases stopped : state = .stoppedResult
  · subst stopped
    cases hs : projection.stoppedStatus with
    | none => simp [terminalStatus, hs]
    | some status =>
      cases ht : status.isTerminal <;>
        simp [terminalStatus, hs, ht, Except.bind_eq_ok, rejectIf_eq_ok,
          retainsConditions]
  · have unfinished : projection.terminalStatus state = .ok none := by
      cases state <;> simp_all [terminalStatus, isTerminalPending]
    simp only [unfinished, stopped, false_imp_iff, and_true]
    constructor
    · rintro ⟨status, _, guard, _⟩ blocked
      simpa [blocked] using guard
    · intro retains
      have guard : ¬((projection.conditions.noSpace || projection.conditions.needsCredentials) &&
          !state.retainsConditions) = true := by
        cases hc : (projection.conditions.noSpace || projection.conditions.needsCredentials) <;>
          simp_all
      by_cases hn : projection.conditions.noSpace = true
      · exact ⟨.paused, (), guard, none, rfl, by simp [hn]⟩
      · by_cases hc : projection.conditions.needsCredentials = true
        · exact ⟨if projection.desiredPaused then .paused else .waiting, (), guard, none, rfl,
            by simp [hn, hc]⟩
        · exact ⟨projection.liveStatus state, (), guard, none, rfl, by simp [hn, hc]⟩

theorem wireStatus_eq_ok (live : t.state.isTerminalPending = false) :
    (∃ status, (t.statusSnapshot retryWaitHoldsSlot).wireStatus = .ok status) ↔
      (t.conditions.blocksAdmission = true → t.state.retainsConditions = true) ∧
      (t.state = .stoppedResult → t.terminalPersisted = true ∧
        ∃ status, t.stoppedStatus = some status ∧ status.isTerminal = true) := by
  have projected := project_eq_ok (t.statusSnapshot retryWaitHoldsSlot).wireProjection live
  rw [show ((t.statusSnapshot retryWaitHoldsSlot).wireProjection.conditions.noSpace ||
    (t.statusSnapshot retryWaitHoldsSlot).wireProjection.conditions.needsCredentials) =
      t.conditions.blocksAdmission from blocksAdmission_snapshot t.conditions] at projected
  refine Iff.trans ?_ projected
  have settled : ¬(t.statusSnapshot retryWaitHoldsSlot).state.isTerminalPending = true := by
    simpa [statusSnapshot] using live
  simp [TaskSnapshot.wireStatus, Except.bind_eq_ok, settled]
  rfl

theorem validate_statusSnapshot :
    (t.statusSnapshot retryWaitHoldsSlot).validate = .ok () ↔ t.Publishable := by
  unfold TaskSnapshot.validate
  simp only [Except.bind_eq_ok, rejectIf_eq_ok]
  constructor
  · rintro ⟨_, -, _, -, _, shown, _, hidden, _, failed, _, unstopped, _, live, _, retained, wire⟩
    have projected : ∃ status, (t.statusSnapshot retryWaitHoldsSlot).wireStatus = .ok status := by
      split at wire
      · cases wire
      · next status h => exact ⟨status, h⟩
    have live : t.state.isTerminalPending = false := by simpa [statusSnapshot] using live
    obtain ⟨conditions, stopped⟩ := (wireStatus_eq_ok live).mp projected
    simp only [statusSnapshot, isSome_map, isNone_map] at shown hidden
    simp only [statusSnapshot] at failed unstopped retained
    refine ⟨?_, live, ?_, conditions, ?_, fun h => ?_⟩
    · by_cases h : t.state = .pausedHostKey
      · simpa [h, isSome_iff_ne_none] using shown
      · simpa [h] using hidden
    · by_cases h : t.state = .stoppedResult
      · simpa [h, isRetainedResult] using (not_not.mp retained).symm
      · have : t.state.isRetainedResult = false := by
          cases hs : t.state <;> simp_all [isRetainedResult]
        simpa [h, this] using (not_not.mp retained).symm
    · intro h
      simpa [h] using unstopped
    · obtain ⟨-, status, hstatus, terminal⟩ := stopped h
      refine ⟨status, hstatus, terminal, ?_⟩
      rintro rfl
      simpa [h, hstatus, isSome_iff_ne_none] using failed
  · intro publishable
    obtain ⟨status, wire⟩ : ∃ status,
        (t.statusSnapshot retryWaitHoldsSlot).wireStatus = .ok status := by
      rw [wireStatus_eq_ok publishable.live]
      refine ⟨publishable.conditions, fun h => ⟨by simp [publishable.retained, h], ?_⟩⟩
      obtain ⟨status, hstatus, terminal, -⟩ := publishable.stopped h
      exact ⟨status, hstatus, terminal⟩
    have retained : t.state.isRetainedResult = t.terminalPersisted := by
      rw [publishable.retained]
      cases t.state <;> rfl
    refine ⟨(), by simp [statusSnapshot], (), by simp [statusSnapshot], (), ?_, (), ?_, (), ?_, (),
      ?_, (), ?_, (), ?_, ?_⟩
    · rintro ⟨h, missing⟩
      have := publishable.challenge
      simp_all [statusSnapshot]
    · rintro ⟨h, present⟩
      have := publishable.challenge
      simp_all [statusSnapshot]
    · rintro ⟨h | ⟨h, failed⟩, missing⟩
      · have := publishable.live
        simp_all [statusSnapshot, isTerminalPending]
      · obtain ⟨status, hstatus, -, some⟩ := publishable.stopped h
        obtain rfl : status = .error := Option.some.inj (hstatus.symm.trans failed)
        have := some rfl
        simp_all [statusSnapshot]
    · rintro ⟨h, present⟩
      have := publishable.unstopped h
      simp_all [statusSnapshot]
    · simpa [statusSnapshot] using publishable.live
    · simpa [statusSnapshot] using retained
    · rw [wire]
      rfl

theorem snapshot_eq_ok {snapshot : TaskSnapshot} : t.snapshot retryWaitHoldsSlot = .ok snapshot ↔
      t.Publishable ∧ snapshot = t.statusSnapshot retryWaitHoldsSlot := by
  rw [← validate_statusSnapshot]
  unfold ScheduledTask.snapshot
  cases h : (t.statusSnapshot retryWaitHoldsSlot).validate with
  | ok => simp [eq_comm]
  | error => simp

end ScheduledTask

/-! ## The three kinds of commit -/

variable {self : RequestScheduler} {t : ScheduledTask} {action : SchedulerAction} {draft : Draft}
  {instant : MonotonicInstant} {publish : Bool} {ids : IdCounters} {plan : CommitPlan}

def publishEffects (taskId : TaskId) (snapshot : Option TaskSnapshot) : List TransitionEffect :=
  snapshot.toList.map (.publishSnapshot taskId)

/-- What the commit of a step has checked, and which effects it reports. -/
structure Draft.Commits (scheduler : RequestScheduler) (t : ScheduledTask)
    (action : SchedulerAction)
    (draft : Draft) (instant : MonotonicInstant) (publish : Bool) (ids : IdCounters)
    (plan : CommitPlan) : Prop where
  accepted : (transitionContract t.state action).kind = .transition ∨
    (transitionContract t.state action).kind = .stay
  updates : plan.updates = scheduler.classOrders t.gid t.queueClass draft.task.queueClass
  snapshot : (draft.call t action instant publish ids).publishedSnapshot
    scheduler.config.retryWaitHoldsSlot = .ok plan.snapshot
  effects : ∃ effects, (draft.call t action instant publish ids).persistenceEffects scheduler.queues
      plan.updates = .ok effects ∧
    plan.outcome.effects = effects ++ publishEffects t.taskId plan.snapshot

theorem Draft.Commits.publishable (commits : draft.Commits self t action instant publish ids plan)
    (published : publish = true) : draft.task.Publishable := by
  subst published
  have h := commits.snapshot
  simp only [publishedSnapshot, Draft.call, if_true, Except.bind_eq_ok] at h
  obtain ⟨snapshot, taken, -⟩ := h
  exact (ScheduledTask.snapshot_eq_ok.mp taken).1

theorem FinishCall.accepted_of_changeRecord {call : FinishCall} {task : ScheduledTask}
    {record : Option StateTransition × Option TaskDeletion} (updated : call.updated = some task)
    (h : call.changeRecord = .ok record) :
    (transitionContract call.original.state call.action).kind = .transition ∨
      (transitionContract call.original.state call.action).kind = .stay := by
  unfold changeRecord at h
  cases hk : (transitionContract call.original.state call.action).kind <;>
    simp only [hk, updated] at h
  case transition | stay => simp
  all_goals cases h

theorem Draft.commits_of_commitPlan
    (h : self.commitPlan (draft.call t action instant publish ids) = .ok plan) :
    draft.Commits self t action instant publish ids plan := by
  unfold commitPlan at h
  simp only [bind_eq_ok] at h
  obtain ⟨_, -, updates, hupdates, placed, hplaced, _, -, effects, heffects, snapshot,
    hsnapshot, record, hrecord, outcome, houtcome, hplan⟩ := h
  obtain ⟨-, rfl⟩ := queueUpdates_eq_ok.mp hupdates
  obtain rfl := eq_of_checked houtcome
  obtain rfl : _ = plan := ok.inj hplan
  obtain rfl : _ = placed := ok.inj hplaced
  refine ⟨accepted_of_changeRecord rfl hrecord, rfl, hsnapshot, ⟨effects, heffects, ?_⟩⟩
  cases snapshot <;> rfl

/-- A stopped result that leaves the scheduler: it is taken out of its queue
and nothing is persisted any more. -/
structure ScheduledTask.CommitsDeletion (scheduler : RequestScheduler) (t : ScheduledTask)
    (plan : CommitPlan) : Prop where
  updates : plan.updates = scheduler.classOrders t.gid t.queueClass none
  effects : plan.outcome.effects = []

theorem ScheduledTask.commitsDeletion_of_commitPlan
    (h : self.commitPlan (t.deletionCall .stoppedResultDeletionSucceeded instant ids) = .ok plan) :
    t.CommitsDeletion self plan := by
  unfold commitPlan at h
  simp only [bind_eq_ok] at h
  obtain ⟨_, -, updates, hupdates, placed, hplaced, _, -, effects, heffects, snapshot,
    hsnapshot, record, -, outcome, houtcome, hplan⟩ := h
  obtain ⟨-, rfl⟩ := queueUpdates_eq_ok.mp hupdates
  obtain rfl := eq_of_checked houtcome
  obtain rfl : _ = plan := ok.inj hplan
  obtain rfl : _ = placed := ok.inj hplaced
  obtain rfl : _ = effects := ok.inj heffects
  obtain rfl : _ = snapshot := ok.inj hsnapshot
  exact ⟨rfl, rfl⟩

def addedState (desiredPaused : Bool) : TaskState := if desiredPaused then .paused else .waiting

def addedClass (desiredPaused : Bool) : QueueClass := if desiredPaused then .paused else .waiting

def addedTask (taskId : TaskId) (gid : Gid) (desiredPaused : Bool) (conditions : TaskConditions) :
    ScheduledTask :=
  { ScheduledTask.new taskId gid desiredPaused conditions with state := addedState desiredPaused }

def addedPosition (self : RequestScheduler) (desiredPaused : Bool) (position : Option ℕ) : ℕ :=
  min (position.getD usizeMax) (self.queues.get (addedClass desiredPaused)).length

def additionCall (self : RequestScheduler) (taskId : TaskId) (gid : Gid) (desiredPaused : Bool)
    (conditions : TaskConditions) (position : Option ℕ) (instant : MonotonicInstant) :
    FinishCall where
  original := ScheduledTask.new taskId gid desiredPaused conditions
  updated := some (addedTask taskId gid desiredPaused conditions)
  originalPresent := false
  action := .forValidatedAdd desiredPaused
  instant := instant
  effects := [.persistTask taskId gid (addedClass desiredPaused)
    (addedPosition self desiredPaused position) desiredPaused 0 conditions]
  publish := true
  ids := self.ids

variable {taskId : TaskId} {gid : Gid} {desiredPaused : Bool} {conditions : TaskConditions}
  {position : Option ℕ}

/-- The identities of an added task are new to the scheduler. -/
structure FreshTask (scheduler : RequestScheduler) (taskId : TaskId) (gid : Gid) : Prop where
  freshGid : scheduler.tasks[gid]? = none
  freshId : scheduler.taskIds[taskId]? = none
  above : ∀ highest, scheduler.highestTaskId = some highest → highest < taskId

theorem RequestScheduler.addValidatedTask_ok {planned : Planned}
    (h : self.addValidatedTask taskId gid desiredPaused conditions position instant = .ok planned) :
    FreshTask self taskId gid ∧
      planned =
        .finish (additionCall self taskId gid desiredPaused conditions position instant) := by
  unfold addValidatedTask at h
  simp only [bind_eq_ok, rejectIf_eq_ok] at h
  obtain ⟨_, -, _, -, _, gidFree, _, idFree, _, above, state, hstate, h⟩ := h
  obtain rfl : addedState desiredPaused = state := by
    cases desiredPaused <;> exact ok.inj hstate
  refine ⟨⟨by simpa using gidFree, by simpa using idFree, ?_⟩, ?_⟩
  · intro highest hhighest
    simpa [hhighest] using above
  · cases desiredPaused <;> exact (ok.inj h).symm

/-- The commit of an added task: it enters its queue at the requested place. -/
structure CommitsAddition (scheduler : RequestScheduler) (taskId : TaskId) (gid : Gid)
    (desiredPaused : Bool) (conditions : TaskConditions) (position : Option ℕ)
    (plan : CommitPlan) : Prop where
  updates : plan.updates = [⟨addedClass desiredPaused,
    (scheduler.queues.get (addedClass desiredPaused)).insertIdx
      (addedPosition scheduler desiredPaused position) gid⟩]
  effects : plan.outcome.effects = [.persistTask taskId gid (addedClass desiredPaused)
      (addedPosition scheduler desiredPaused position) desiredPaused 0 conditions,
    .publishSnapshot taskId ((addedTask taskId gid desiredPaused conditions).statusSnapshot
      scheduler.config.retryWaitHoldsSlot)]

theorem additionCall_newClass :
    (additionCall self taskId gid desiredPaused conditions position instant).newClass =
      some (addedClass desiredPaused) := by
  cases desiredPaused <;> rfl

theorem placeAdded_additionCall :
    (additionCall self taskId gid desiredPaused conditions position instant).placeAdded
      (self.classOrders gid none (some (addedClass desiredPaused))) =
    .ok [⟨addedClass desiredPaused, (self.queues.get (addedClass desiredPaused)).insertIdx
      (addedPosition self desiredPaused position) gid⟩] := by
  have inside : ¬(self.queues.get (addedClass desiredPaused)).length <
      addedPosition self desiredPaused position := not_lt.mpr (min_le_right _ _)
  simp [placeAdded, additionCall, classOrders, placeInUpdate, ScheduledTask.new, inside]

theorem commitsAddition_of_commitPlan (h : self.commitPlan
      (additionCall self taskId gid desiredPaused conditions position instant) = .ok plan) :
    CommitsAddition self taskId gid desiredPaused conditions position plan := by
  unfold commitPlan at h
  simp only [bind_eq_ok] at h
  obtain ⟨_, -, updates, hupdates, placed, hplaced, _, -, effects, heffects, snapshot,
    hsnapshot, record, -, outcome, houtcome, hplan⟩ := h
  obtain ⟨-, rfl⟩ := queueUpdates_eq_ok.mp hupdates
  obtain rfl := eq_of_checked houtcome
  obtain rfl : _ = plan := ok.inj hplan
  rw [additionCall_newClass] at hplaced
  obtain rfl := ok.inj (placeAdded_additionCall.symm.trans hplaced)
  obtain rfl : _ = effects := ok.inj heffects
  simp only [publishedSnapshot, additionCall, if_true, bind_eq_ok] at hsnapshot
  obtain ⟨shown, hshown, hsnapshot⟩ := hsnapshot
  obtain rfl : _ = snapshot := ok.inj hsnapshot
  obtain rfl : shown = (addedTask taskId gid desiredPaused conditions).statusSnapshot
      self.config.retryWaitHoldsSlot := by
    unfold ScheduledTask.snapshot at hshown
    split at hshown
    · exact (ok.inj hshown).symm
    · cases hshown
  exact ⟨rfl, rfl⟩

end Ariax
