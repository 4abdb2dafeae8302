import Ariax.Scheduler.TaskRun

/-!
# Active slots

The scheduler never hands out more slots than it may. A task works only
while it holds a slot, and holds one only while it works, waits to retry or
drains. Seen along a run, a task takes its slots and gives them back in turn.
-/

namespace Ariax

open TransitionEffect RequestScheduler PendingBarrier SchedulerStep ScheduledTask TaskState

/-! ## Taking and giving back in turn -/

inductive SlotEvent where
  | acquired
  | released
  deriving DecidableEq, Repr

/-- Slots are taken and given back in turn, beginning with one that is taken,
and the last one taken is still held exactly when `owns` says so. -/
structure SlotEvent.Alternate (events : List SlotEvent) (owns : Bool) : Prop where
  turns : events.IsChain (· ≠ ·)
  first : events.head? ≠ some .released
  last : events.getLast? = some .acquired ↔ owns = true

/-- What one call may contribute to the slot events of a task. -/
inductive SlotEvent.Move : Bool → Bool → List SlotEvent → Prop
  | keep (owns : Bool) : Move owns owns []
  | acquire : Move false true [.acquired]
  | release : Move true false [.released]

theorem SlotEvent.Alternate.nil : Alternate [] false := ⟨.nil, by simp, by simp⟩

theorem SlotEvent.Alternate.move {events new : List SlotEvent} {owns owns' : Bool}
    (h : Alternate events owns) (move : Move owns owns' new) : Alternate (events ++ new) owns' := by
  have next {event : SlotEvent} (fits : ∀ old ∈ events.getLast?, old ≠ event) :
      (events ++ [event]).IsChain (· ≠ ·) :=
    List.isChain_append.mpr ⟨h.turns, .singleton event, fun old member _ same => by
      simp only [List.head?_cons, Option.mem_some_iff] at same
      exact same ▸ fits old member⟩
  cases move with
  | keep => rwa [List.append_nil]
  | acquire =>
    refine ⟨next ?_, ?_, by simp⟩
    · rintro old member rfl
      exact Bool.false_ne_true (h.last.mp member)
    · cases events with
      | nil => simp
      | cons => simpa using h.first
  | release =>
    have held := h.last.mpr rfl
    refine ⟨next ?_, ?_, by simp⟩
    · rintro old member rfl
      rw [Option.mem_def, held] at member
      cases member
    · cases events with
      | nil => cases held
      | cons => simpa using h.first

/-! ## The slot events of a run -/

def TransitionEffect.releases (taskId : TaskId) : TransitionEffect → Bool
  | releaseSlot owner _ _ => owner = taskId
  | _ => false

def RequestScheduler.ownsSlot (self : RequestScheduler) (taskId : TaskId) : Bool :=
  (self.taskById taskId).any fun task => task.slot.ownsSlot

/-- The slot events of a task in one call: a release for each `ReleaseSlot`
effect, and an acquisition when the task comes to hold a slot. -/
def slotMoves (taskId : TaskId) (effects : List TransitionEffect) (before after : Bool) :
    List SlotEvent :=
  (effects.filter (releases taskId)).map (fun _ => .released) ++
    if !before && after then [.acquired] else []

def SchedulerStep.slotEvents (taskId : TaskId) (step : SchedulerStep) : List SlotEvent :=
  slotMoves taskId (effects step) (step.before.ownsSlot taskId)
    (step.after.ownsSlot taskId)

section Moves

variable {self after : RequestScheduler} {input : SchedulerInput} {t u : ScheduledTask}
  {cause : StepCause} {effects : List TransitionEffect} {taskId : TaskId}

theorem TransitionEffect.drives_of_releases {effect : TransitionEffect}
    (h : effect.releases taskId = true) : effect.drives = true := by
  cases effect <;> first | rfl | cases h

theorem filter_releases_drives (taskId : TaskId) (effects : List TransitionEffect) :
    (effects.filter drives).filter (releases taskId) =
      effects.filter (releases taskId) := by
  rw [List.filter_filter]
  refine List.filter_congr fun effect _ => ?_
  cases h : effect.releases taskId with
  | false => rfl
  | true => rw [drives_of_releases h]; rfl

theorem ScheduledTask.releases_releaseEffects (t : ScheduledTask) :
    t.releaseEffects.filter (releases t.taskId) = t.releaseEffects := by
  unfold releaseEffects
  split <;> simp [releases]

theorem slotMoves_keep {owns : Bool} (none : effects.filter (releases taskId) = []) :
    SlotEvent.Move owns owns (slotMoves taskId effects owns owns) := by
  have still : slotMoves taskId effects owns owns = [] := by
    unfold slotMoves
    rw [none]
    cases owns <;> rfl
  rw [still]
  exact .keep owns

theorem Drives.slotMove (inv : t.Inv) (h : Drives self t u cause effects) :
    SlotEvent.Move t.slot.ownsSlot u.slot.ownsSlot
      (slotMoves t.taskId effects t.slot.ownsSlot u.slot.ownsSlot) := by
  have gives {effects : List TransitionEffect} (slot : u.slot = .none)
      (gives : effects.filter (TransitionEffect.releases t.taskId) = t.releaseEffects) :
      SlotEvent.Move t.slot.ownsSlot u.slot.ownsSlot
        (slotMoves t.taskId effects t.slot.ownsSlot u.slot.ownsSlot) := by
    unfold slotMoves
    rw [gives, releaseEffects, slot]
    cases t.slot.ownsSlot
    · exact .keep false
    · exact .release
  cases h with
  | keeps slot | stages slot | applies slot =>
    rw [slot]
    exact slotMoves_keep rfl
  | releases slot => exact gives slot t.releases_releaseEffects
  | enters slot =>
    rw [slot]
    cases t.slot.ownsSlot
    · exact .acquire
    · exact .keep true
  | starts barrier slot =>
    have reserved := inv.placed
    simp only [barrier, admits, Bool.decide_and, Bool.and_eq_true, decide_eq_true_eq] at reserved
    rw [slot, reserved.2]
    exact .keep true
  | quiesces slot =>
    refine gives slot ?_
    rw [List.filter_append, t.releases_releaseEffects]
    simp [TransitionEffect.releases]

theorem ScheduledTask.Inv.slot_of_stopped (inv : t.Inv) (state : t.state = .stoppedResult) :
    t.slot = .none := by
  have placed := inv.placed
  rw [state] at placed
  cases hb : t.pendingBarrier with
  | none => simpa [hb, admits, idleSlot] using placed
  | some barrier =>
    rw [hb] at placed
    cases barrier with
    | cancellationDrain _ target => cases target <;> cases placed
    | stoppedResultDeletion => simpa [admits] using placed
    | _ => simp [admits, restartable, result] at placed

theorem ScheduledTask.passed_slot (ordinary : Bool) (t : ScheduledTask) :
    (t.passed ordinary).slot = t.slot := by
  obtain ⟨position, h⟩ := t.passed_eq ordinary
  rw [h]

theorem RequestScheduler.Valid.slotMove (valid : self.Valid) (input : SchedulerInput)
    (taskId : TaskId) :
    SlotEvent.Move (self.ownsSlot taskId) ((self.apply input).2.ownsSlot taskId)
      (slotEvents taskId (schedulerMachine.step self input)) := by
  have evolves := valid.evolves input taskId
  have events : slotEvents taskId (schedulerMachine.step self input) =
    slotMoves taskId (effects (schedulerMachine.step self input))
      (self.ownsSlot taskId) ((self.apply input).2.ownsSlot taskId) := rfl
  rw [events]
  unfold ownsSlot
  generalize hbefore : self.taskById taskId = before at evolves ⊢
  generalize (self.apply input).2.taskById taskId = later at evolves ⊢
  generalize effects (schedulerMachine.step self input) = effects at evolves ⊢
  cases evolves with
  | other ordinary silent =>
    have same : (before.map (passed ordinary)).any (fun t => t.slot.ownsSlot) =
        before.any (fun t => t.slot.ownsSlot) := by
      cases before <;> simp [passed_slot]
    rw [same]
    refine slotMoves_keep (List.filter_eq_nil_iff.mpr fun effect member releases => ?_)
    cases effect <;> first | cases releases | exact silent _ member (of_decide_eq_true releases)
  | @step cause _ _ t _ draft _ _ plan ordinary owner stored reaches step commits =>
    subst owner
    have inv := valid.tasks _ t stored
    have moves := (step.drives inv reaches.fresh).slotMove inv
    have same : slotMoves t.taskId plan.outcome.effects =
        slotMoves t.taskId (draft.effects.filter drives) := by
      unfold slotMoves
      rw [filter_releases_drives, commits.filter_effects _ fun effect releases =>
        isCommitted_of_drives (drives_of_releases releases)]
    rw [same]
    simpa [passed_slot] using moves
  | add _ commits =>
    refine slotMoves_keep ?_
    rw [commits.effects]
    rfl
  | @delete t owner state =>
    have slot : t.slot = .none := by
      have inv := valid.tasks _ t (valid.indexed.taskById_eq_some.mp hbefore).1
      exact inv.slot_of_stopped state
    rw [Option.any_some, slot]
    exact slotMoves_keep rfl
  | reorder => exact slotMoves_keep rfl

end Moves

/-! ## The number of slots -/

section Count

variable {self after : RequestScheduler} {input : SchedulerInput} {outcome : SchedulerOutcome}
  {gid : Gid} {t u : ScheduledTask} {ordinary : Bool}

/-- Replacing the record of one task changes the count by the slot of that task. -/
theorem Replaced.activeSlotCount (h : Replaced self after gid t u ordinary)
    (stored : self.tasks[gid]? = some t) :
    after.activeSlotCount + t.slot.ownsSlot.toNat =
      self.activeSlotCount + u.slot.ownsSlot.toNat := by
  have agree (g : Gid) (other : g ≠ gid) :
      after.tasks[g]?.any (fun t => t.slot.ownsSlot) =
        self.tasks[g]?.any (fun t => t.slot.ownsSlot) := by
    rw [h.old other]
    cases self.tasks[g]? <;> simp [passed_slot]
  have counts := OrderedMap.countP_valuesInOrder_of_agree agree
  rw [stored, h.new] at counts
  simpa [RequestScheduler.activeSlotCount, passed_slot] using counts

theorem RequestScheduler.activeSlotCount_le (gid : Gid)
    (others : ∀ g : Gid, g ≠ gid → after.tasks[g]? = self.tasks[g]?)
    (free : after.tasks[gid]?.any (fun t => t.slot.ownsSlot) = false) :
    after.activeSlotCount ≤ self.activeSlotCount := by
  have counts := OrderedMap.countP_valuesInOrder_of_agree (n := after.tasks) (m := self.tasks)
    (p := fun t => t.slot.ownsSlot) fun g other => by rw [others g other]
  rw [free, Bool.toNat_false, Nat.add_zero] at counts
  exact (Nat.le_add_right _ _).trans counts.le

theorem Drives.room {cause : StepCause} {effects : List TransitionEffect} (inv : t.Inv)
    (h : Drives self t u cause effects) (free : t.slot.ownsSlot = false)
    (owned : u.slot.ownsSlot = true) : self.activeSlotCount < self.config.maxActiveTasks := by
  cases h with
  | keeps slot => simp [slot, free] at owned
  | releases slot | quiesces slot => simp [slot] at owned
  | enters _ _ room => exact room (SlotOwnership.ownsSlot_eq_false.mp free)
  | starts barrier =>
    have reserved := inv.placed
    simp [barrier, admits] at reserved
    simp [reserved.2] at free
  | stages slot | applies slot =>
    rw [slot, free] at owned
    cases owned

theorem Change.maxActiveTasks (change : Change self input outcome after) :
    after.config.maxActiveTasks = self.config.maxActiveTasks := by
  cases change with
  | @step _ _ _ _ _ _ _ _ _ _ ordinary =>
    cases ordinary <;>
      simp [passing, advanceSlowPositions]
  | add | delete => simp
  | reorder | policies => rfl

theorem Change.bounded (valid : self.Valid) (change : Change self input outcome after)
    (bounded : self.activeSlotCount ≤ self.config.maxActiveTasks) :
    after.activeSlotCount ≤ after.config.maxActiveTasks := by
  rw [change.maxActiveTasks]
  cases change with
  | @step _ _ _ gid t _ draft _ _ _ ordinary stored reaches step commits =>
    have inv := valid.tasks gid t stored
    have replaced : Replaced self _ gid t draft.task ordinary :=
      commits.replaced (valid.indexed.keyed stored) step.same
    have counts := replaced.activeSlotCount stored
    have room := (step.drives inv reaches.fresh).room inv
    cases before : t.slot.ownsSlot <;> cases later : draft.task.slot.ownsSlot <;>
      simp only [before, later, Bool.toNat_true, Bool.toNat_false, forall_const] at counts room <;>
      omega
  | @add _ _ taskId gid desiredPaused conditions _ =>
    refine le_trans (activeSlotCount_le gid ?_ ?_) bounded
    · intro g other
      rw [show _ = _ from getElem?_tasks_addition g, if_neg (Ne.symm other)]
    · rw [show _ = _ from getElem?_tasks_addition gid, if_pos rfl]
      rfl
  | @delete envelope _ _ _ _ stored =>
    refine le_trans (activeSlotCount_le envelope.event.gid ?_ ?_) bounded
    · intro g other
      rw [getElem?_tasks_deletion (valid.indexed.keyed stored), if_neg (Ne.symm other)]
    · rw [getElem?_tasks_deletion (valid.indexed.keyed stored), if_pos rfl]
      rfl
  | reorder | policies => exact bounded

theorem RequestScheduler.Starts.slot_eq_none (starts : self.Starts)
    (stored : self.tasks[gid]? = some t) : t.slot = .none := by
  obtain ⟨recovered, restores⟩ := starts.restores stored
  obtain ⟨_, _, _, rfl, -⟩ := restores.task
  rfl

theorem RequestScheduler.Starts.activeSlotCount_eq_zero (starts : self.Starts) :
    self.activeSlotCount = 0 := by
  refine List.countP_eq_zero.mpr fun t member owned => ?_
  obtain ⟨gid, stored⟩ := OrderedMap.mem_valuesInOrder.mp member
  rw [starts.slot_eq_none stored] at owned
  cases owned

theorem RequestScheduler.Starts.ownsSlot_eq_false (starts : self.Starts) (taskId : TaskId) :
    self.ownsSlot taskId = false := by
  unfold ownsSlot
  cases found : self.taskById taskId with
  | none => rfl
  | some =>
    have stored := (starts.valid.indexed.taskById_eq_some.mp found).1
    rw [Option.any_some, starts.slot_eq_none stored]
    rfl

end Count

/-! ## The account -/

/-- A working task holds its slot, and a task that holds a slot works, waits
to retry or drains. -/
theorem ScheduledTask.Inv.owns {t : ScheduledTask} (inv : t.Inv) :
    (t.state.isWorking = true → t.slot.ownsSlot = true) ∧
      (t.slot.ownsSlot = true → t.state.isWorking = true ∨ t.state = .retryWait ∨
        isDrain t.pendingBarrier = true) := by
  have idle (h : t.state.idleSlot t.slot = true) :
      (t.state.isWorking = true → t.slot.ownsSlot = true) ∧
        (t.slot.ownsSlot = true → t.state.isWorking = true ∨ t.state = .retryWait) := by
    cases hs : t.state <;> simp_all [idleSlot, isWorking]
  have placed := inv.placed
  cases hb : t.pendingBarrier with
  | none =>
    rw [hb] at placed
    exact ⟨(idle placed).1, fun owned => ((idle placed).2 owned).imp_right .inl⟩
  | some barrier =>
    rw [hb] at placed
    cases barrier with
    | cancellationDrain _ target =>
      refine ⟨fun working => ?_, fun _ => .inr (.inr rfl)⟩
      -- no worker is draining in a working state
      simp only [admits] at placed
      revert placed working
      cases target <;> cases t.state <;> cases t.slot <;> decide
    | optionPatchApplication =>
      simp only [admits, Bool.decide_and, Bool.and_eq_true, decide_eq_true_eq] at placed
      exact ⟨(idle placed.1).1, fun owned => ((idle placed.1).2 owned).imp_right .inl⟩
    | _ =>
      simp only [admits, Bool.decide_and, Bool.and_eq_true, decide_eq_true_eq] at placed
      clear inv idle
      cases hs : t.state <;> simp_all [isWorking, restartable, result]

/-- No more slots are held than there are, and they are held by the tasks
that work, wait to retry or drain, by every one that works. -/
structure RequestScheduler.SlotAccounting (scheduler : RequestScheduler) : Prop where
  bounded : scheduler.activeSlotCount ≤ scheduler.config.maxActiveTasks
  working : ∀ (gid : Gid) (t : ScheduledTask), scheduler.tasks[gid]? = some t →
    t.state.isWorking = true → t.slot.ownsSlot = true
  owners : ∀ (gid : Gid) (t : ScheduledTask), scheduler.tasks[gid]? = some t →
    t.slot.ownsSlot = true → t.state.isWorking = true ∨ t.state = .retryWait ∨
      isDrain t.pendingBarrier = true
  stopped : ∀ (gid : Gid) (t : ScheduledTask), scheduler.tasks[gid]? = some t →
    t.state = .stoppedResult → t.slot.ownsSlot = false

/-- In every run from an empty or a restored scheduler the slots are accounted
for, and every task takes its slots and gives them back in turn, holding one
at the end exactly when it has taken one more than it gave back. -/
theorem slotAccounting_of_run {start self : RequestScheduler} {history : List SchedulerStep}
    (starts : start.Starts) (run : schedulerMachine.Run start history self) :
    self.SlotAccounting ∧ ∀ taskId, SlotEvent.Alternate
      (history.flatMap (slotEvents taskId)) (self.ownsSlot taskId) := by
  have valid := valid_of_run starts run
  refine ⟨⟨?_, ?_, ?_, ?_⟩, fun taskId => ?_⟩
  · refine (run.invariant (P := fun self => self.Valid ∧
      self.activeSlotCount ≤ self.config.maxActiveTasks) ⟨starts.valid, ?_⟩ ?_).2
    · rw [starts.activeSlotCount_eq_zero]
      exact Nat.zero_le _
    · rintro before input ⟨valid, bounded⟩
      exact ⟨valid.apply input, apply_induction bounded fun _ _ change =>
        change.bounded valid bounded⟩
  · exact fun gid t stored => (valid.tasks gid t stored).owns.1
  · exact fun gid t stored => (valid.tasks gid t stored).owns.2
  · exact fun gid t stored state =>
      SlotOwnership.ownsSlot_eq_false.mpr ((valid.tasks gid t stored).slot_of_stopped state)
  · refine run.history (P := fun history self => SlotEvent.Alternate
      (history.flatMap (slotEvents taskId)) (self.ownsSlot taskId)) ?_ ?_
    · rw [starts.ownsSlot_eq_false]
      exact .nil
    · intro history before input run alternate
      rw [List.flatMap_append, List.flatMap_singleton]
      exact alternate.move ((valid_of_run starts run).slotMove input taskId)

/-- The allocation of a task fails, and the task is admitted again by its retry timer. -/
def retriedAllocation : List SchedulerInput :=
  [Script.add, Script.admitNext, Script.report .generationPersisted,
    Script.report (.allocationRetryable ⟨3⟩), Script.report (.retryReady Script.retryTimerId)]

/-- It has taken two slots, given one back in between, and holds the second. -/
theorem slotAccounting_of_retry :
    (schedulerMachine.final (.new (Script.config false)) retriedAllocation).SlotAccounting ∧
      SlotEvent.Alternate [.acquired, .released, .acquired] true := by
  obtain ⟨account, alternate⟩ := slotAccounting_of_run (.new (Script.config false))
    (Machine.run_trace _ retriedAllocation)
  have events : (schedulerMachine.trace (.new (Script.config false)) retriedAllocation).flatMap
      (slotEvents Script.taskId) = [.acquired, .released, .acquired] := by decide
  have held : (schedulerMachine.final (.new (Script.config false))
      retriedAllocation).ownsSlot Script.taskId = true := by decide
  have turns := alternate Script.taskId
  rw [events, held] at turns
  exact ⟨account, turns⟩

end Ariax
