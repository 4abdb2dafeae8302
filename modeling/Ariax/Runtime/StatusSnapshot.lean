import Ariax.Scheduler.Machine

/-!
# Applied status snapshots

The public status root of the runtime (`status_snapshot.rs`): an immutable
view of tasks and queues, a private draft into which one chain of effects is
staged, and the store that validates a draft and replaces the root by it.
-/

namespace Ariax

structure SchedulerTaskView where
  taskId : TaskId
  gid : Gid
  state : TaskState
  generation : Generation
  queue : Option QueueClass
  slot : SlotOwnership
  desiredPaused : Bool
  conditions : TaskConditionsSnapshot
  pendingBarrier : Option PendingBarrier
  retryTimer : Option RetryTimerId
  slowReadmission : Option SlowReadmissionId
  slowDemotionCount : U32
  slowSlot : Option SlowSlotPersistence
  noSpaceProbe : Option NoSpaceProbeId
  pendingOptionPatch : Option OptionPatchId
  pendingOptionPatchMode : Option PendingOptionPatchMode
  pendingCredentialRequirement : Option CredentialRequirementKey
  pendingUserControl : Option PendingUserControl
  pendingSourceReplacement : Bool
  deriving DecidableEq

def ScheduledTask.view (task : ScheduledTask) : SchedulerTaskView where
  taskId := task.taskId
  gid := task.gid
  state := task.state
  generation := task.generation
  queue := task.queueClass
  slot := task.slot
  desiredPaused := task.desiredPaused
  conditions := task.conditions.snapshot
  pendingBarrier := task.pendingBarrier
  retryTimer := task.retryTimer.map Prod.fst
  slowReadmission := task.slowReadmission.map Prod.fst
  slowDemotionCount := task.slowDemotionCount
  slowSlot := task.slowSlot
  noSpaceProbe := task.noSpaceProbe.map Prod.fst
  pendingOptionPatch := task.pendingOptionPatch
  pendingOptionPatchMode := task.pendingOptionPatchMode
  pendingCredentialRequirement := task.pendingCredentialRequirement
  pendingUserControl := task.pendingUserControl
  pendingSourceReplacement := task.pendingSourceReplacement

def RequestScheduler.task (self : RequestScheduler) (gid : Gid) : Option SchedulerTaskView :=
  self.tasks[gid]?.map ScheduledTask.view

/-- One publicly visible snapshot bound to the task instance that produced it. -/
structure AppliedTaskSnapshot where
  taskId : TaskId
  snapshot : TaskSnapshot
  scheduler : Option SchedulerTaskView
  deriving DecidableEq

/-- One immutable, internally consistent status view. The queues are an array
indexed by class. -/
structure StatusSnapshotRoot where
  revision : U64
  tasks : OrderedMap Gid AppliedTaskSnapshot
  queues : SchedulerQueues
  changedTasks : Finset Gid
  deriving DecidableEq

def StatusSnapshotRoot.empty : StatusSnapshotRoot where
  revision := 0
  tasks := ∅
  queues := {}
  changedTasks := ∅

inductive StatusSnapshotError where
  | bootstrapRequiresEmptyRoot
  | invalidTaskSnapshot (message : String)
  | snapshotGidMismatch (key snapshot : Gid)
  | duplicateTaskId (taskId : TaskId) (firstGid secondGid : Gid)
  | invalidQueuePosition (queueClass : QueueClass) (position queueLen : ℕ)
  | duplicateQueueEntry (queueClass : QueueClass)
  | duplicateQueueMembership (gid : Gid)
  | queueTaskMissing (queueClass : QueueClass) (gid : Gid)
  | taskQueueMissing (gid : Gid)
  | taskQueueMismatch (gid : Gid) (state : TaskState) (queueClass : QueueClass)
  | staleDraft (expected actual : U64)
  | revisionExhausted
  deriving DecidableEq

structure StatusPublication where
  revision : U64
  changed : Bool
  deriving DecidableEq

structure StatusSnapshotDraft where
  baseRevision : U64
  tasks : OrderedMap Gid AppliedTaskSnapshot
  queues : SchedulerQueues
  dirty : Bool
  changedTasks : Finset Gid

structure StatusSnapshotStore where
  root : StatusSnapshotRoot

def snapshotMatchesQueue (snapshot : TaskSnapshot) (queueClass : QueueClass) : Bool :=
  match snapshot.state with
  | .accepted | .waiting => queueClass = .waiting
  | .waitingSlow => queueClass = .demoted
  | .allocating | .active | .verifying | .seeding => queueClass = .active
  | .retryWait =>
    if snapshot.retryWaitHoldsSlot then queueClass = .active else queueClass = .waiting
  | .paused | .pausedSlow | .pausedHostKey => queueClass = .paused
  | .pausedRestarting => queueClass = .waiting ∨ queueClass = .active
  | .stoppedResult => queueClass = .stopped
  | .complete | .error | .removed => false

namespace StatusSnapshotDraft

def fromRoot (root : StatusSnapshotRoot) : StatusSnapshotDraft where
  baseRevision := root.revision
  tasks := root.tasks
  queues := root.queues
  dirty := false
  changedTasks := ∅

/-- The scheduler metadata of a snapshot describes another task or state. -/
def contradicts (view : SchedulerTaskView) (taskId : TaskId) (snapshot : TaskSnapshot) : Bool :=
  view.taskId ≠ taskId ∨ view.gid ≠ snapshot.gid ∨ view.generation ≠ snapshot.generation ∨
    view.state ≠ snapshot.state

section

variable (draft : StatusSnapshotDraft)

def insertTaskWithView (taskId : TaskId) (snapshot : TaskSnapshot)
    (scheduler : Option SchedulerTaskView) : Except StatusSnapshotError StatusSnapshotDraft := do
  snapshot.validate.mapError .invalidTaskSnapshot
  rejectIf (scheduler.any (contradicts · taskId snapshot))
    (.invalidTaskSnapshot "scheduler metadata does not match applied identity")
  let applied : AppliedTaskSnapshot := ⟨taskId, snapshot, scheduler⟩
  if draft.tasks[snapshot.gid]? = some applied then
    return draft
  else
    return { draft with
      tasks := draft.tasks.insert snapshot.gid applied
      dirty := true
      changedTasks := insert snapshot.gid draft.changedTasks }

def removeTask (taskId : TaskId) (gid : Gid) : StatusSnapshotDraft :=
  if draft.tasks[gid]?.any fun snapshot => snapshot.taskId = taskId then
    { draft with
      tasks := draft.tasks.erase gid
      dirty := true
      changedTasks := insert gid draft.changedTasks }
  else
    draft

section

variable (queueClass : QueueClass)

def replaceQueue (order : List Gid) : Except StatusSnapshotError StatusSnapshotDraft := do
  rejectIf (¬order.Nodup) (.duplicateQueueEntry queueClass)
  if draft.queues.get queueClass = order then
    return draft
  else
    return { draft with queues := draft.queues.set queueClass order, dirty := true }

def insertQueueMember (position : ℕ) (gid : Gid) :
    Except StatusSnapshotError StatusSnapshotDraft := do
  rejectIf (allQueueClasses.any fun queueClass => (draft.queues.get queueClass).contains gid)
    (.duplicateQueueMembership gid)
  let order := draft.queues.get queueClass
  rejectIf (order.length < position) (.invalidQueuePosition queueClass position order.length)
  draft.replaceQueue queueClass (order.insertIdx position gid)

/-- One queue entry of the validation: it is the first of its task, and its task exists. -/
def validateMember (memberships : OrderedMap Gid QueueClass) (gid : Gid) :
    Except StatusSnapshotError (OrderedMap Gid QueueClass) := do
  rejectIf (memberships.contains gid) (.duplicateQueueMembership gid)
  rejectIf (!draft.tasks.contains gid) (.queueTaskMissing queueClass gid)
  return memberships.insert gid queueClass

end

/-- The queue of every task, read off the queues in their fixed order. -/
def validateQueues : Except StatusSnapshotError (OrderedMap Gid QueueClass) :=
  allQueueClasses.foldlM (fun memberships queueClass =>
    (draft.queues.get queueClass).foldlM (draft.validateMember queueClass) memberships) ∅

end

def validateTask (memberships : OrderedMap Gid QueueClass) (taskIds : OrderedMap TaskId Gid)
    (entry : Gid × AppliedTaskSnapshot) : Except StatusSnapshotError (OrderedMap TaskId Gid) := do
  let (gid, task) := entry
  rejectIf (task.snapshot.gid ≠ gid) (.snapshotGidMismatch gid task.snapshot.gid)
  task.snapshot.validate.mapError .invalidTaskSnapshot
  match taskIds[task.taskId]? with
  | some firstGid => throw (.duplicateTaskId task.taskId firstGid gid)
  | none =>
    match memberships[gid]? with
    | none => throw (.taskQueueMissing gid)
    | some queueClass =>
      rejectIf (!snapshotMatchesQueue task.snapshot queueClass)
        (.taskQueueMismatch gid task.snapshot.state queueClass)
      return taskIds.insert task.taskId gid

def validate (draft : StatusSnapshotDraft) : Except StatusSnapshotError Unit := do
  let memberships ← draft.validateQueues
  let _ ← draft.tasks.toList.foldlM (validateTask memberships) ∅

end StatusSnapshotDraft

namespace StatusSnapshotStore

def new : StatusSnapshotStore := ⟨.empty⟩

variable (store : StatusSnapshotStore)

def draft : StatusSnapshotDraft := .fromRoot store.root

def recoveredDraft (scheduler : RequestScheduler) :
    Except StatusSnapshotError StatusSnapshotDraft := do
  rejectIf (store.root.revision ≠ 0 ∨ !store.root.tasks.isEmpty) .bootstrapRequiresEmptyRoot
  allQueueClasses.foldlM (fun draft queueClass =>
    draft.replaceQueue queueClass (scheduler.queues.get queueClass)) store.draft

/-- Replaces the root by a valid draft of the current revision, if the draft changed anything. -/
def publish (draft : StatusSnapshotDraft) :
    Except StatusSnapshotError (StatusPublication × StatusSnapshotStore) := do
  draft.validate
  rejectIf (draft.baseRevision ≠ store.root.revision)
    (.staleDraft draft.baseRevision store.root.revision)
  if !draft.dirty then
    return (⟨store.root.revision, false⟩, store)
  else
    match checkedSucc store.root.revision with
    | none => throw .revisionExhausted
    | some revision =>
      return (⟨revision, true⟩, ⟨⟨revision, draft.tasks, draft.queues, draft.changedTasks⟩⟩)

end StatusSnapshotStore

end Ariax
