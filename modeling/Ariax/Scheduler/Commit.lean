import Ariax.Scheduler.Task

/-!
# The atomic commit of one scheduler action

Every handler of `scheduler.rs` computes an updated task from a clone and
then tail-calls `finish_action`, the only function that writes the
scheduler's tasks and queues. The arguments of that call are the record
`FinishCall`; a handler is a pure function producing one, and
`RequestScheduler.finishAction` checks it and performs the writes.
-/

namespace Ariax

structure RequestScheduler where
  config : SchedulerConfig
  tasks : OrderedMap Gid ScheduledTask
  taskIds : OrderedMap TaskId Gid
  highestTaskId : Option TaskId
  queues : SchedulerQueues
  publishedSnapshots : OrderedMap Gid TaskSnapshot
  ids : IdCounters
  deriving DecidableEq

structure FinishCall where
  original : ScheduledTask
  updated : Option ScheduledTask
  originalPresent : Bool
  action : SchedulerAction
  instant : MonotonicInstant
  effects : List TransitionEffect
  publish : Bool
  ids : IdCounters

/-- How a handler ends: with an outcome of its own, or in `finish_action`. -/
inductive Planned where
  | reply (outcome : SchedulerOutcome)
  | finish (call : FinishCall)

/-- The result of a `&mut self` operation, with the scheduler it leaves behind. -/
abbrev SchedulerResult := Except SchedulerError SchedulerOutcome × RequestScheduler

abbrev QueueUpdate := QueueOrder

namespace ScheduledTask

variable (task : ScheduledTask)

def rejectPending (operation : String) : Except SchedulerError Unit :=
  match task.pendingBarrier with
  | some barrier => .error (.pendingBarrier barrier operation)
  | none => .ok ()

/-- The state an action leads to, or `none` when it deletes the task. -/
def targetForAction (action : SchedulerAction) : Except SchedulerError (Option TaskState) :=
  let contract := transitionContract task.state action
  match contract.kind with
  | .transition | .stay =>
    match contract.targets.head? with
    | some target => .ok (some target)
    | none => .error .internalInvariant
  | .delete => .ok none
  | .noOp | .ignore => .ok (some task.state)
  | .conditional => .error .shutdownBatchRequired
  | .conflict =>
    match contract.rejection with
    | some .hostKeyApprovalRequired => .error .hostKeyApprovalRequired
    | some .conflict | none => .error (.conflict task.state action.code)

def targetState (action : SchedulerAction) : Except SchedulerError TaskState := do
  match ← task.targetForAction action with
  | some target => return target
  | none => throw .internalInvariant

end ScheduledTask

namespace RequestScheduler

variable (self : RequestScheduler)

def taskClone (gid : Gid) : Except SchedulerError ScheduledTask :=
  match self.tasks[gid]? with
  | some task => .ok task
  | none => .error .taskNotFound

def pendingStoppedDeletion : Option PendingBarrier :=
  self.tasks.valuesInOrder.findSome? fun task =>
    match task.pendingBarrier with
    | some (.stoppedResultDeletion generation deletionId) =>
      some (.stoppedResultDeletion generation deletionId)
    | _ => none

def activeSlotCount : ℕ :=
  self.tasks.valuesInOrder.countP fun task => task.slot.ownsSlot

def memberships (gid : Gid) : List QueueClass :=
  allQueueClasses.filter fun queueClass => gid ∈ self.queues.get queueClass

def removedFrom (gid : Gid) (queueClass : QueueClass) : Except SchedulerError QueueUpdate :=
  match (self.queues.get queueClass).idxOf? gid with
  | none => .error .internalInvariant
  | some position => .ok ⟨queueClass, (self.queues.get queueClass).eraseIdx position⟩

def appendedTo (gid : Gid) (queueClass : QueueClass) : Except SchedulerError QueueUpdate :=
  if gid ∈ self.queues.get queueClass then
    .error .internalInvariant
  else
    .ok ⟨queueClass, self.queues.get queueClass ++ [gid]⟩

/-- The queue orders to write when a task changes class, after checking that
it is a member of exactly the class it is said to come from. -/
def queueUpdates (gid : Gid) (oldClass newClass : Option QueueClass) :
    Except SchedulerError (List QueueUpdate) := do
  rejectIf (self.memberships gid ≠ oldClass.toList) .internalInvariant
  if oldClass = newClass then
    return []
  else
    let removed ← oldClass.toList.mapM (self.removedFrom gid)
    -- the source also covers an unchanged class here, which the test above excludes
    let appended ← newClass.toList.mapM (self.appendedTo gid)
    return removed ++ appended

end RequestScheduler

/-- Moves a freshly appended GID of one queue update to its requested position. -/
def placeInUpdate (gid : Gid) (queue : QueueClass) (position : ℕ) :
    List QueueUpdate → Except SchedulerError (List QueueUpdate)
  | [] => .error .internalInvariant
  | update :: rest =>
    if update.queueClass = queue then
      if update.order.getLast? ≠ some gid ∨ update.order.dropLast.length < position then
        .error .internalInvariant
      else
        .ok ({ update with order := update.order.dropLast.insertIdx position gid } :: rest)
    else do
      return update :: (← placeInUpdate gid queue position rest)

namespace FinishCall

variable (call : FinishCall)

def oldClass : Option QueueClass :=
  if call.originalPresent then call.original.queueClass else none

def newClass : Option QueueClass :=
  call.updated.bind ScheduledTask.queueClass

/-- For an added task, every `PersistTask` effect places it in its queue. -/
def placeAdded (updates : List QueueUpdate) : Except SchedulerError (List QueueUpdate) :=
  if call.originalPresent then
    .ok updates
  else
    call.effects.foldlM (fun updates effect =>
      match effect with
      | .persistTask _ _ queue position _ _ _ =>
        placeInUpdate call.original.gid queue position updates
      | _ => .ok updates) updates

def desiredPaused : Bool :=
  match call.updated with
  | some task => task.desiredPaused
  | none => call.original.desiredPaused

def slowDemotionCount : U32 :=
  match call.updated with
  | some task => task.slowDemotionCount
  | none => call.original.slowDemotionCount

def slowSlot : Option SlowSlotPersistence :=
  call.updated.bind ScheduledTask.slowSlot

def desiredChanged : Bool :=
  match call.updated with
  | some task => task.desiredPaused ≠ call.original.desiredPaused
  | none => false

def slowChanged : Bool :=
  match call.updated with
  | some task =>
    task.slowDemotionCount ≠ call.original.slowDemotionCount ∨
      task.slowSlot ≠ call.original.slowSlot
  | none => false

def terminalPersistence : Option (Generation × Aria2Status × Option PublicError) :=
  match call.updated with
  | none => none
  | some task =>
    match task.pendingBarrier with
    | some (.terminalPersistence generation status) =>
      if call.original.pendingBarrier ≠ task.pendingBarrier then
        some (generation, status, task.error)
      else
        none
    | _ => none

/-- The actions whose queue effect precedes their other effects. -/
def queueEffectFirst : Bool :=
  match call.action with
  | .explicitNoSpaceProbeRequested | .hostKeyChallengeRequired
  | .activeHostKeyChallengeRequired => true
  | _ => false

def persistenceEffects (queues : SchedulerQueues) (updates : List QueueUpdate) :
    Except SchedulerError (List TransitionEffect) :=
  match call.terminalPersistence with
  | some (generation, status, error) =>
    match call.oldClass, call.newClass with
    | some fromClass, some toClass =>
      if toClass ≠ .stopped ∨ updates = [] then
        .error .internalInvariant
      else
        .ok (call.effects ++ [.persistTerminal call.original.taskId call.original.gid
          generation status error fromClass toClass call.desiredPaused
          call.slowDemotionCount call.slowSlot updates])
    | _, _ => .error .internalInvariant
  | none =>
    if call.originalPresent ∧ call.updated.isSome ∧
        (updates ≠ [] ∨ call.desiredChanged ∨ call.slowChanged) then do
      let orders ← match updates with
        | [] =>
          match call.oldClass with
          | some queueClass =>
            if call.newClass = some queueClass then
              .ok [⟨queueClass, queues.get queueClass⟩]
            else
              .error .internalInvariant
          | none => .error .internalInvariant
        | updates => .ok updates
      let queueEffect := TransitionEffect.persistQueueTransition call.original.taskId
        call.original.gid call.oldClass call.newClass call.desiredPaused
        call.slowDemotionCount call.slowSlot orders
      if call.queueEffectFirst then
        return queueEffect :: call.effects
      else
        return call.effects ++ [queueEffect]
    else
      .ok call.effects

def publishedSnapshot (retryWaitHoldsSlot : Bool) : Except SchedulerError (Option TaskSnapshot) :=
  if call.publish then
    match call.updated with
    | none => .error .internalInvariant
    | some task => do return some (← task.snapshot retryWaitHoldsSlot)
  else
    .ok none

def rejectUnaccepted : Except SchedulerError Unit :=
  if (transitionContract call.original.state call.action).accepts then
    .ok ()
  else do
    let _ ← call.original.targetForAction call.action
    throw .internalInvariant

/-- The transition or deletion a call reports, checked against its contract. -/
def changeRecord : Except SchedulerError (Option StateTransition × Option TaskDeletion) :=
  let contract := transitionContract call.original.state call.action
  match contract.kind with
  | .transition | .stay =>
    match call.updated with
    | none => .error .internalInvariant
    | some task =>
      if task.state ∈ contract.targets then
        .ok (some {
          task := task.taskId
          gid := task.gid
          generation := task.generation
          fromState := call.original.state
          toState := task.state
          reason := contract.reason
          instant := call.instant }, none)
      else
        .error .internalInvariant
  | .delete =>
    match call.updated with
    | some _ => .error .internalInvariant
    | none =>
      .ok (none, some {
        task := call.original.taskId
        gid := call.original.gid
        generation := call.original.generation
        fromState := call.original.state
        reason := contract.reason
        instant := call.instant })
  | .noOp | .ignore => .error .internalInvariant
  | .conditional => .error .shutdownBatchRequired
  | .conflict => .error .internalInvariant

end FinishCall

structure CommitPlan where
  outcome : SchedulerOutcome
  updates : List QueueUpdate
  snapshot : Option TaskSnapshot

namespace RequestScheduler

variable (self : RequestScheduler)

def rejectPendingDeletion (operation : String) : Except SchedulerError Unit :=
  match self.pendingStoppedDeletion with
  | some barrier => .error (.pendingBarrier barrier operation)
  | none => .ok ()

def rejectStoppedMutation (action : SchedulerAction) (updates : List QueueUpdate) :
    Except SchedulerError Unit :=
  if action ≠ .stoppedResultDeletionSucceeded ∧
      updates.any (fun update => update.queueClass = .stopped) then
    self.rejectPendingDeletion action.code
  else
    .ok ()

/-- The fallible part of `finish_action`: everything before its first write. -/
def commitPlan (call : FinishCall) : Except SchedulerError CommitPlan := do
  call.rejectUnaccepted
  let updates ← self.queueUpdates call.original.gid call.oldClass call.newClass
  let updates ← call.placeAdded updates
  self.rejectStoppedMutation call.action updates
  let effects ← call.persistenceEffects self.queues updates
  let snapshot ← call.publishedSnapshot self.config.retryWaitHoldsSlot
  let published := match snapshot with
    | some snapshot => [TransitionEffect.publishSnapshot call.original.taskId snapshot]
    | none => []
  let (transition, deletion) ← call.changeRecord
  let outcome ← SchedulerOutcome.checked transition deletion (effects ++ published)
  return { outcome, updates, snapshot }

/-- The writes of `finish_action`, in the source's order. -/
def commit (call : FinishCall) (plan : CommitPlan) : RequestScheduler :=
  let self := { self with queues := self.queues.setAll plan.updates }
  let self := match call.updated with
    | some task =>
      { self with
        taskIds := self.taskIds.insert task.taskId task.gid
        tasks := self.tasks.insert task.gid task }
    | none =>
      { self with
        tasks := self.tasks.erase call.original.gid
        taskIds := self.taskIds.erase call.original.taskId
        publishedSnapshots := self.publishedSnapshots.erase call.original.gid }
  let self := match plan.snapshot with
    | some snapshot =>
      { self with
        publishedSnapshots := self.publishedSnapshots.insert call.original.gid snapshot }
    | none => self
  { self with ids := call.ids }

def finishAction (call : FinishCall) : SchedulerResult :=
  match self.commitPlan call with
  | .error error => (.error error, self)
  | .ok plan => (.ok plan.outcome, self.commit call plan)

def perform (plan : Except SchedulerError Planned) : SchedulerResult :=
  match plan with
  | .error error => (.error error, self)
  | .ok (.reply outcome) => (.ok outcome, self)
  | .ok (.finish call) => self.finishAction call

end RequestScheduler

end Ariax
