import Ariax.Lib.Ledger
import Ariax.Supervisor.Moves

/-!
# Requests are spent once

The number of a request is in one place at a time: in its queue, with the
worker that it started or that it told to stop, or in the one event that
spends it. The components of the supervisor in which a number can be are the
arguments of the invariant, so that a move has to say only which of them it
changes.
-/

namespace Ariax

open List

/-- The events that report what a worker did. -/
def TaskEventKind.isResult : TaskEventKind → Bool
  | activeHostKeyChallenge | activeRetryIdle | activeRepresentationRestart | dataComplete
  | bitTorrentPayloadComplete | terminalFailure | verificationSucceeded => true
  | _ => false

/-- The results after which nothing more is reported of a worker. -/
def TaskEventKind.isOutcome : TaskEventKind → Bool
  | activeHostKeyChallenge | activeRetryIdle | activeRepresentationRestart | terminalFailure
  | verificationSucceeded => true
  | _ => false

theorem TaskEventKind.isResult_of_isOutcome {kind : TaskEventKind} (h : kind.isOutcome = true) :
    kind.isResult = true := by
  cases kind <;> first | rfl | cases h

namespace RuntimeEventSubmission

variable (submission : RuntimeEventSubmission)

def kind : TaskEventKind := submission.body.kind

def isDrained : Bool := submission.kind = .cancellationDrained

def isOutcome : Bool := submission.kind.isOutcome

def isResult : Bool := submission.kind.isResult

def isSucceeded : Bool := submission.kind = .allocationSucceeded

theorem isDrained_eq_false_of_isResult {submission : RuntimeEventSubmission}
    (result : submission.isResult = true) : submission.isDrained = false := by
  unfold isResult at result
  unfold isDrained
  cases h : submission.kind <;> rw [h] at result <;> first | rfl | cases result

end RuntimeEventSubmission

namespace HttpWorkerSupervisor

/-- The requests that were drained in a list of events. -/
def drainTickets (events : List RuntimeEventSubmission) : List ℕ :=
  (events.filter (·.isDrained)).map (·.ticket)

/-- The requests whose workers had their outcome in a list of events. -/
def outcomeTickets (events : List RuntimeEventSubmission) : List ℕ :=
  (events.filter (·.isOutcome)).map (·.ticket)

theorem drainTickets_append (first second : List RuntimeEventSubmission) :
    drainTickets (first ++ second) = drainTickets first ++ drainTickets second := by
  simp [drainTickets]

theorem outcomeTickets_append (first second : List RuntimeEventSubmission) :
    outcomeTickets (first ++ second) = outcomeTickets first ++ outcomeTickets second := by
  simp [outcomeTickets]

/-- The request that started the worker of a task. -/
def Started (active : OrderedMap TaskId ActiveWorker) (task : TaskId) (ticket : ℕ) : Prop :=
  ∃ worker, active[task]? = some worker ∧ worker.authority.ticket = ticket

/-- The request that the worker of a task was told to stop by. -/
def Stopping (active : OrderedMap TaskId ActiveWorker) (task : TaskId) (ticket : ℕ) : Prop :=
  ∃ worker request, active[task]? = some worker ∧ worker.cancellationRequest = some request ∧
    request.ticket = ticket

/-- Workers are found under their tasks, with what belongs to their generation. -/
def Own (active : OrderedMap TaskId ActiveWorker) : Prop :=
  ∀ (task : TaskId) (worker : ActiveWorker), active[task]? = some worker →
    worker.identity.taskId = task ∧ worker.authority.identity = worker.identity ∧
      ∀ request, worker.cancellationRequest = some request → request.identity = worker.identity

structure Tickets (allocations : List AllocationRequest) (cancellations : List CancellationRequest)
    (active : OrderedMap TaskId ActiveWorker) (events : List RuntimeEventSubmission) (next : ℕ) :
    Prop where
  starts : Ledger (allocations.map (·.ticket)) (outcomeTickets events) (Started active) next
  stops : Ledger (cancellations.map (·.ticket)) (drainTickets events) (Stopping active) next
  own : Own active
  events_lt : ∀ event ∈ events, event.ticket < next

namespace Tickets

variable {allocations : List AllocationRequest} {cancellations : List CancellationRequest}
  {active : OrderedMap TaskId ActiveWorker} {events : List RuntimeEventSubmission}
  {next : ℕ} (tickets : Tickets allocations cancellations active events next)
include tickets

theorem spent_lt {p : RuntimeEventSubmission → Bool} :
    ∀ ticket ∈ (events.filter p).map (·.ticket), ticket < next :=
  forall_mem_map.mpr fun event member => tickets.events_lt event (mem_filter.mp member).1

theorem enterAllocation (identity : RuntimeIdentity) :
    Tickets (allocations ++ [⟨identity, next⟩]) cancellations active events (next + 1) := by
  refine ⟨?_, tickets.stops.succ, tickets.own, fun event member =>
    Nat.lt_succ_of_lt (tickets.events_lt event member)⟩
  rw [map_append]
  exact tickets.starts.enter tickets.spent_lt

theorem enterCancellation (identity : RuntimeIdentity) (force : Bool) :
    Tickets allocations (cancellations ++ [⟨identity, force, next⟩]) active events (next + 1) := by
  refine ⟨tickets.starts.succ, ?_, tickets.own, fun event member =>
    Nat.lt_succ_of_lt (tickets.events_lt event member)⟩
  rw [map_append]
  exact tickets.stops.enter tickets.spent_lt

end Tickets

end HttpWorkerSupervisor

end Ariax
