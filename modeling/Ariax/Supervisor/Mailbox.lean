import Ariax.Core.Command
import Ariax.Lib.OrderedMap

/-!
# The runtime mailbox

The queues of `runtime_effects.rs` between the scheduler's effect sink and
the supervisor of its workers: requests travel one way, events the other. A
request is a move-only authority; taking it from its queue and turning it
into an event spends it. The model numbers accepted requests and lets every
submission carry the number of the request it spends. Timers and no-space
probes have queues of their own; only the number of waiting probes is kept,
since it counts towards the capacity.
-/

namespace Ariax

structure RuntimeIdentity where
  taskId : TaskId
  gid : Gid
  generation : Generation
  deriving DecidableEq

structure RuntimeEventSubmission where
  event : TaskEventEnvelope
  ticket : ℕ
  deriving DecidableEq

/-- The event of an identity that spends a request. -/
def RuntimeIdentity.submission (identity : RuntimeIdentity) (ticket : ℕ) (body : TaskEventBody) :
    RuntimeEventSubmission :=
  ⟨⟨identity.taskId, ⟨identity.gid, identity.generation, body⟩⟩, ticket⟩

def RuntimeEventSubmission.identity (submission : RuntimeEventSubmission) : RuntimeIdentity :=
  ⟨submission.event.taskId, submission.event.event.gid, submission.event.event.generation⟩

def RuntimeEventSubmission.body (submission : RuntimeEventSubmission) : TaskEventBody :=
  submission.event.event.body

@[simp] theorem RuntimeIdentity.body_submission (identity : RuntimeIdentity) (ticket : ℕ)
    (body : TaskEventBody) : (identity.submission ticket body).body = body := rfl

structure AllocationRequest where
  identity : RuntimeIdentity
  ticket : ℕ

/-- The authority for one active transfer generation, made from its allocation. -/
structure ActiveTransferRequest where
  identity : RuntimeIdentity
  ticket : ℕ

structure VerifyingTransferRequest where
  identity : RuntimeIdentity
  ticket : ℕ

structure CancellationRequest where
  identity : RuntimeIdentity
  force : Bool
  ticket : ℕ

namespace AllocationRequest

variable (request : AllocationRequest)

def activate : RuntimeEventSubmission × ActiveTransferRequest :=
  (request.identity.submission request.ticket .allocationSucceeded,
    ⟨request.identity, request.ticket⟩)

def retryable (retryAt : MonotonicInstant) : RuntimeEventSubmission :=
  request.identity.submission request.ticket (.allocationRetryable retryAt)

def failed (error : PublicError) : RuntimeEventSubmission :=
  request.identity.submission request.ticket (.allocationFailed error)

end AllocationRequest

namespace ActiveTransferRequest

variable (request : ActiveTransferRequest)

def hostKeyChallenge (challenge : PresentedHostKeyChallenge) : RuntimeEventSubmission :=
  request.identity.submission request.ticket (.activeHostKeyChallenge challenge)

def retryable (retryAt : MonotonicInstant) : RuntimeEventSubmission :=
  request.identity.submission request.ticket (.activeRetryIdle retryAt)

def restartRepresentation : RuntimeEventSubmission :=
  request.identity.submission request.ticket .activeRepresentationRestart

def failed (error : PublicError) : RuntimeEventSubmission :=
  request.identity.submission request.ticket (.terminalFailure error)

def dataComplete (seed : Bool) : RuntimeEventSubmission × VerifyingTransferRequest :=
  (request.identity.submission request.ticket (.dataComplete seed),
    ⟨request.identity, request.ticket⟩)

end ActiveTransferRequest

def VerifyingTransferRequest.succeeded (request : VerifyingTransferRequest) :
    RuntimeEventSubmission :=
  request.identity.submission request.ticket .verificationSucceeded

def CancellationRequest.drained (request : CancellationRequest) : RuntimeEventSubmission :=
  request.identity.submission request.ticket .cancellationDrained

structure RuntimeMailbox where
  closed : Bool
  btTasks : List TaskId
  requestCapacity : ℕ
  eventCapacity : ℕ
  allocations : List AllocationRequest
  cancellations : List CancellationRequest
  probes : ℕ
  events : List TaskEventEnvelope
  nextTicket : ℕ

inductive RuntimeEventSubmitError where
  | full
  | closed
  deriving DecidableEq

namespace RuntimeMailbox

variable (mailbox : RuntimeMailbox)

def requestCount : ℕ :=
  mailbox.allocations.length + mailbox.cancellations.length + mailbox.probes

def accepts : Bool := !mailbox.closed && mailbox.requestCount ≠ mailbox.requestCapacity

/-- `StartAllocation` as the sink puts it into the mailbox. -/
def acceptAllocation (identity : RuntimeIdentity) : RuntimeMailbox :=
  { mailbox with
    allocations := mailbox.allocations ++ [⟨identity, mailbox.nextTicket⟩]
    nextTicket := mailbox.nextTicket + 1 }

/-- `CancelGeneration` as the sink puts it into the mailbox. -/
def acceptCancellation (identity : RuntimeIdentity) (force : Bool) : RuntimeMailbox :=
  { mailbox with
    cancellations := mailbox.cancellations ++ [⟨identity, force, mailbox.nextTicket⟩]
    nextTicket := mailbox.nextTicket + 1 }

/-- The first element that satisfies a condition, and the others. -/
def extract {α : Type} (p : α → Bool) : List α → Option (α × List α)
  | [] => none
  | a :: rest =>
    if p a then some (a, rest)
    else (extract p rest).map fun found => (found.1, a :: found.2)

/-- The oldest allocation that is not for a BitTorrent task. -/
def takeAllocation : Option (AllocationRequest × RuntimeMailbox) :=
  (extract (fun request => !mailbox.btTasks.contains request.identity.taskId)
    mailbox.allocations).map fun found => (found.1, { mailbox with allocations := found.2 })

/-- The oldest cancellation that is not for a BitTorrent task. -/
def takeCancellation : Option (CancellationRequest × RuntimeMailbox) :=
  (extract (fun request => !mailbox.btTasks.contains request.identity.taskId)
    mailbox.cancellations).map fun found => (found.1, { mailbox with cancellations := found.2 })

def trySubmitEvent (submission : RuntimeEventSubmission) :
    Except RuntimeEventSubmitError RuntimeMailbox :=
  if mailbox.closed then .error .closed
  else if mailbox.events.length = mailbox.eventCapacity then .error .full
  else .ok { mailbox with events := mailbox.events ++ [submission.event] }

theorem extract_eq_some {α : Type} {p : α → Bool} {l rest : List α} {a : α}
    (found : extract p l = some (a, rest)) :
    ∃ before after, l = before ++ a :: after ∧ rest = before ++ after := by
  induction l generalizing rest with
  | nil => cases found
  | cons b _ ih =>
    rw [extract] at found
    split at found
    · cases found
      exact ⟨[], _, rfl, rfl⟩
    · obtain ⟨⟨c, others⟩, inner, same⟩ := Option.map_eq_some_iff.mp found
      cases same
      obtain ⟨before, after, rfl, rfl⟩ := ih inner
      exact ⟨b :: before, after, rfl, rfl⟩

end RuntimeMailbox

end Ariax
