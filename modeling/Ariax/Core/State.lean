import Ariax.Core.Identity
import Ariax.Lib.Except

/-!
# Task states, admission conditions and status snapshots

The closed vocabularies of `state.rs`, the projection of an internal state
onto the aria2 wire status, and the publication checks of `snapshot.rs`.
-/

namespace Ariax

inductive TaskState where
  | accepted
  | waiting
  | waitingSlow
  | allocating
  | active
  | retryWait
  | paused
  | pausedSlow
  | pausedHostKey
  | pausedRestarting
  | verifying
  | seeding
  | complete
  | error
  | removed
  | stoppedResult
  deriving DecidableEq

namespace TaskState

def isTerminal : TaskState → Bool
  | complete | error | removed | stoppedResult => true
  | _ => false

def isTerminalPending : TaskState → Bool
  | complete | error | removed => true
  | _ => false

def isRetainedResult : TaskState → Bool
  | stoppedResult => true
  | _ => false

end TaskState

inductive Aria2Status where
  | active
  | waiting
  | paused
  | error
  | complete
  | removed
  deriving DecidableEq

namespace Aria2Status

def isTerminal : Aria2Status → Bool
  | error | complete | removed => true
  | _ => false

end Aria2Status

/-! ## Admission conditions -/

inductive CredentialKind where
  | sourceUri
  | httpAuthentication
  | proxyAuthentication
  | ftpAuthentication
  | sftpAuthentication
  | privateKeyPassphrase
  deriving DecidableEq

structure CredentialRequirementKey where
  kind : CredentialKind
  source : Option UriId
  deriving DecidableEq

def maxConditionDescriptionBytes : ℕ := 4096

def maxRedactedPathBytes : ℕ := 4096

inductive TaskConditionsError where
  | credentialDescriptionTooLong
  | redactedPathTooLong
  deriving DecidableEq

structure CredentialRequirement where
  kind : CredentialKind
  source : Option UriId
  safeDescription : String
  deriving DecidableEq

namespace CredentialRequirement

def key (requirement : CredentialRequirement) : CredentialRequirementKey where
  kind := requirement.kind
  source := requirement.source

def validate (requirement : CredentialRequirement) : Except TaskConditionsError Unit :=
  if maxConditionDescriptionBytes < requirement.safeDescription.utf8ByteSize then
    .error .credentialDescriptionTooLong
  else
    .ok ()

end CredentialRequirement

structure NoSpaceCondition where
  redactedPath : String
  retryAt : Option MonotonicInstant
  deriving DecidableEq

namespace NoSpaceCondition

def validate (condition : NoSpaceCondition) : Except TaskConditionsError Unit :=
  if maxRedactedPathBytes < condition.redactedPath.utf8ByteSize then
    .error .redactedPathTooLong
  else
    .ok ()

end NoSpaceCondition

structure TaskConditionsSnapshot where
  needsCredentials : Bool := false
  noSpace : Bool := false
  deriving DecidableEq

/-- Recoverable admission blockers orthogonal to task state. -/
structure TaskConditions where
  needsCredentials : Option CredentialRequirement := none
  noSpace : Option NoSpaceCondition := none
  deriving DecidableEq

namespace TaskConditions

section

variable (conditions : TaskConditions)

def blocksAdmission : Bool :=
  conditions.needsCredentials.isSome || conditions.noSpace.isSome

def snapshot : TaskConditionsSnapshot where
  needsCredentials := conditions.needsCredentials.isSome
  noSpace := conditions.noSpace.isSome

def validate : Except TaskConditionsError Unit := do
  if let some requirement := conditions.needsCredentials then
    requirement.validate
  if let some condition := conditions.noSpace then
    condition.validate

end

theorem blocksAdmission_eq_false {conditions : TaskConditions} :
    conditions.blocksAdmission = false ↔
      conditions.needsCredentials = none ∧ conditions.noSpace = none := by
  simp [blocksAdmission]

end TaskConditions

/-! ## Wire projection -/

inductive WireProjectionError where
  | invalidConditionState
  | terminalNotPersisted
  | terminalPendingRetention
  | missingStoppedStatus
  | invalidStoppedStatus
  deriving DecidableEq

structure WireProjection where
  conditions : TaskConditionsSnapshot
  desiredPaused : Bool
  retryWaitHoldsSlot : Bool
  stoppedStatus : Option Aria2Status
  terminalPersisted : Bool
  deriving DecidableEq

namespace TaskState

def retainsConditions : TaskState → Bool
  | waiting | waitingSlow | retryWait | paused | pausedSlow => true
  | _ => false

end TaskState

namespace WireProjection

variable (projection : WireProjection)

/-- The terminal status a state shows, before its persistence is checked. -/
def terminalStatus : TaskState → Except WireProjectionError (Option Aria2Status)
  | .complete => .ok (some .complete)
  | .error => .ok (some .error)
  | .removed => .ok (some .removed)
  | .stoppedResult =>
    match projection.stoppedStatus with
    | none => .error .missingStoppedStatus
    | some status =>
      if status.isTerminal then .ok (some status) else .error .invalidStoppedStatus
  | _ => .ok none

/-- The status of a state that is neither terminal nor blocked. -/
def liveStatus : TaskState → Aria2Status
  | .active | .verifying | .seeding => .active
  | .retryWait => if projection.retryWaitHoldsSlot then .active else .waiting
  | .paused | .pausedSlow | .pausedHostKey => .paused
  -- accepted, waiting, waiting-slow, allocating and restarting tasks; terminal
  -- states never get here
  | _ => .waiting

def project (state : TaskState) : Except WireProjectionError Aria2Status := do
  rejectIf ((projection.conditions.noSpace || projection.conditions.needsCredentials) &&
      !state.retainsConditions)
    .invalidConditionState
  match ← projection.terminalStatus state with
  | some status =>
    rejectIf (!projection.terminalPersisted) .terminalNotPersisted
    return status
  | none =>
    if projection.conditions.noSpace then
      return .paused
    if projection.conditions.needsCredentials then
      return if projection.desiredPaused then .paused else .waiting
    return projection.liveStatus state

end WireProjection

/-! ## Status snapshots -/

structure HostKeyChallenge where
  id : HostKeyChallengeId
  canonicalHost : String
  port : UInt16
  algorithm : String
  fingerprintSha256 : HostKeyFingerprint
  deriving DecidableEq

/-- Exact key material paired with the non-secret challenge summary. The
digest relating the two is computed outside the scheduler and never read by it. -/
structure PresentedHostKeyChallenge where
  summary : HostKeyChallenge
  presentedPublicKey : List UInt8
  deriving DecidableEq

structure TaskSnapshot where
  gid : Gid
  state : TaskState
  generation : Generation
  totalLength : Option U64
  completedLength : U64
  durableLength : U64
  currentSpeed : U64
  averageSpeed : U64
  activeLeases : U32
  retryWaitLeases : U32
  retryWaitUntil : Option MonotonicInstant
  lastProgressAt : Option MonotonicInstant
  conditions : TaskConditionsSnapshot
  desiredPaused : Bool
  retryWaitHoldsSlot : Bool
  stoppedStatus : Option Aria2Status
  hostKeyChallenge : Option HostKeyChallenge
  error : Option PublicError
  terminalPersisted : Bool
  deriving DecidableEq

namespace TaskSnapshot

variable (snapshot : TaskSnapshot)

def wireProjection : WireProjection where
  conditions := snapshot.conditions
  desiredPaused := snapshot.desiredPaused
  retryWaitHoldsSlot := snapshot.retryWaitHoldsSlot
  stoppedStatus := snapshot.stoppedStatus
  terminalPersisted := snapshot.terminalPersisted

def wireStatus : Except WireProjectionError Aria2Status := do
  let status ← snapshot.wireProjection.project snapshot.state
  rejectIf snapshot.state.isTerminalPending .terminalPendingRetention
  return status

def validate : Except String Unit := do
  rejectIf (snapshot.completedLength < snapshot.durableLength)
    "durable length exceeds completed length"
  rejectIf (snapshot.totalLength.any fun totalLength => totalLength < snapshot.completedLength)
    "completed length exceeds total length"
  rejectIf (snapshot.state = .pausedHostKey ∧ snapshot.hostKeyChallenge.isNone)
    "paused host-key state has no challenge"
  rejectIf (snapshot.state ≠ .pausedHostKey ∧ snapshot.hostKeyChallenge.isSome)
    "host-key challenge is visible outside paused host-key state"
  rejectIf ((snapshot.state = .error ∨
      (snapshot.state = .stoppedResult ∧ snapshot.stoppedStatus = some .error)) ∧
      snapshot.error.isNone)
    "error terminal result has no public error"
  rejectIf (snapshot.state ≠ .stoppedResult ∧ snapshot.stoppedStatus.isSome)
    "retained terminal status is visible outside stopped-result state"
  rejectIf snapshot.state.isTerminalPending
    (if snapshot.terminalPersisted then
      "terminal-pending snapshot must be retained before publication"
    else
      "terminal snapshot is not persistence-acknowledged")
  rejectIf (snapshot.state.isRetainedResult ≠ snapshot.terminalPersisted)
    (if snapshot.state.isRetainedResult then
      "stopped-result snapshot is not persistence-acknowledged"
    else
      "nonterminal snapshot claims terminal persistence")
  match snapshot.wireStatus with
  | .error _ => throw "snapshot state cannot be projected to a wire status"
  | .ok _ => return ()

end TaskSnapshot

end Ariax
