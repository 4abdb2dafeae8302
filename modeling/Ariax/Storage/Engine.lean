import Ariax.ChunkHash.Coordinator

/-!
# The storage engine

The state of `storage_engine.rs`: the leases that are being written, the
overlap groups of two leases of one span, the leases that were ever opened,
and the coordinator that verifies chunks once a manifest is installed. The
engine also keeps here what leaves it, the records appended to the journal
and the bytes put into the files, each with the lease it was written for, and
the overlap groups that were ever registered.
How an operation on the journal or a file ends is for the medium to say; how
a disk write or a processor job ends is part of the call it belongs to. A
call whose future is dropped keeps what it wrote before.
-/

namespace Ariax

inductive WriteReject where
  | taskMismatch
  | generationMismatch
  | unknownLease
  | duplicateLease
  | leaseMismatch
  | nonPieceAlignedLease
  | overlapPolicy
  | nonContiguousWrite
  | pieceMismatch
  | bufferLengthMismatch
  | bufferState
  | mapping
  | diskAdmission
  | diskCompletion
  | journal
  | nativeFile
  | identifierExhausted
  | shutdown
  | verification
  | checksumMismatch
  deriving DecidableEq

/-- How a call that does not return `Ok` ends. -/
inductive StorageFailure where
  | rejected (reject : WriteReject)
  | dropped
  deriving DecidableEq

structure LeaseWritePlan where
  task : TaskId
  generation : Generation
  transferAttempt : TransferAttemptId
  lease : LeaseId
  span : GlobalSpan
  validator : JournalHash
  overlapGroup : Option OverlapGroupId
  deriving DecidableEq

structure WriteBlock where
  task : TaskId
  generation : Generation
  lease : LeaseId
  globalOffset : U64
  expectedLen : U64
  bytes : Bytes
  capacity : ℕ
  filled : Bool
  piece : PieceId

/-- Exact evidence required before one provisional lease can commit. -/
structure LeaseCommit where
  task : TaskId
  generation : Generation
  lease : LeaseId
  receivedLen : U64
  validator : JournalHash
  responseDigest : Option JournalDigest
  deriving DecidableEq

structure RetryStateWrite where
  scope : RetryScope
  scopeId : PersistedId
  attempt : U32
  elapsedBeforeWaitMs : U64
  scheduledAtUnixMs : U64
  delayMs : U64
  errorClass : ErrorKind
  retryReason : RetryReason
  deriving DecidableEq

inductive WriteAck where
  | provisionalAccepted (lease : LeaseId) (span : GlobalSpan)
  | leaseCommitPending (lease : LeaseId) (group : OverlapGroupId)
  | leaseCommitted (lease : LeaseId) (span : GlobalSpan)
  | leaseAborted (lease : LeaseId)
  | spanRolledBack (group : OverlapGroupId) (span : GlobalSpan)
  | pieceDurable (piece : PieceId) (sequence : ℕ)
  deriving DecidableEq

structure ActiveLease where
  plan : LeaseWritePlan
  piece : PieceId
  nextOffset : ℕ
  writtenLen : ℕ
  digest : ContentHasher

/-- Two leases of one span, of which at most one may commit. -/
structure OverlapGroup where
  piece : PieceId
  span : GlobalSpan
  members : Finset LeaseId
  candidate : Option LeaseCommit
  frozen : Bool
  deriving DecidableEq

structure OverlapRegistration where
  group : OverlapGroupId
  original : LeaseId
  duplicate : LeaseId
  deriving DecidableEq

/-- How an operation on the journal or a file ends. A call that fails may still have reached the
journal. -/
inductive MediumOutcome where
  | succeeds
  | fails
  | recordsAndFails

structure Medium where
  outcome : ℕ → MediumOutcome
  operations : ℕ

/-- How a disk write ends: not accepted, with an error after some bytes reached the file, with the
future dropped after some bytes reached the file, or with all of them there. -/
inductive DiskOutcome where
  | refused
  | failed (placed : ℕ)
  | dropped (placed : ℕ)
  | written
  deriving DecidableEq

/-- The bytes that a write without success left in the file. -/
def DiskOutcome.placed : DiskOutcome → ℕ
  | .failed placed => placed
  | .dropped placed => placed
  | _ => 0

/-- How a processor job ends: without a reservation, with the future dropped before there was one
or while the job runs, lost in the pool, or with a value. -/
inductive JobOutcome (α : Type) where
  | refused
  | droppedWaiting
  | dropped
  | lost
  | done (value : α)
  deriving DecidableEq

structure Placement where
  lease : LeaseId
  offset : U64
  bytes : Bytes

structure Verification where
  manifest : VerificationManifest
  coordinator : ChunkHashCoordinator manifest

structure StorageEngine where
  layout : FileLayout
  active : OrderedMap LeaseId ActiveLease
  overlapGroups : OrderedMap OverlapGroupId OverlapGroup
  registrations : List OverlapRegistration
  seenLeases : Finset LeaseId
  nextOperationId : U64
  records : List JournalPayload
  sequence : ℕ
  medium : Medium
  placements : List Placement
  verification : Option Verification
  wholeFileVerified : Bool
  cpuPool : Bool
  residentLimit : ℕ

abbrev StorageCall (α : Type) := EStateM StorageFailure StorageEngine α

namespace StorageEngine

/-- An engine opened on a layout whose selected files are all there. -/
def openLayout (layout : FileLayout) (sequence : ℕ) (medium : Medium) (cpuPool : Bool)
    (residentLimit : ℕ) : StorageEngine :=
  ⟨layout, ∅, ∅, [], ∅, 1, [], sequence, medium, [], none, false, cpuPool, residentLimit⟩

variable (s : StorageEngine)

def withActive (active : OrderedMap LeaseId ActiveLease) : StorageEngine :=
  { s with active := active }

def withGroups (groups : OrderedMap OverlapGroupId OverlapGroup) : StorageEngine :=
  { s with overlapGroups := groups }

def withVerification (verification : Option Verification) : StorageEngine :=
  { s with verification := verification }

/-- The engine after bytes of a lease reached a file. -/
def place (lease : LeaseId) (offset : U64) (bytes : Bytes) : StorageEngine :=
  { s with placements := s.placements ++ [⟨lease, offset, bytes⟩] }

def rejects {α : Type} (reject : WriteReject) : StorageCall α := throw (.rejected reject)

/-! ## The journal and the files -/

def operate : StorageCall MediumOutcome := do
  let s ← get
  set { s with medium := { s.medium with operations := s.medium.operations + 1 } }
  return s.medium.outcome s.medium.operations

def record (payload : JournalPayload) : StorageEngine :=
  { s with records := s.records ++ [payload], sequence := s.sequence + 1 }

def appendPayload (payload : JournalPayload) : StorageCall Unit := do
  match ← operate with
  | .succeeds => modify fun s => s.record payload
  | .fails => rejects .journal
  | .recordsAndFails =>
    modify fun s => s.record payload
    rejects .journal

/-- Makes everything appended durable and returns the last sequence number. -/
def flush : StorageCall ℕ := do
  match ← operate with
  | .succeeds => return (← get).sequence
  | _ => rejects .journal

def syncPieceFiles (span : PersistedSpan) : StorageCall Unit := do
  let s ← get
  let _ ← orThrow (s.layout.map ⟨span.offset.val, span.len.val⟩).toOption (.rejected .mapping)
  match ← operate with
  | .succeeds => return ()
  | _ => rejects .nativeFile

/-! ## Checks -/

def validateIdentity (task : TaskId) (generation : Generation) : StorageCall Unit := do
  let s ← get
  throwIf (task ≠ s.layout.task) (.rejected .taskMismatch)
  throwIf (generation ≠ s.layout.generation) (.rejected .generationMismatch)

def pieceSpan (piece : PieceId) : StorageCall PersistedSpan := do
  orThrow ((← get).layout.pieceSpan piece) (.rejected .mapping)

def validateBlock (block : WriteBlock) : StorageCall ActiveLease := do
  validateIdentity block.task block.generation
  let s ← get
  let active ← orThrow s.active[block.lease]? (.rejected .unknownLease)
  throwIf (active.plan.overlapGroup.any fun group =>
    (s.overlapGroups[group]?).all OverlapGroup.frozen) (.rejected .overlapPolicy)
  throwIf ((if s.verification.isSome then s.layout.pieceOf block.globalOffset.val
    else active.piece) ≠ block.piece) (.rejected .pieceMismatch)
  throwIf (active.nextOffset ≠ block.globalOffset.val) (.rejected .nonContiguousWrite)
  throwIf (block.bytes.length ≠ block.expectedLen.val) (.rejected .bufferLengthMismatch)
  throwIf (!block.filled) (.rejected .bufferState)
  throwIf (2 ^ 64 ≤ block.globalOffset.val + block.expectedLen.val) (.rejected .leaseMismatch)
  throwIf (2 ^ 64 ≤ active.plan.span.stop) (.rejected .leaseMismatch)
  throwIf (active.plan.span.stop < block.globalOffset.val + block.expectedLen.val)
    (.rejected .leaseMismatch)
  return active

def validateCommit (active : ActiveLease) (commit : LeaseCommit) : StorageCall Unit :=
  throwIf (active.plan.validator ≠ commit.validator ∨ active.writtenLen ≠ active.plan.span.len ∨
    commit.receivedLen.val ≠ active.plan.span.len) (.rejected .leaseMismatch)

/-! ## The coordinator -/

def hashError : ChunkHashFailure → WriteReject
  | .returned .checksumMismatch => .checksumMismatch
  | _ => .verification

end StorageEngine

open StorageEngine

def Verification.run (verification : Verification)
    (call : ∀ {manifest : VerificationManifest}, ChunkHashCoordinator.ChunkHashCall manifest Unit) :
    Option ChunkHashFailure × Verification :=
  match call verification.coordinator with
  | .ok _ after => (none, ⟨verification.manifest, after⟩)
  | .error failure after => (some failure, ⟨verification.manifest, after⟩)

namespace StorageEngine

/-- A call on the coordinator, if one is installed. -/
def coordinate
    (call : ∀ {manifest : VerificationManifest}, ChunkHashCoordinator.ChunkHashCall manifest Unit) :
    StorageCall Unit := do
  let s ← get
  if let some verification := s.verification then
    set (s.withVerification (some (verification.run call).2))
    if let some failure := (verification.run call).1 then
      rejects (hashError failure)

def verifies (s : StorageEngine) (lease : LeaseId) : Bool :=
  s.verification.any fun verification => verification.coordinator.leases.contains lease

def adjust (change : ∀ {manifest : VerificationManifest},
      ChunkHashCoordinator manifest → ChunkHashCoordinator manifest) : StorageCall Unit :=
  modify fun s => s.withVerification (s.verification.map fun verification =>
    ⟨verification.manifest, change verification.coordinator⟩)

/-- The coordinator takes a buffer in a processor job. While the job runs the engine is without
it, and does not get it back if the future is dropped or the job is lost. -/
def feedVerification (lease : LeaseId) (offset : U64) (buffer : BufferLease)
    (job : JobOutcome Unit) : StorageCall Unit := do
  match job with
  | .refused => rejects .verification
  | .droppedWaiting => throw .dropped
  | .dropped =>
    modify fun s => s.withVerification none
    throw .dropped
  | .lost =>
    modify fun s => s.withVerification none
    rejects .verification
  | .done _ =>
    let s ← get
    let verification ← orThrow s.verification (.rejected .verification)
    let (failure, after) := verification.run (ChunkHashCoordinator.feed lease offset buffer)
    match failure with
    | none => set (s.withVerification (some after))
    | some .panicked =>
      set (s.withVerification none)
      rejects .verification
    | some (.returned error) =>
      set (s.withVerification (some after))
      rejects (hashError (.returned error))

end StorageEngine

end Ariax
