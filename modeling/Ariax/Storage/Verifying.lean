import Ariax.Storage.Engine

/-!
# Verified storage

The calls of `storage_engine/verification.rs`: a manifest is installed
before the first lease, a lease that commits becomes evidence of its chunks,
and a chunk whose bytes are all committed is compared with its digest,
synchronised and recorded as durable. A checksum that does not match fails
the chunk, which is then downloaded again.
-/

namespace Ariax

namespace ChunkHashCoordinator

variable {manifest : VerificationManifest} (c : ChunkHashCoordinator manifest)

/-- As many chunks are durable as there are, and none is under way. -/
def isComplete : Bool :=
  c.durable.card = divCeil manifest.totalLength.val manifest.chunkLength.val && c.chunks.isEmpty

def pendingChunks : List (PieceId × PersistedSpan) :=
  c.chunks.toList.map fun entry => (entry.1, entry.2.span)

end ChunkHashCoordinator

/-- How the jobs for a ready chunk end: whether its file was opened, the digest that was read back
from it and whether it was synchronised. -/
structure ReadyOutcome where
  opened : Bool
  hashing : JobOutcome (Option JournalDigest)
  syncing : JobOutcome Bool

namespace StorageEngine

variable (hashes : ContentHashes)

def await {α : Type} : JobOutcome α → StorageCall α
  | .refused => rejects .verification
  | .droppedWaiting => throw .dropped
  | .dropped => throw .dropped
  | .lost => rejects .verification
  | .done value => pure value

/-- Records a piece that is not to be trusted, and forgets what is known about it. -/
def failPiece (piece : PieceId) (span : PersistedSpan) (errorClass : ErrorKind) :
    StorageCall Unit := do
  appendPayload (.pieceFailed none piece span errorClass 1)
  let _ ← flush
  adjust fun coordinator => coordinator.invalidate piece

def configureVerification (manifest : VerificationManifest) (alignment : ChunkAlignment)
    (reorderBytes : ℕ) (persisted : Bool) (durable : List PieceId) (poolStarts : Bool) :
    StorageCall Unit := do
  let s ← get
  throwIf (s.verification.isSome ∨ s.seenLeases ≠ ∅ ∨
    s.layout.totalLength ≠ some manifest.totalLength ∨
    s.layout.pieceLength ≠ manifest.chunkLength) (.rejected .verification)
  throwIf (!s.cpuPool && !poolStarts) (.rejected .verification)
  set { s with cpuPool := true }
  if !persisted then
    forM (manifest.journalPayloads hashes) fun payload => do
      appendPayload payload
      let _ ← flush
  let coordinator : ChunkHashCoordinator manifest :=
    durable.foldl ChunkHashCoordinator.markDurable
      (.new manifest alignment (min reorderBytes s.residentLimit))
  modify fun s => s.withVerification (some ⟨manifest, coordinator⟩)

def restoreVerifiedContributors (contributors : List JournalContributor) : StorageCall Unit := do
  throwIf (← get).verification.isNone (.rejected .verification)
  forM contributors fun contributor => do
    modify fun s => { s with seenLeases := insert contributor.leaseId s.seenLeases }
    coordinate (ChunkHashCoordinator.restoreCommitted contributor)

def invalidateVerifiedPiece (piece : PieceId) : StorageCall Unit := do
  throwIf (!(← get).active.isEmpty) (.rejected .verification)
  let span ← pieceSpan piece
  failPiece piece span .staleValidator
  throwIf (← get).verification.isNone (.rejected .verification)

def requireVerificationReadback : StorageCall Unit :=
  adjust fun coordinator => coordinator.forceReadback

/-- A gap that recovery left is closed by downloading the whole chunk again. -/
def redownloadIncompleteRecovery : StorageCall Unit := do
  if let some verification := (← get).verification then
    forM verification.coordinator.pendingChunks fun entry => failPiece entry.1 entry.2 .cancelled

def writtenSpan (span chunk : PersistedSpan) : Option PersistedSpan :=
  GlobalSpan.persisted ⟨(span.clip chunk).1, (span.clip chunk).2 - (span.clip chunk).1⟩

def commitVerifiedLease (commit : LeaseCommit) : StorageCall (List WriteAck) := do
  let s ← get
  let active ← orThrow s.active[commit.lease]? (.rejected .unknownLease)
  validateCommit active commit
  set (s.withActive (s.active.erase commit.lease))
  let span ← orThrow active.plan.span.persisted (.rejected .mapping)
  forM (s.layout.piecesFrom active.piece span.stop) fun piece => do
    let chunk ← pieceSpan piece
    let written ← orThrow (writtenSpan span chunk) (.rejected .mapping)
    appendPayload (.pieceWritten commit.lease piece written)
  appendPayload (.leaseCommitted commit.lease span commit.validator commit.responseDigest)
  let _ ← flush
  if (← get).verifies commit.lease then
    coordinate (ChunkHashCoordinator.commit commit.lease)
  else
    coordinate (ChunkHashCoordinator.commitWrittenAfterFence commit.lease span commit.validator)
  return [.leaseCommitted commit.lease active.plan.span]

section

variable (outcome : ReadyOutcome) (chunk : ReadyChunk)

/-- Records a chunk that matches its digest, and makes it durable. -/
def publishChunk (digest : JournalDigest) : StorageCall WriteAck := do
  let contributorsHash ←
    orThrow (hashes.calculateContributorsHash chunk.contributors) (.rejected .journal)
  let validatorSetFingerprint ←
    orThrow (hashes.calculateValidatorSetFingerprint chunk.contributors) (.rejected .journal)
  appendPayload (.pieceVerified chunk.piece chunk.span contributorsHash digest)
  let synced ← await outcome.syncing
  throwIf (!synced) (.rejected .nativeFile)
  appendPayload (.pieceDurable chunk.piece chunk.span contributorsHash validatorSetFingerprint
    (some digest) .strictPiece)
  let sequence ← flush
  adjust fun coordinator => coordinator.markDurable chunk.piece
  return .pieceDurable chunk.piece sequence

def finishChunk : StorageCall WriteAck := do
  let s ← get
  let _ ← orThrow (s.layout.map ⟨chunk.span.offset.val, chunk.span.len.val⟩).toOption
    (.rejected .mapping)
  throwIf (!outcome.opened) (.rejected .nativeFile)
  let value ← await outcome.hashing
  let digest ← orThrow (chunk.digest.or value) (.rejected .nativeFile)
  let verification ← orThrow (← get).verification (.rejected .verification)
  if verification.manifest.chunks[chunk.piece.get.val]?.any (· ≠ digest) then
    failPiece chunk.piece chunk.span .checksumMismatch
    rejects .checksumMismatch
  else
    publishChunk hashes outcome chunk digest

end

def finishVerification (outcome : PieceId → ReadyOutcome) : StorageCall (List WriteAck) := do
  match (← get).verification with
  | none => return []
  | some verification =>
    match verification.coordinator.ready hashes.finalize with
    | .error error => rejects (hashError (.returned error))
    | .ok ready => ready.mapM fun chunk => finishChunk hashes (outcome chunk.piece) chunk

def recordWholeFileVerified (digests : List JournalDigest) : StorageCall Unit := do
  let verification ← orThrow (← get).verification (.rejected .verification)
  throwIf (!verification.coordinator.isComplete) (.rejected .verification)
  throwIf (digests ≠ verification.manifest.whole) (.rejected .checksumMismatch)
  appendPayload (.wholeFileVerified (verification.manifest.fingerprint hashes) digests)
  let _ ← flush
  modify fun s => { s with wholeFileVerified := true }

def verifyWholeFile (opened : Bool) (job : JobOutcome (Option (List JournalDigest))) :
    StorageCall (Option JournalDigest) := do
  let verification ← orThrow (← get).verification (.rejected .verification)
  throwIf (!verification.coordinator.isComplete) (.rejected .verification)
  if verification.manifest.whole = [] then
    return none
  throwIf (!opened) (.rejected .nativeFile)
  let actual ← orThrow (← await job) (.rejected .nativeFile)
  throwIf (actual ≠ verification.manifest.whole) (.rejected .checksumMismatch)
  recordWholeFileVerified hashes actual
  return actual.head?

end StorageEngine

end Ariax
