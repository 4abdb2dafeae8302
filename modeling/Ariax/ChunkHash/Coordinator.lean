import Ariax.Lib.Call
import Ariax.Lib.Machine
import Ariax.Lib.OrderedMap
import Ariax.Storage.Persisted
import Mathlib.Data.Finset.Sort

/-!
# The chunk hash coordinator

The streaming verification of `chunk_hash.rs`. Several leases may feed the
bytes of one chunk; the hash of a chunk runs ahead with the bytes of one
feeder at a time, is checkpointed when that lease commits and falls back to
the checkpoint when it aborts, while fragments that cannot be hashed yet
wait. A hasher is what it was updated with, and a digest is a function of
that. A buffer that waits is charged against the reorder budget until the
last fragment that refers to it is gone, so the bytes held are a function of
the fragments that wait.
-/

namespace Ariax

def maxHashCoordinatorLeases : ℕ := 65_536

inductive ChunkAlignment where
  | auto
  | strict
  | relaxed
  deriving DecidableEq

inductive ChunkHashError where
  | geometry
  | unknownLease
  | overlap
  | order
  | incomplete
  | checksumMismatch
  | buffer
  | capacity
  deriving DecidableEq

/-- How a call that does not return `Ok` ends. -/
inductive ChunkHashFailure where
  | returned (error : ChunkHashError)
  | panicked

structure BufferLease where
  bytes : Bytes
  capacity : ℕ
  readable : Bool

/-- A buffer that fragments share, with the number of its allocation and what it is charged. -/
structure OwnedBuffer where
  serial : ℕ
  buffer : BufferLease
  reorder : Option ℕ

structure Fragment where
  lease : LeaseId
  offset : ℕ
  start : ℕ
  len : ℕ
  buffer : OwnedBuffer

def Fragment.bytes (fragment : Fragment) : Bytes :=
  window fragment.buffer.buffer.bytes fragment.start fragment.len

structure HashLease where
  span : PersistedSpan
  validator : JournalHash
  next : ℕ
  committed : Bool

structure Chunk where
  span : PersistedSpan
  next : ℕ
  checkpointOffset : ℕ
  hash : ContentHasher
  checkpoint : ContentHasher
  feeder : Option LeaseId
  pending : OrderedMap ℕ Fragment
  contributors : Finset LeaseId
  readback : Bool

structure ChunkHashCoordinator (manifest : VerificationManifest) where
  alignment : ChunkAlignment
  reorderLimit : ℕ
  leases : OrderedMap LeaseId HashLease
  chunks : OrderedMap PieceId Chunk
  durable : Finset PieceId
  readbackTransitions : ℕ
  forcesReadback : Bool
  nextSerial : ℕ

structure ReadyChunk where
  piece : PieceId
  span : PersistedSpan
  contributors : List JournalContributor
  digest : Option JournalDigest
  deriving DecidableEq

/-! ## Chunks -/

def PersistedSpan.clip (span chunk : PersistedSpan) : ℕ × ℕ :=
  (max span.offset.val chunk.offset.val, min span.stop chunk.stop)

namespace Chunk

/-- The feeder's bytes become part of the checkpoint. -/
def settle (chunk : Chunk) : Chunk :=
  { chunk with checkpoint := chunk.hash, checkpointOffset := chunk.next, feeder := none }

/-- One iteration of `drain` on a chunk: nothing to hash, or the chunk after the fragment at its
position was taken and how that ended. -/
def drainStep (leases : OrderedMap LeaseId HashLease) (chunk : Chunk) :
    Option (Option ChunkHashError × Chunk) := do
  let fragment ← chunk.pending[chunk.next]?
  guard ¬(chunk.feeder.any (· ≠ fragment.lease))
  let taken := { chunk with pending := chunk.pending.erase chunk.next }
  if !fragment.buffer.buffer.readable then
    return (some .buffer, taken)
  let hashed := { taken with
    hash := chunk.hash.update fragment.bytes
    next := fragment.offset + fragment.len
    feeder := some fragment.lease }
  match leases[fragment.lease]? with
  | none => return (some .unknownLease, hashed)
  | some lease =>
    if lease.committed ∧ hashed.next = (lease.span.clip chunk.span).2 then
      return (none, hashed.settle)
    else
      return (none, hashed)

/-- The loop of `drain` on a chunk, which takes a fragment in each iteration. -/
def drainLoop (leases : OrderedMap LeaseId HashLease) : ℕ → Chunk → Option ChunkHashError × Chunk
  | 0, chunk => (none, chunk)
  | fuel + 1, chunk =>
    match chunk.drainStep leases with
    | none => (none, chunk)
    | some (some error, next) => (some error, next)
    | some (none, next) => drainLoop leases fuel next

def drain (leases : OrderedMap LeaseId HashLease) (chunk : Chunk) : Option ChunkHashError × Chunk :=
  if chunk.readback then (none, chunk) else drainLoop leases chunk.pending.size chunk

/-- A lease that is gone leaves nothing behind. -/
def abort (id : LeaseId) (chunk : Chunk) : Chunk :=
  let left := { chunk with
    pending := chunk.pending.filter fun _ fragment => fragment.lease ≠ id
    contributors := chunk.contributors.erase id }
  if chunk.feeder = some id then
    { left with hash := chunk.checkpoint, next := chunk.checkpointOffset, feeder := none }
  else left

def requireReadback (chunk : Chunk) : Chunk :=
  { chunk with readback := true, pending := ∅, feeder := none }

end Chunk

/-! ## The coordinator -/

namespace ChunkHashCoordinator

variable {manifest : VerificationManifest}

def new (manifest : VerificationManifest) (alignment : ChunkAlignment) (reorderBytes : ℕ) :
    ChunkHashCoordinator manifest :=
  ⟨alignment, reorderBytes, ∅, ∅, ∅, 0, false, 0⟩

variable (c : ChunkHashCoordinator manifest)

def heldBytes : ℕ :=
  let fragments := c.chunks.valuesInOrder.flatMap fun chunk => chunk.pending.valuesInOrder
  ((fragments.filterMap fun fragment =>
    fragment.buffer.reorder.map fun charge => (fragment.buffer.serial, charge)).dedup.map
      Prod.snd).sum

/-- The chunks from the one with an offset to the one with the last byte before another. -/
def piecesOf (manifest : VerificationManifest) (start stop : ℕ) : List PieceId :=
  let first := start / manifest.chunkLength.val
  let last := (stop - 1) / manifest.chunkLength.val
  (List.range' first (last + 1 - first)).map fun index => ⟨Fin.ofNat _ index⟩

def pieces (manifest : VerificationManifest) (span : PersistedSpan) :
    Except ChunkHashError (List PieceId) :=
  if manifest.totalLength.val < span.stop then .error .geometry
  else .ok (piecesOf manifest span.offset.val span.stop)

def freshChunk (piece : PieceId) : Option Chunk := do
  let span ← manifest.chunkSpan piece.get
  let algorithm := (manifest.chunks[piece.get.val]?).elim .sha256 JournalDigest.algorithm
  let hash := ContentHasher.new algorithm
  return ⟨span, span.offset.val, span.offset.val, hash, hash, none, ∅, ∅, c.forcesReadback⟩

/-- A contributor of some chunk has part of a span there. -/
def overlaps (span : PersistedSpan) : Bool :=
  c.chunks.valuesInOrder.any fun chunk => decide (∃ id ∈ chunk.contributors,
    (c.leases[id]?).any fun lease =>
      (lease.span.clip chunk.span).1 < span.stop ∧ span.offset.val < (lease.span.clip chunk.span).2)

/-- Why a chunk does not take a new lease of a span. -/
def preflight (span : PersistedSpan) (piece : PieceId) : Option ChunkHashError :=
  let start := piece.get.val * manifest.chunkLength.val
  if piece ∈ c.durable then some .overlap
  else if c.alignment ≠ .relaxed ∧
      (max span.offset.val start ≠ (c.chunks[piece]?).elim start Chunk.checkpointOffset ∨
        (c.chunks[piece]?).any fun chunk => chunk.feeder.isSome) then
    some .order
  else none

def withChunk (piece : PieceId) (chunk : Chunk) : ChunkHashCoordinator manifest :=
  { c with chunks := c.chunks.insert piece chunk }

def withLease (id : LeaseId) (lease : HashLease) : ChunkHashCoordinator manifest :=
  { c with leases := c.leases.insert id lease }

def withoutLease (id : LeaseId) : ChunkHashCoordinator manifest :=
  { c with leases := c.leases.erase id }

def mapChunks (change : Chunk → Chunk) : ChunkHashCoordinator manifest :=
  { c with chunks := c.chunks.map fun _ chunk => change chunk }

/-- The chunk of a piece, created if there is none yet, with one more contributor. -/
def contribute (id : LeaseId) (piece : PieceId) : Option (ChunkHashCoordinator manifest) := do
  let chunk ← (c.chunks[piece]?).or (c.freshChunk piece)
  return c.withChunk piece { chunk with contributors := insert id chunk.contributors }

def requireReadback (piece : PieceId) : ChunkHashCoordinator manifest :=
  match c.chunks[piece]? with
  | some chunk =>
    { c.withChunk piece chunk.requireReadback with
      readbackTransitions := c.readbackTransitions + if chunk.readback then 0 else 1 }
  | none => c

def forceReadback : ChunkHashCoordinator manifest :=
  c.chunks.keys.foldl requireReadback { c with forcesReadback := true }

abbrev ChunkHashCall (manifest : VerificationManifest) (α : Type) :=
  EStateM ChunkHashFailure (ChunkHashCoordinator manifest) α

def fails {α : Type} (error : ChunkHashError) : ChunkHashCall manifest α :=
  throw (.returned error)

def orReturn {α : Type} : Except ChunkHashError α → ChunkHashCall manifest α
  | .ok value => pure value
  | .error error => fails error

def contributeAll (id : LeaseId) (pieces : List PieceId) : ChunkHashCall manifest Unit :=
  forM pieces fun piece => do
    let c ← get
    set (← orThrow (c.contribute id piece) (.returned .geometry))

def «begin» (id : LeaseId) (span : PersistedSpan) (validator : JournalHash) :
    ChunkHashCall manifest Unit := do
  let c ← get
  throwIf (maxHashCoordinatorLeases ≤ c.leases.size) (.returned .capacity)
  throwIf (c.leases.contains id) (.returned .overlap)
  let pieces ← orReturn (pieces manifest span)
  throwIf (c.alignment = .strict ∧ pieces.length ≠ 1) (.returned .geometry)
  throwIf (c.overlaps span) (.returned .overlap)
  if let some error := pieces.findSome? (c.preflight span) then
    fails error
  contributeAll id pieces
  modify fun c => c.withLease id ⟨span, validator, span.offset.val, false⟩

/-- Every chunk is drained in the order of the pieces, up to the first error. -/
def drain : ChunkHashCall manifest Unit := do
  forM (← get).chunks.keys fun piece => do
    let c ← get
    if let some chunk := c.chunks[piece]? then
      let (error, drained) := chunk.drain c.leases
      set (c.withChunk piece drained)
      if let some error := error then
        fails error

section

variable (id : LeaseId)

def fragment (offset : ℕ) (buffer : OwnedBuffer) (chunk : Chunk) : Fragment :=
  let start := max offset chunk.span.offset.val
  ⟨id, start, start - offset, min (offset + buffer.buffer.bytes.length) chunk.span.stop - start,
    buffer⟩

/-- Puts the parts of a fed buffer with the chunks that still hash what they are fed. -/
def enqueue (offset : ℕ) (buffer : OwnedBuffer) (pieces : List PieceId) :
    ChunkHashCall manifest Unit :=
  forM pieces fun piece => do
    let c ← get
    let chunk ← orThrow c.chunks[piece]? (.returned .unknownLease)
    if !chunk.readback then
      let part := fragment id offset buffer chunk
      set (c.withChunk piece { chunk with pending := chunk.pending.insert part.offset part })
      throwIf (chunk.pending.contains part.offset) (.returned .overlap)

/-- Some chunk cannot hash a fed buffer right away. The chunks are looked up in order as far as
the first of that kind, and the lookup of a chunk of which nothing is known panics. -/
def needHold (offset : ℕ) : List PieceId → Option Bool
  | [] => some false
  | piece :: rest => do
    let chunk ← c.chunks[piece]?
    if !chunk.readback &&
        (chunk.next ≠ max offset chunk.span.offset.val || chunk.feeder.any (· ≠ id)) then
      return true
    needHold offset rest

/-- Takes a buffer for the chunks of its bytes. A chunk of which nothing is known is found by the
lookups of `needHold`, or only after earlier chunks were given their parts. -/
def feed (offset : U64) (buffer : BufferLease) : ChunkHashCall manifest Unit := do
  let c ← get
  let lease ← orThrow c.leases[id]? (.returned .unknownLease)
  let stop := offset.val + buffer.bytes.length
  throwIf (2 ^ 64 ≤ stop) (.returned .geometry)
  throwIf (lease.committed ∨ offset.val ≠ lease.next ∨ buffer.bytes.length = 0 ∨
    lease.span.stop < stop) (.returned .order)
  throwIf (manifest.totalLength.val < stop) (.returned .geometry)
  let pieces := piecesOf manifest offset.val stop
  let held ← orThrow (c.needHold id offset.val pieces) .panicked
  let fits := buffer.capacity ≠ 0 ∧ c.heldBytes + buffer.capacity ≤ c.reorderLimit
  if held ∧ ¬fits then
    set (pieces.foldl requireReadback c)
  modify fun c => { c with nextSerial := c.nextSerial + 1 }
  enqueue id offset.val ⟨c.nextSerial, buffer, if held ∧ fits then some buffer.capacity else none⟩
    pieces
  modify fun c => c.withLease id { lease with next := stop }
  drain

def commit : ChunkHashCall manifest Unit := do
  let c ← get
  let lease ← orThrow c.leases[id]? (.returned .unknownLease)
  throwIf (lease.committed ∨ lease.next ≠ lease.span.stop) (.returned .incomplete)
  set ((c.withLease id { lease with committed := true }).mapChunks fun chunk =>
    if chunk.feeder = some id then chunk.settle else chunk)
  drain

def abort : ChunkHashCall manifest Unit := do
  let c ← get
  let lease ← orThrow c.leases[id]? (.returned .unknownLease)
  throwIf lease.committed (.returned .order)
  set ((c.withoutLease id).mapChunks (Chunk.abort id))

end

def overlapsIn (span : PersistedSpan) (piece : PieceId) : Bool :=
  (c.chunks[piece]?).any fun chunk => decide (∃ id ∈ chunk.contributors,
    (c.leases[id]?).any fun lease =>
      max span.offset.val (lease.span.clip chunk.span).1 <
        min span.stop (lease.span.clip chunk.span).2)

def restoreCommitted (contributor : JournalContributor) : ChunkHashCall manifest Unit := do
  let c ← get
  throwIf (c.leases.contains contributor.leaseId ∨ maxHashCoordinatorLeases ≤ c.leases.size)
    (.returned .capacity)
  let pieces ← orReturn (pieces manifest contributor.span)
  throwIf (pieces.any (c.overlapsIn contributor.span)) (.returned .overlap)
  forM pieces fun piece => do
    let c ← get
    if piece ∉ c.durable then
      set (requireReadback
        (← orThrow (c.contribute contributor.leaseId piece) (.returned .geometry)) piece)
  modify fun c => c.withLease contributor.leaseId
    ⟨contributor.span, contributor.validatorFingerprint, contributor.span.stop, true⟩

def commitWrittenAfterFence (id : LeaseId) (span : PersistedSpan) (validator : JournalHash) :
    ChunkHashCall manifest Unit := do
  «begin» id span validator
  let pieces ← orReturn (pieces manifest span)
  modify fun c => pieces.foldl requireReadback c
  modify fun c => c.withLease id ⟨span, validator, span.stop, false⟩
  commit id

def contributes (id : LeaseId) : Bool :=
  c.chunks.valuesInOrder.any fun chunk => decide (id ∈ chunk.contributors)

def markDurable (piece : PieceId) : ChunkHashCoordinator manifest :=
  let left : ChunkHashCoordinator manifest :=
    { c with chunks := c.chunks.erase piece, durable := insert piece c.durable }
  { left with leases := left.leases.filter fun id lease => !lease.committed || left.contributes id }

def invalidate (piece : PieceId) : ChunkHashCoordinator manifest :=
  let left : ChunkHashCoordinator manifest :=
    { c with chunks := c.chunks.erase piece, durable := c.durable.erase piece }
  { left with leases := left.leases.filter fun id _ => left.contributes id }

def committedContributors (chunk : Chunk) : List JournalContributor :=
  (chunk.contributors.sort (· ≤ ·)).filterMap fun id => do
    let lease ← c.leases[id]?
    guard lease.committed
    return ⟨id, lease.span, lease.validator⟩

/-- Walks over sorted spans from an offset: where they stop without a gap, or nothing if there
is one. -/
def tile : ℕ → Bool → List (ℕ × ℕ) → Except ChunkHashError (Option ℕ)
  | next, complete, [] => .ok (if complete then some next else none)
  | next, complete, (start, stop) :: rest =>
    if start < next ∨ stop ≤ start then .error .overlap
    else tile stop (complete && start = next) rest

variable (finalize : ContentHasher → JournalDigest)

/-- What `ready` says about a chunk. -/
def readyChunk (piece : PieceId) (chunk : Chunk) : Except ChunkHashError (Option ReadyChunk) := do
  let contributors := c.committedContributors chunk
  let spans := (contributors.map fun contributor => contributor.span.clip chunk.span).mergeSort
    fun a b => a.1 < b.1 || a.1 = b.1 && a.2 ≤ b.2
  let next ← tile chunk.span.offset.val true spans
  if next ≠ some chunk.span.stop then
    return none
  if chunk.readback then
    return some ⟨piece, chunk.span, contributors, none⟩
  if chunk.checkpointOffset ≠ chunk.span.stop ∨ chunk.feeder.isSome then
    return none
  return some ⟨piece, chunk.span, contributors, some (finalize chunk.checkpoint)⟩

def ready : Except ChunkHashError (List ReadyChunk) := do
  let answers ← c.chunks.toList.mapM fun entry => c.readyChunk finalize entry.1 entry.2
  return answers.filterMap id

end ChunkHashCoordinator

/-! ## The machine -/

inductive ChunkHashRequest where
  | begin (id : LeaseId) (span : PersistedSpan) (validator : JournalHash)
  | feed (id : LeaseId) (offset : U64) (buffer : BufferLease)
  | commit (id : LeaseId)
  | abort (id : LeaseId)
  | restoreCommitted (contributor : JournalContributor)
  | commitWrittenAfterFence (id : LeaseId) (span : PersistedSpan) (validator : JournalHash)
  | requireReadback (piece : PieceId)
  | forceReadback
  | markDurable (piece : PieceId)
  | invalidate (piece : PieceId)

open ChunkHashCoordinator in
def ChunkHashRequest.call {manifest : VerificationManifest} :
    ChunkHashRequest → ChunkHashCall manifest Unit
  | .begin id span validator => ChunkHashCoordinator.begin id span validator
  | .feed id offset buffer => ChunkHashCoordinator.feed id offset buffer
  | .commit id => ChunkHashCoordinator.commit id
  | .abort id => ChunkHashCoordinator.abort id
  | .restoreCommitted contributor => ChunkHashCoordinator.restoreCommitted contributor
  | .commitWrittenAfterFence id span validator =>
    ChunkHashCoordinator.commitWrittenAfterFence id span validator
  | .requireReadback piece => modify fun c => c.requireReadback piece
  | .forceReadback => modify fun c => c.forceReadback
  | .markDurable piece => modify fun c => c.markDurable piece
  | .invalidate piece => modify fun c => c.invalidate piece

/-- The machine whose inputs are calls. A call that fails keeps what it wrote before. -/
def chunkHashMachine (manifest : VerificationManifest) :
    Machine (ChunkHashCoordinator manifest) ChunkHashRequest (Except ChunkHashFailure Unit) where
  initial := {c | ∃ alignment reorderBytes, c = .new manifest alignment reorderBytes}
  next c request :=
    match request.call c with
    | .ok _ after => (.ok (), after)
    | .error failure after => (.error failure, after)

end Ariax
