import Ariax.Core.Identity
import Ariax.Lib.Bytes
import Mathlib.Data.List.Pairwise

/-!
# Persisted values

The values of `journal_payload.rs` and `verification.rs` that the journal
keeps and the engine works with: spans of the payload, hashes and digests,
the contributor of a chunk and the verification manifest. What a constructor
of the source rejects cannot be built here.
-/

namespace Ariax

structure UnknownJournalTag where
  vocabulary : String
  value : UInt8
  deriving DecidableEq

inductive PayloadCodecError where
  | payloadTooLarge
  | truncated
  | trailingBytes
  | invalidPresence (value : UInt8)
  | invalidBoolean (value : UInt8)
  | zeroId
  | zeroCheckpointId
  | zeroHash
  | zeroSpanLength
  | spanOverflow
  | invalidDigestAlgorithm
  | invalidDigestLength
  | invalidUtf8
  | invalidTag (tag : UnknownJournalTag)
  | invalidErrorKind (value : UInt8)
  | invalidOptionKey
  | optionKeyTooLong
  | optionValueTooLong
  | tooManyOptions
  | duplicateOptionKey
  | nonCanonicalOptionOrder
  | optionMapTooLarge
  | fieldTooLong
  | invalidPlatformTag (value : UInt8)
  | invalidPlatformPath
  | invalidRootIdentity
  | relativePathTooLong
  | invalidRelativePath
  | invalidFileId
  | tooManyLayoutEntries
  | invalidLayoutEntry
  | invalidFileIdentity
  | nonCanonicalLayoutOrder
  | zeroPieceLength
  | invalidFileCount
  | invalidChunk
  | invalidFinalization
  | invalidBitmap
  | tooManyEvidenceRuns
  | invalidEvidenceRun
  | zeroCreatorVersion
  | zeroAttempt
  | zeroSourceSequence
  | zeroStateRecordCount
  | invalidHttpStrongValidator
  | invalidHttpRangeIdentity
  | invalidVerificationManifest
  | invalidProtocolValidator
  | invalidHostKeyState
  | allocationFailed
  deriving DecidableEq

/-! ## Spans -/

structure PersistedSpan where
  offset : U64
  len : U64
  len_ne_zero : len.val ≠ 0
  fits : offset.val + len.val < 2 ^ 64
  deriving DecidableEq

namespace PersistedSpan

def new (offset len : U64) : Except PayloadCodecError PersistedSpan :=
  if empty : len.val = 0 then .error .zeroSpanLength
  else if fits : offset.val + len.val < 2 ^ 64 then .ok ⟨offset, len, empty, fits⟩
  else .error .spanOverflow

variable (span : PersistedSpan)

def stop : ℕ := span.offset.val + span.len.val

variable {span : PersistedSpan}

theorem new_eq_ok {offset len : U64} :
    new offset len = .ok span ↔ span.offset = offset ∧ span.len = len := by
  unfold new
  constructor
  · intro made
    split at made
    · cases made
    · split at made
      · cases made
        exact ⟨rfl, rfl⟩
      · cases made
  · rintro ⟨rfl, rfl⟩
    rw [dif_neg span.len_ne_zero, dif_pos span.fits]

theorem toOption_new_eq_some {offset len : U64} :
    (new offset len).toOption = some span ↔ span.offset = offset ∧ span.len = len := by
  rw [← new_eq_ok]
  cases new offset len <;> simp [Except.toOption]

/-- The span of a given length from an offset on, cut off at a total. -/
theorem new_clipped_eq_ok {start length total : ℕ} (inside : start ≤ total)
    (positive : 0 < length) (bound : total < 2 ^ 64) :
    new (Fin.ofNat _ start) (Fin.ofNat _ (min length (total - start))) = .ok span ↔
      start < total ∧ span.offset.val = start ∧ span.stop = min (start + length) total := by
  have nonempty := span.len_ne_zero
  rw [new_eq_ok, Fin.ext_iff, Fin.ext_iff, Fin.val_ofNat, Fin.val_ofNat,
    Nat.mod_eq_of_lt (by omega), Nat.mod_eq_of_lt (by omega), PersistedSpan.stop]
  omega

end PersistedSpan

/-! ## Hashes and digests -/

structure JournalHash where
  bytes : Vector UInt8 32
  nonzero : bytes ≠ Vector.replicate 32 0
  deriving DecidableEq

inductive JournalDigestAlgorithm where
  | md5
  | sha1
  | sha256
  | sha512
  deriving DecidableEq

def JournalDigestAlgorithm.valueLen : JournalDigestAlgorithm → ℕ
  | .md5 => 16
  | .sha1 => 20
  | .sha256 => 32
  | .sha512 => 64

structure JournalDigest where
  algorithm : JournalDigestAlgorithm
  value : Bytes
  length_value : value.length = algorithm.valueLen
  deriving DecidableEq

structure JournalContributor where
  leaseId : LeaseId
  span : PersistedSpan
  validatorFingerprint : JournalHash
  deriving DecidableEq

/-! ## The verification manifest -/

def maxVerificationManifestBytes : ℕ := 64 * 1024 * 1024

def maxVerificationChunks : ℕ := 1_048_576

inductive VerificationManifestError where
  | invalidGeometry
  | invalidDigestSet
  | limit
  | malformed
  deriving DecidableEq

def divCeil (total length : ℕ) : ℕ := (total + length - 1) / length

theorem lt_divCeil_iff {index total length : ℕ} (positive : 0 < length) :
    index < divCeil total length ↔ index * length < total := by
  rw [divCeil, ← Nat.succ_le_iff, Nat.le_div_iff_mul_le positive, Nat.succ_mul]
  omega

/-- The checks of `VerificationManifest::new` on its digests. -/
structure DigestSet (chunks whole : List JournalDigest) : Prop where
  count_le : chunks.length ≤ maxVerificationChunks
  whole_le : whole.length ≤ 2
  bytes_le : ((chunks ++ whole).map fun digest => digest.value.length + 48).sum ≤
    maxVerificationManifestBytes
  one_algorithm : (chunks.map JournalDigest.algorithm).IsChain (· = ·)
  whole_agree : whole.length = 2 → (whole.map JournalDigest.algorithm).IsChain (· = ·) →
    whole.IsChain (· = ·)

/-- The complete checksum requirement for one output of fixed length. -/
structure VerificationManifest where
  totalLength : U64
  chunkLength : U64
  chunks : List JournalDigest
  whole : List JournalDigest
  chunkLength_ne_zero : chunkLength.val ≠ 0
  geometry : chunks = [] ∨ divCeil totalLength.val chunkLength.val = chunks.length
  digests : DigestSet chunks whole

namespace VerificationManifest

def new (totalLength chunkLength : U64) (chunks whole : List JournalDigest) :
    Except VerificationManifestError VerificationManifest :=
  if empty : chunkLength.val = 0 then .error .invalidGeometry
  else if geometry : chunks = [] ∨ divCeil totalLength.val chunkLength.val = chunks.length then
    if count : chunks.length ≤ maxVerificationChunks ∧ whole.length ≤ 2 ∧
        ((chunks ++ whole).map fun digest => digest.value.length + 48).sum ≤
          maxVerificationManifestBytes then
      if set : (chunks.map JournalDigest.algorithm).IsChain (· = ·) ∧ (whole.length = 2 →
          (whole.map JournalDigest.algorithm).IsChain (· = ·) → whole.IsChain (· = ·)) then
        .ok ⟨totalLength, chunkLength, chunks, whole, empty, geometry,
          ⟨count.1, count.2.1, count.2.2, set.1, set.2⟩⟩
      else .error .invalidDigestSet
    else .error .limit
  else .error .invalidGeometry

variable (manifest : VerificationManifest)

def chunkSpan (index : U64) : Option PersistedSpan :=
  let start := index.val * manifest.chunkLength.val
  if start < 2 ^ 64 ∧ start ≤ manifest.totalLength.val then
    (PersistedSpan.new (Fin.ofNat _ start)
      (Fin.ofNat _ (min manifest.chunkLength.val (manifest.totalLength.val - start)))).toOption
  else none

end VerificationManifest

/-! ## The file layout

The file map of a task generation as the storage engine reads it: where each
file lies in the payload, which files are selected, and the spans of the
pieces. A layout that `FileLayout::new` rejects cannot be built here.
-/

structure GlobalSpan where
  offset : ℕ
  len : ℕ
  deriving DecidableEq

namespace GlobalSpan

def stop (span : GlobalSpan) : ℕ := span.offset + span.len

/-- Two spans share an offset. The source adds with saturation at the largest `u64`. -/
def overlaps (a b : GlobalSpan) : Bool :=
  a.offset < min b.stop (2 ^ 64 - 1) && b.offset < min a.stop (2 ^ 64 - 1)

/-- The span as it is persisted, which is neither empty nor too long. -/
def persisted (span : GlobalSpan) : Option PersistedSpan :=
  if fits : span.stop < 2 ^ 64 then
    (PersistedSpan.new ⟨span.offset, (Nat.le_add_right ..).trans_lt fits⟩
      ⟨span.len, (Nat.le_add_left ..).trans_lt fits⟩).toOption
  else none

end GlobalSpan

structure FileEntry where
  id : FileId
  globalStart : U64
  globalEnd : U64
  selected : Bool
  deriving DecidableEq

/-- The files lie one after the other from an offset on, numbered from an index on. -/
def Contiguous : ℕ → ℕ → List FileEntry → Prop
  | _, _, [] => True
  | index, start, file :: rest =>
    file.id.get.val = index ∧ file.globalStart.val = start ∧ start ≤ file.globalEnd.val ∧
      Contiguous (index + 1) file.globalEnd.val rest

structure FileLayout where
  task : TaskId
  generation : Generation
  files : List FileEntry
  totalLength : Option U64
  pieceLength : U64
  layoutHash : JournalHash
  nonempty : files ≠ []
  pieceLength_ne_zero : pieceLength.val ≠ 0
  contiguous : Contiguous 0 0 files
  total : ∀ total ∈ totalLength, ∀ last ∈ files.getLast?, last.globalEnd = total

inductive MapSpanError where
  | unknownTotalLength
  | emptySpan
  | overflow
  | outsideLayout
  | crossFileSpan
  | unselectedFile
  deriving DecidableEq

structure FileSpan where
  file : FileId
  fileOffset : ℕ
  len : ℕ
  deriving DecidableEq

namespace FileLayout

variable (layout : FileLayout)

/-- The one selected file with a span, and where in it the span starts. -/
def map (span : GlobalSpan) : Except MapSpanError FileSpan :=
  match layout.totalLength with
  | none => .error .unknownTotalLength
  | some total =>
    if span.len = 0 then .error .emptySpan
    else if 2 ^ 64 ≤ span.stop then .error .overflow
    else if total.val < span.stop then .error .outsideLayout
    else
      match layout.files.find? fun file =>
          file.globalStart.val ≤ span.offset ∧ span.offset < file.globalEnd.val with
      | none => .error .outsideLayout
      | some file =>
        if file.globalEnd.val < span.stop then .error .crossFileSpan
        else if !file.selected then .error .unselectedFile
        else .ok ⟨file.id, span.offset - file.globalStart.val, span.len⟩

def pieceOf (offset : ℕ) : PieceId := ⟨Fin.ofNat _ (offset / layout.pieceLength.val)⟩

def pieceSpan (piece : PieceId) : Option PersistedSpan := do
  let total ← layout.totalLength
  let offset := piece.get.val * layout.pieceLength.val
  guard (offset < 2 ^ 64 ∧ offset < total.val)
  (PersistedSpan.new (Fin.ofNat _ offset)
    (Fin.ofNat _ (min layout.pieceLength.val (total.val - offset)))).toOption

/-- The pieces from one to the one with the last byte before an offset. -/
def piecesFrom (piece : PieceId) (stop : ℕ) : List PieceId :=
  let last := (stop - 1) / layout.pieceLength.val
  (List.range' piece.get.val (last + 1 - piece.get.val)).map fun index => ⟨Fin.ofNat _ index⟩

end FileLayout

/-! ## Records of the storage engine

The records that a storage engine appends to the journal of its task, with
the closed vocabularies of `journal_tags.rs` they use, and the hashes it
computes for them. SHA-256 is a function of the bytes it is given, and a
content digest a function of the hasher.
-/

/-! ## Vocabularies -/

inductive LeaseAbortReason where
  | cancelled
  | redirect
  | shortBody
  | oversizedBody
  | invalidRange
  | staleValidator
  | digestMismatch
  | storageRejected
  | overlapLost
  | overlapUncertain
  | retry
  | generationDrain
  deriving DecidableEq

inductive DataBarrierKind where
  | balancedGroup
  | strictPiece
  | fastFinalization
  | recoveryReadback
  deriving DecidableEq

inductive RetryScope where
  | task
  | uri
  | span
  | piece
  deriving DecidableEq

inductive RetryReason where
  | backoff
  | retryAfter
  | policyClamp
  deriving DecidableEq

structure ProtocolValidator where
  protocol : UInt8
  source : JournalHash
  totalLength : U64
  modifiedUnixSeconds : Option U64
  hostKey : Option JournalHash
  deriving DecidableEq

/-! ## Records -/

inductive JournalPayload where
  | leaseStarted (transferAttemptId : TransferAttemptId) (leaseId : LeaseId)
      (span : PersistedSpan) (validatorFingerprint : JournalHash)
  | pieceStarted (leaseId : LeaseId) (pieceId : PieceId) (pieceSpan : PersistedSpan)
  | pieceWritten (leaseId : LeaseId) (pieceId : PieceId) (writtenSpan : PersistedSpan)
  | leaseCommitted (leaseId : LeaseId) (span : PersistedSpan)
      (validatorFingerprint : JournalHash) (responseDigest : Option JournalDigest)
  | leaseAborted (leaseId : LeaseId) (reason : LeaseAbortReason)
  | pieceVerified (pieceId : PieceId) (pieceSpan : PersistedSpan)
      (contributorsHash : JournalHash) (digest : JournalDigest)
  | pieceFailed (leaseId : Option LeaseId) (pieceId : PieceId) (pieceSpan : PersistedSpan)
      (errorClass : ErrorKind) (attempt : U32)
  | pieceDurable (pieceId : PieceId) (pieceSpan : PersistedSpan)
      (contributorsHash validatorSetFingerprint : JournalHash) (digest : Option JournalDigest)
      (dataBarrier : DataBarrierKind)
  | retryState (scope : RetryScope) (scopeId : PersistedId) (attempt : U32)
      (elapsedBeforeWaitMs scheduledAtUnixMs delayMs : U64) (errorClass : ErrorKind)
      (retryReason : RetryReason)
  | taskComplete (layoutHash : JournalHash) (finalLength : U64)
      (finalDigest : Option JournalDigest) (completedAtUnixMs : U64)
  | httpRangeIdentity (identityFingerprint : JournalHash) (totalLength : U64)
      (representationDigest : JournalDigest)
  | verificationManifest (fingerprint : JournalHash) (totalBytes chunkCount : U32)
      (bytes : Bytes)
  | verificationManifestChunk (fingerprint : JournalHash) (chunkIndex chunkCount : U32)
      (bytes : Bytes)
  | protocolValidator (validator : ProtocolValidator)
  | wholeFileVerified (fingerprint : JournalHash) (digests : List JournalDigest)
  deriving DecidableEq

/-! ## Hashes -/

/-- A hasher with everything it was updated with. -/
structure ContentHasher where
  algorithm : JournalDigestAlgorithm
  content : Bytes

def ContentHasher.new (algorithm : JournalDigestAlgorithm) : ContentHasher := ⟨algorithm, []⟩

def ContentHasher.update (hasher : ContentHasher) (bytes : Bytes) : ContentHasher :=
  { hasher with content := hasher.content ++ bytes }

/-- The hash functions of the libraries, of which the code relies on a SHA-256 not being zero. -/
structure ContentHashes where
  finalize : ContentHasher → JournalDigest
  sha256 : Bytes → JournalHash

def hashDomain (name : String) : Bytes := name.toUTF8.data.toList

namespace ContentHashes

variable (hashes : ContentHashes)

section

variable (contributors : List JournalContributor)

def calculateContributorsHash : Option JournalHash :=
  if (contributors.map fun c => c.leaseId.get.val).IsChain (· < ·) ∧
      contributors.length < 2 ^ 32 then
    some <| hashes.sha256 <| hashDomain "ariax/contributors/v1\x00" ++
      leBytes 4 contributors.length ++ contributors.flatMap fun c =>
        leBytes 8 c.leaseId.get.val ++ leBytes 8 c.span.offset.val ++ leBytes 8 c.span.len.val ++
          c.validatorFingerprint.bytes.toList
  else none

def distinctValidators : List (List UInt8) :=
  ((contributors.map fun c => c.validatorFingerprint.bytes.toList).mergeSort
    fun a b => decide (a ≤ b)).dedup

def calculateValidatorSetFingerprint : Option JournalHash :=
  let validators := distinctValidators contributors
  if validators.length < 2 ^ 32 then
    some <| hashes.sha256 <| hashDomain "ariax/validator-set/v1\x00" ++
      leBytes 4 validators.length ++ validators.flatten
  else none

end

/-- Hashes the settled representation digest and length of digest-only range leases. -/
def calculateHttpRangeIdentityFingerprint (representationDigest : JournalDigest)
    (totalLength : U64) : Option JournalHash :=
  if representationDigest.algorithm = .sha256 then
    some <| hashes.sha256 <| hashDomain "ariax/http-shared-range-digest/v1\x00" ++
      leBytes 8 totalLength.val ++ representationDigest.value
  else none

end ContentHashes

/-! ## The records of a manifest -/

def verificationManifestPartBytes : ℕ := 64 * 1024

def JournalDigestAlgorithm.tag : JournalDigestAlgorithm → UInt8
  | .md5 => 1
  | .sha1 => 2
  | .sha256 => 3
  | .sha512 => 4

namespace VerificationManifest

variable (hashes : ContentHashes) (manifest : VerificationManifest)

def encode : Bytes :=
  [1] ++ leBytes 8 manifest.totalLength.val ++ leBytes 8 manifest.chunkLength.val ++
    leBytes 4 manifest.chunks.length ++ [UInt8.ofNat manifest.whole.length] ++
    (manifest.chunks ++ manifest.whole).flatMap fun digest => digest.algorithm.tag :: digest.value

def fingerprint : JournalHash :=
  hashes.sha256 (hashDomain "ariax/verification-manifest/v1\x00" ++ manifest.encode)

/-- The records that spell the manifest, each well below the size limit of a record. -/
def journalPayloads : List JournalPayload :=
  let bytes := manifest.encode
  let count := divCeil bytes.length verificationManifestPartBytes
  (List.range count).map fun index =>
    let part := window bytes (index * verificationManifestPartBytes) verificationManifestPartBytes
    if index = 0 then
      .verificationManifest (manifest.fingerprint hashes) (Fin.ofNat _ bytes.length)
        (Fin.ofNat _ count) part
    else
      .verificationManifestChunk (manifest.fingerprint hashes) (Fin.ofNat _ index)
        (Fin.ofNat _ count) part

end VerificationManifest

end Ariax
