import Ariax.Storage.Verifying

/-!
# Leases and overlap groups

The calls of `storage_engine.rs`. A lease is opened for a span that no
other active lease meets, unless the two are the members of an overlap
group: the original is active when the group is registered, the duplicate is
opened later or never. The first member that asks to commit freezes the
group and becomes its candidate; it commits once the other member is known
to have written nothing, and otherwise both are rolled back.
-/

namespace Ariax

namespace StorageEngine

variable (hashes : ContentHashes) (s : StorageEngine)

/-! ## Opening leases -/

def overlapping (span : GlobalSpan) : List LeaseId :=
  s.active.keysWhere fun active => active.plan.span.overlaps span

section

variable (plan : LeaseWritePlan)

/-- The one lease that a plan may meet: the other member of its group. -/
def meetsPeer (group : OverlapGroupId) : Bool :=
  match s.overlapping plan.span with
  | [peer] => (s.active[peer]?).any fun active => active.plan.overlapGroup = some group ∧
      active.plan.span = plan.span ∧ active.plan.validator = plan.validator
  | _ => false

def allowsOverlap (piece : PieceId) : Bool :=
  match plan.overlapGroup with
  | none => (s.overlapping plan.span).isEmpty
  | some group => (s.overlapGroups[group]?).any fun overlap =>
      !overlap.frozen ∧ overlap.piece = piece ∧ overlap.span = plan.span ∧
        plan.lease ∈ overlap.members ∧ s.meetsPeer plan group

def opened (piece : PieceId) : StorageEngine :=
  { s with
    seenLeases := insert plan.lease s.seenLeases
    active := s.active.insert plan.lease ⟨plan, piece, plan.span.offset, 0, .new .sha256⟩ }

section

variable (persisted : PersistedSpan) (pieces : List PieceId)

/-- The coordinator learns of a lease, or that the bytes of a span may come from two leases. -/
def beginVerification : StorageCall Unit :=
  if plan.overlapGroup.isNone then
    coordinate (ChunkHashCoordinator.begin plan.lease persisted plan.validator)
  else
    adjust fun coordinator => pieces.foldl ChunkHashCoordinator.requireReadback coordinator

def appendLeaseStarted : StorageCall Unit := do
  appendPayload (.leaseStarted plan.transferAttempt plan.lease persisted plan.validator)
  forM pieces fun piece => do
    let span ← pieceSpan piece
    appendPayload (.pieceStarted plan.lease piece span)

end

def beginLease : StorageCall (List WriteAck) := do
  validateIdentity plan.task plan.generation
  let s ← get
  throwIf (plan.lease ∈ s.seenLeases ∨ s.active.contains plan.lease) (.rejected .duplicateLease)
  let piece := s.layout.pieceOf plan.span.offset
  let expected ← pieceSpan piece
  throwIf (s.verification.isNone ∧
    (expected.offset.val ≠ plan.span.offset ∨ expected.len.val ≠ plan.span.len))
    (.rejected .nonPieceAlignedLease)
  throwIf (!s.allowsOverlap plan piece) (.rejected .overlapPolicy)
  let persisted ← orThrow plan.span.persisted (.rejected .mapping)
  let pieces := s.layout.piecesFrom piece persisted.stop
  beginVerification plan persisted pieces
  appendLeaseStarted plan persisted pieces
  modify fun s => s.opened plan piece
  return [.provisionalAccepted plan.lease plan.span]

end

/-! ## Committing -/

def commitActive (commit : LeaseCommit) : StorageCall (List WriteAck) := do
  let s ← get
  if s.verification.isSome then
    commitVerifiedLease commit
  else
    let active ← orThrow s.active[commit.lease]? (.rejected .unknownLease)
    validateCommit active commit
    set (s.withActive (s.active.erase commit.lease))
    let span ← pieceSpan active.piece
    let digest := hashes.finalize active.digest
    appendPayload (.pieceWritten commit.lease active.piece span)
    appendPayload (.leaseCommitted commit.lease span commit.validator commit.responseDigest)
    let contributor : JournalContributor := ⟨commit.lease, span, commit.validator⟩
    let contributorsHash ←
      orThrow (hashes.calculateContributorsHash [contributor]) (.rejected .journal)
    let validatorSetFingerprint ←
      orThrow (hashes.calculateValidatorSetFingerprint [contributor]) (.rejected .journal)
    appendPayload (.pieceVerified active.piece span contributorsHash digest)
    syncPieceFiles span
    appendPayload (.pieceDurable active.piece span contributorsHash validatorSetFingerprint
      (some digest) .strictPiece)
    let sequence ← flush
    return [.leaseCommitted commit.lease active.plan.span, .pieceDurable active.piece sequence]

def commitLease (commit : LeaseCommit) : StorageCall (List WriteAck) := do
  validateIdentity commit.task commit.generation
  let s ← get
  let active ← orThrow s.active[commit.lease]? (.rejected .unknownLease)
  validateCommit active commit
  match active.plan.overlapGroup with
  | some id => do
      let group ← orThrow s.overlapGroups[id]? (.rejected .overlapPolicy)
      throwIf (group.frozen ∨ group.candidate.isSome ∨ group.members.card ≠ 2 ∨
        commit.lease ∉ group.members ∨ group.piece ≠ active.piece ∨
        group.span ≠ active.plan.span) (.rejected .overlapPolicy)
      set (s.withGroups
        (s.overlapGroups.insert id { group with frozen := true, candidate := some commit }))
      return [.leaseCommitPending commit.lease id]
  | none => commitActive hashes commit

/-! ## Overlap groups -/

/-- The active leases after a lease joined or left a group. -/
def regroup (active : OrderedMap LeaseId ActiveLease) (lease : LeaseId)
    (group : Option OverlapGroupId) : OrderedMap LeaseId ActiveLease :=
  match active[lease]? with
  | some entry =>
    active.insert lease { entry with plan := { entry.plan with overlapGroup := group } }
  | none => active

def registered (r : OverlapRegistration) (piece : PieceId) (span : GlobalSpan) : StorageEngine :=
  { s with
    active := regroup s.active r.original (some r.group)
    overlapGroups :=
      s.overlapGroups.insert r.group ⟨piece, span, {r.original, r.duplicate}, none, false⟩
    registrations := s.registrations ++ [r] }

def registerOverlapGroup (task : TaskId) (generation : Generation) (group : OverlapGroupId)
    (original duplicate : LeaseId) (span : GlobalSpan) (validator : JournalHash) :
    StorageCall Unit := do
  validateIdentity task generation
  let s ← get
  throwIf (original = duplicate ∨ s.overlapGroups.contains group) (.rejected .overlapPolicy)
  let active ← orThrow s.active[original]? (.rejected .unknownLease)
  throwIf (active.plan.overlapGroup.isSome ∨ active.plan.span ≠ span ∨
    active.plan.validator ≠ validator) (.rejected .overlapPolicy)
  throwIf (duplicate ∈ s.seenLeases) (.rejected .duplicateLease)
  set (s.registered ⟨group, original, duplicate⟩ active.piece span)

theorem insertionSort_of_perm {a b : List LeaseId} (same : a.Perm b) :
    a.insertionSort (· ≤ ·) = b.insertionSort (· ≤ ·) := by
  refine List.Perm.eq_of_pairwise (fun _ _ _ _ => le_antisymm) (List.pairwise_insertionSort _ a)
    (List.pairwise_insertionSort _ b) ?_
  exact (List.perm_insertionSort _ a).trans (same.trans (List.perm_insertionSort _ b).symm)

def inOrder (members : Finset LeaseId) : List LeaseId :=
  Quot.liftOn members.val (List.insertionSort (· ≤ ·)) fun _ _ => insertionSort_of_perm

@[simp] theorem mem_inOrder {members : Finset LeaseId} {lease : LeaseId} :
    lease ∈ inOrder members ↔ lease ∈ members := by
  obtain ⟨⟨listed⟩, distinct⟩ := members
  exact List.mem_insertionSort _

def firstMember (members : Finset LeaseId) : Option LeaseId := (inOrder members).head?

def settleUnopenedOverlapMember (task : TaskId) (generation : Generation) (id : OverlapGroupId)
    (lease : LeaseId) : StorageCall (List WriteAck) := do
  validateIdentity task generation
  let s ← get
  throwIf (s.active.contains lease) (.rejected .overlapPolicy)
  let group ← orThrow s.overlapGroups[id]? (.rejected .overlapPolicy)
  set (s.withGroups (s.overlapGroups.erase id))
  throwIf (lease ∉ group.members ∨ (group.members.erase lease).card ≠ 1) (.rejected .overlapPolicy)
  let remaining ← orThrow (firstMember (group.members.erase lease)) (.rejected .overlapPolicy)
  match group.candidate with
  | some candidate => do
      throwIf (candidate.lease ≠ remaining) (.rejected .overlapPolicy)
      commitActive hashes candidate
  | none => do
      throwIf (!s.active.contains remaining) (.rejected .overlapPolicy)
      modify fun s => s.withActive (regroup s.active remaining none)
      return []

/-- Takes a lease that is no longer active out of the coordinator. -/
def abortVerification (lease : LeaseId) : StorageCall Unit := do
  if (← get).verifies lease then
    coordinate (ChunkHashCoordinator.abort lease)

/-- Both members of a group are aborted, and what they wrote is not trusted. -/
def rollbackOverlap (id : OverlapGroupId) (reason : LeaseAbortReason) :
    StorageCall (List WriteAck) := do
  let s ← get
  let group ← orThrow s.overlapGroups[id]? (.rejected .overlapPolicy)
  set (s.withGroups (s.overlapGroups.erase id))
  let aborted := (inOrder group.members).filter fun lease => s.active.contains lease
  forM aborted fun lease => do
    modify fun s => s.withActive (s.active.erase lease)
    appendPayload (.leaseAborted lease reason)
  throwIf (aborted = []) (.rejected .overlapPolicy)
  adjust fun coordinator => (s.layout.piecesFrom group.piece group.span.stop).foldl
    ChunkHashCoordinator.invalidate coordinator
  let _ ← flush
  return aborted.map .leaseAborted ++ [.spanRolledBack id group.span]

def abortLease (task : TaskId) (generation : Generation) (lease : LeaseId)
    (reason : LeaseAbortReason) : StorageCall (List WriteAck) := do
  validateIdentity task generation
  let s ← get
  let active ← orThrow s.active[lease]? (.rejected .unknownLease)
  match active.plan.overlapGroup with
  | none => do
      set (s.withActive (s.active.erase lease))
      abortVerification lease
      appendPayload (.leaseAborted lease reason)
      let _ ← flush
      return [.leaseAborted lease]
  | some id => do
      let group ← orThrow s.overlapGroups[id]? (.rejected .overlapPolicy)
      throwIf (lease ∉ group.members) (.rejected .overlapPolicy)
      if group.candidate.any (·.lease = lease) ∨ active.writtenLen ≠ 0 then
        rollbackOverlap id reason
      else
        set (s.withActive (s.active.erase lease))
        abortVerification lease
        appendPayload (.leaseAborted lease reason)
        modify fun s => s.withGroups (s.overlapGroups.erase id)
        let remaining ← orThrow (firstMember (group.members.erase lease)) (.rejected .overlapPolicy)
        match group.candidate with
        | some candidate => do
            throwIf (candidate.lease ≠ remaining) (.rejected .overlapPolicy)
            return .leaseAborted lease :: (← commitActive hashes candidate)
        | none => do
            modify fun s => s.withActive (regroup s.active remaining none)
            let _ ← flush
            return [.leaseAborted lease]

/-! ## Writing -/

/-- The engine after a block of a lease was written. -/
def wrote (lease : LeaseId) (active : ActiveLease) (bytes : Bytes) : StorageEngine :=
  s.withActive (s.active.insert lease { active with
    nextOffset := active.nextOffset + bytes.length
    writtenLen := active.writtenLen + bytes.length
    digest := active.digest.update bytes })

def writeBlock (block : WriteBlock) (disk : DiskOutcome) (job : JobOutcome Unit) :
    StorageCall (List WriteAck) := do
  let active ← validateBlock block
  let s ← get
  let _ ← orThrow (s.layout.map ⟨block.globalOffset.val, block.expectedLen.val⟩).toOption
    (.rejected .mapping)
  throwIf (s.nextOperationId = 0) (.rejected .identifierExhausted)
  let next ← orThrow (checkedSucc s.nextOperationId) (.rejected .identifierExhausted)
  set { s with nextOperationId := next }
  match disk with
  | .refused => rejects .diskAdmission
  | .failed placed => do
      modify fun s => s.place block.lease block.globalOffset (block.bytes.take placed)
      rejects .diskCompletion
  | .dropped placed => do
      modify fun s => s.place block.lease block.globalOffset (block.bytes.take placed)
      throw .dropped
  | .written => do
      modify fun s => s.place block.lease block.globalOffset block.bytes
      modify fun s => s.wrote block.lease active block.bytes
      if (← get).verifies block.lease then
        feedVerification block.lease block.globalOffset ⟨block.bytes, block.capacity, true⟩ job
      return [.provisionalAccepted block.lease ⟨block.globalOffset.val, block.expectedLen.val⟩]

/-! ## Other records -/

def recordRetryState (retry : RetryStateWrite) : StorageCall Unit := do
  throwIf (retry.attempt = 0 ∨ (retry.delayMs = 0 ∧ retry.scope ≠ .uri)) (.rejected .journal)
  appendPayload (.retryState retry.scope retry.scopeId retry.attempt retry.elapsedBeforeWaitMs
    retry.scheduledAtUnixMs retry.delayMs retry.errorClass retry.retryReason)
  let _ ← flush

def recordHttpRangeIdentity (totalLength : U64) (representationDigest : JournalDigest) :
    StorageCall Unit := do
  let fingerprint ← orThrow
    (hashes.calculateHttpRangeIdentityFingerprint representationDigest totalLength)
    (.rejected .journal)
  appendPayload (.httpRangeIdentity fingerprint totalLength representationDigest)
  let _ ← flush

def recordProtocolValidator (validator : ProtocolValidator) : StorageCall Unit := do
  appendPayload (.protocolValidator validator)
  let _ ← flush

def complete (finalDigest : Option JournalDigest) (completedAtUnixMs : U64) : StorageCall ℕ := do
  let s ← get
  throwIf (s.verification.any fun verification => !verification.coordinator.isComplete ||
    (verification.manifest.whole ≠ [] && !s.wholeFileVerified)) (.rejected .verification)
  throwIf (!s.active.isEmpty || !s.overlapGroups.isEmpty) (.rejected .leaseMismatch)
  let finalLength ← orThrow s.layout.totalLength (.rejected .mapping)
  appendPayload (.taskComplete s.layout.layoutHash finalLength finalDigest completedAtUnixMs)
  flush

end StorageEngine

/-! ## The machine -/

inductive StorageRequest where
  | beginLease (plan : LeaseWritePlan)
  | registerOverlapGroup (task : TaskId) (generation : Generation) (group : OverlapGroupId)
      (original duplicate : LeaseId) (span : GlobalSpan) (validator : JournalHash)
  | settleUnopenedOverlapMember (task : TaskId) (generation : Generation) (group : OverlapGroupId)
      (lease : LeaseId)
  | writeBlock (block : WriteBlock) (disk : DiskOutcome) (job : JobOutcome Unit)
  | commitLease (commit : LeaseCommit)
  | abortLease (task : TaskId) (generation : Generation) (lease : LeaseId)
      (reason : LeaseAbortReason)
  | recordRetryState (retry : RetryStateWrite)
  | recordHttpRangeIdentity (totalLength : U64) (representationDigest : JournalDigest)
  | recordProtocolValidator (validator : ProtocolValidator)
  | complete (finalDigest : Option JournalDigest) (completedAtUnixMs : U64)
  | configureVerification (manifest : VerificationManifest) (alignment : ChunkAlignment)
      (reorderBytes : ℕ) (persisted : Bool) (durable : List PieceId) (poolStarts : Bool)
  | restoreVerifiedContributors (contributors : List JournalContributor)
  | invalidateVerifiedPiece (piece : PieceId)
  | requireVerificationReadback
  | redownloadIncompleteRecovery
  | finishVerification (outcome : PieceId → ReadyOutcome)
  | recordWholeFileVerified (digests : List JournalDigest)
  | verifyWholeFile (opened : Bool) (job : JobOutcome (Option (List JournalDigest)))

inductive StorageReply where
  | unit
  | acknowledged (acknowledgements : List WriteAck)
  | flushed (sequence : ℕ)
  | digest (digest : Option JournalDigest)
  deriving DecidableEq

open StorageEngine in
def StorageRequest.call (hashes : ContentHashes) : StorageRequest → StorageCall StorageReply
  | .beginLease plan => .acknowledged <$> StorageEngine.beginLease plan
  | .registerOverlapGroup task generation group original duplicate span validator =>
    (fun _ => .unit) <$>
      StorageEngine.registerOverlapGroup task generation group original duplicate span validator
  | .settleUnopenedOverlapMember task generation group lease =>
    .acknowledged <$>
      StorageEngine.settleUnopenedOverlapMember hashes task generation group lease
  | .writeBlock block disk job => .acknowledged <$> StorageEngine.writeBlock block disk job
  | .commitLease commit => .acknowledged <$> StorageEngine.commitLease hashes commit
  | .abortLease task generation lease reason =>
    .acknowledged <$> StorageEngine.abortLease hashes task generation lease reason
  | .recordRetryState retry => (fun _ => .unit) <$> StorageEngine.recordRetryState retry
  | .recordHttpRangeIdentity totalLength representationDigest => (fun _ => .unit) <$>
      StorageEngine.recordHttpRangeIdentity hashes totalLength representationDigest
  | .recordProtocolValidator validator =>
    (fun _ => .unit) <$> StorageEngine.recordProtocolValidator validator
  | .complete finalDigest completedAtUnixMs =>
    .flushed <$> StorageEngine.complete finalDigest completedAtUnixMs
  | .configureVerification manifest alignment reorderBytes persisted durable poolStarts =>
    (fun _ => .unit) <$> StorageEngine.configureVerification hashes manifest alignment
      reorderBytes persisted durable poolStarts
  | .restoreVerifiedContributors contributors =>
    (fun _ => .unit) <$> StorageEngine.restoreVerifiedContributors contributors
  | .invalidateVerifiedPiece piece =>
    (fun _ => .unit) <$> StorageEngine.invalidateVerifiedPiece piece
  | .requireVerificationReadback =>
    (fun _ => .unit) <$> StorageEngine.requireVerificationReadback
  | .redownloadIncompleteRecovery =>
    (fun _ => .unit) <$> StorageEngine.redownloadIncompleteRecovery
  | .finishVerification outcome =>
    .acknowledged <$> StorageEngine.finishVerification hashes outcome
  | .recordWholeFileVerified digests =>
    (fun _ => .unit) <$> StorageEngine.recordWholeFileVerified hashes digests
  | .verifyWholeFile opened job => .digest <$> StorageEngine.verifyWholeFile hashes opened job

def storageMachine (hashes : ContentHashes) :
    Machine StorageEngine StorageRequest (Except StorageFailure StorageReply) where
  initial := {s | ∃ layout sequence medium cpuPool residentLimit,
    layout.totalLength.isSome ∧ s = .openLayout layout sequence medium cpuPool residentLimit}
  next s request :=
    match request.call hashes s with
    | .ok reply after => (.ok reply, after)
    | .error failure after => (.error failure, after)

variable {request : StorageRequest} {P : StorageEngine → Prop} {s : StorageEngine}

theorem storage_next_of_wp {hashes : ContentHashes}
    (called : wpEnds (request.call hashes) P s) :
    P ((storageMachine hashes).next s request).2 := by
  simp only [storageMachine]
  split
  · exact called.1 _ _ ‹_›
  · exact called.2 _ _ ‹_›

theorem storage_ok_of_wp {hashes : ContentHashes} {s' : StorageEngine} {reply : StorageReply}
    (called : wp (request.call hashes) (fun _ => P) (fun _ _ => True) s)
    (done : (storageMachine hashes).next s request = (.ok reply, s')) : P s' := by
  simp only [storageMachine] at done
  split at done
  · obtain ⟨-, rfl⟩ := Prod.mk.inj done
    exact called.1 _ _ ‹_›
  · cases done

/-! ## A small engine -/

namespace StorageSample

theorem one_ne_zero : (1 : U64) ≠ 0 := by decide

theorem two_ne_zero : (2 : U64) ≠ 0 := by decide

theorem three_ne_zero : (3 : U64) ≠ 0 := by decide

theorem hash_ne_zero : Vector.replicate 32 (1 : UInt8) ≠ Vector.replicate 32 0 := by decide

theorem length_digest (byte : UInt8) :
    (List.replicate 32 byte).length = JournalDigestAlgorithm.sha256.valueLen :=
  List.length_replicate

def task : TaskId := ⟨1, one_ne_zero⟩

def original : LeaseId := ⟨1, one_ne_zero⟩

def duplicate : LeaseId := ⟨2, two_ne_zero⟩

def other : LeaseId := ⟨3, three_ne_zero⟩

def group : OverlapGroupId := ⟨1, one_ne_zero⟩

def hash : JournalHash := ⟨Vector.replicate 32 1, hash_ne_zero⟩

def digest (byte : UInt8) : JournalDigest := ⟨.sha256, List.replicate 32 byte, length_digest byte⟩

/-- Hash functions for which all contents look the same. -/
def hashes : ContentHashes := ⟨fun _ => digest 0, fun _ => hash⟩

def file (total : U64) : FileEntry := ⟨⟨0⟩, 0, total, true⟩

theorem files_ne_nil (total : U64) : [file total] ≠ [] := List.cons_ne_nil _ _

theorem four_ne_zero : (4 : U64).val ≠ 0 := by decide

theorem contiguous_file (total : U64) : Contiguous 0 0 [file total] :=
  ⟨rfl, rfl, Nat.zero_le _, trivial⟩

theorem total_file (total : U64) : ∀ total' ∈ some total, ∀ last ∈ [file total].getLast?,
    last.globalEnd = total' := by
  simp [file]

def layout (total : U64) : FileLayout :=
  ⟨task, .initial, [file total], some total, 4, hash, files_ne_nil total, four_ne_zero,
    contiguous_file total, total_file total⟩

def engine (total : U64) : StorageEngine :=
  .openLayout (layout total) 0 ⟨fun _ => .succeeds, 0⟩ true 0

def plan (lease : LeaseId) (span : GlobalSpan) (group : Option OverlapGroupId) : LeaseWritePlan :=
  ⟨task, .initial, ⟨1, one_ne_zero⟩, lease, span, hash, group⟩

def block (lease : LeaseId) (offset len : U64) (byte : UInt8) : WriteBlock :=
  ⟨task, .initial, lease, offset, len, List.replicate len.val byte, len.val, true,
    ⟨Fin.ofNat _ (offset.val / 4)⟩⟩

def commit (lease : LeaseId) (len : U64) : LeaseCommit := ⟨task, .initial, lease, len, hash, none⟩

end StorageSample

end Ariax
