import Ariax.Storage.Audit

/-!
# What a step does to the verification

The calls on leases and overlap groups, and with them every request: it
changes what the checksums are about by a sequence of moves, loses the
coordinator only through a block that is handed to it, and appends a
completion only if it is the request to complete.
-/

namespace Ariax

open Tracks

namespace StorageEngine

variable {hashes : ContentHashes} {K : PieceId → Prop} {loss completion : Prop}
  {s : StorageEngine}

/-! ## Opening and committing -/

variable {generation : Generation} {plan : LeaseWritePlan} {lease : LeaseId}

theorem beginVerification_moves {persisted : PersistedSpan} {pieces : List PieceId} :
    Tracks (AuditMoves hashes K loss completion) (beginVerification plan persisted pieces) :=
  .ite (fun _ => coordinate_moves fun _ => ChunkHashCoordinator.begin_sheds) fun _ =>
    adjust_moves fun _ => .foldl .requireReadback pieces

theorem opened_moves (s : StorageEngine) (plan : LeaseWritePlan) (piece : PieceId) :
    AuditMoves hashes K loss completion s (s.opened plan piece) := by
  refine .of_move (.entered true) ?_
  simp [audit, opened]

theorem beginLease_audit : Tracks (AuditMoves hashes K loss completion) (beginLease plan) := by
  refine validateIdentity_tracks.bind fun _ => get.bind fun s => ?_
  refine Tracks.throwIf.bind fun _ => pieceSpan_tracks.bind fun expected => ?_
  refine Tracks.throwIf.bind fun _ => Tracks.throwIf.bind fun _ => Tracks.orThrow.bind fun _ => ?_
  refine beginVerification_moves.bind fun _ => appendLeaseStarted_tracks.bind fun _ => ?_
  exact bind (.modify fun s => opened_moves s plan _) fun _ => .pure

variable {reason : LeaseAbortReason} {task : TaskId} {commit : LeaseCommit} {id : OverlapGroupId}
  {block : WriteBlock}

theorem commitActive_moves :
    Tracks (AuditMoves hashes K loss completion) (commitActive hashes commit) := by
  refine get_bind fun s => wp_ite.mpr ⟨fun _ => commitVerifiedLease_moves s, fun without => ?_⟩
  have none : s.verification = none := by simpa using without
  have unchanged : Unchecked hashes K loss completion s
      (s.withActive (s.active.erase commit.lease)) := fun none =>
    ⟨withActive_erase_moves s commit.lease, none, rfl⟩
  refine wp_orThrow_bind .refl fun active _ => ?_
  refine wp_throwIf_bind .refl fun _ => wp_set_bind ?_
  refine (after (R := Unchecked hashes K loss completion) ?_ unchanged).imp fun _ done =>
    (done none).1
  refine pieceSpan_tracks.bind fun span => ?_
  refine (appendPayload_unchecked rfl).bind fun _ => (appendPayload_unchecked rfl).bind fun _ => ?_
  refine Tracks.orThrow.bind fun _ => Tracks.orThrow.bind fun _ => ?_
  refine (appendPayload_unchecked rfl).bind fun _ => ?_
  refine syncPieceFiles_tracks.bind fun _ => ?_
  refine (appendPayload_unchecked rfl).bind fun _ => ?_
  exact flush_tracks.bind fun _ => .pure

theorem commitLease_audit :
    Tracks (AuditMoves hashes K loss completion) (commitLease hashes commit) := by
  refine validateIdentity_tracks.bind fun _ => get_bind fun s => ?_
  refine wp_orThrow_bind .refl fun active _ => ?_
  refine wp_throwIf_bind .refl fun _ => ?_
  cases active.plan.overlapGroup with
  | none => exact commitActive_moves s
  | some =>
    refine wp_orThrow_bind .refl fun group _ => ?_
    refine wp_throwIf_bind .refl fun _ => ?_
    exact wp_set_bind (wp_pure.mpr (.of_same rfl))

/-! ## Overlap groups -/

theorem writing_regroup {active : OrderedMap LeaseId ActiveLease} {group : Option OverlapGroupId}
    (writing : (!(regroup active lease group).isEmpty) = true) : (!active.isEmpty) = true := by
  rw [Bool.not_eq_true', Bool.eq_false_iff]
  intro empty
  rw [Std.ExtTreeMap.isEmpty_iff.mp empty] at writing
  simp [regroup] at writing

theorem registerOverlapGroup_audit {group : OverlapGroupId} {original duplicate : LeaseId}
    {span : GlobalSpan} {validator : JournalHash} :
    Tracks (AuditMoves hashes K loss completion)
      (registerOverlapGroup task generation group original duplicate span validator) := by
  refine validateIdentity_tracks.bind fun _ => get_bind fun s => ?_
  refine wp_throwIf_bind .refl fun _ => ?_
  refine wp_orThrow_bind .refl fun active _ => ?_
  refine wp_throwIf_bind .refl fun _ => ?_
  refine wp_throwIf_bind .refl fun _ => wp_set.mpr ?_
  exact .of_move (.left writing_regroup) rfl

theorem regroup_moves (s : StorageEngine) (lease : LeaseId) (group : Option OverlapGroupId) :
    AuditMoves hashes K loss completion s (s.withActive (regroup s.active lease group)) :=
  .of_move (.left writing_regroup) rfl

theorem settleUnopenedOverlapMember_audit : Tracks (AuditMoves hashes K loss completion)
      (settleUnopenedOverlapMember hashes task generation id lease) := by
  refine validateIdentity_tracks.bind fun _ => get_bind fun s => ?_
  refine wp_throwIf_bind .refl fun _ => ?_
  refine wp_orThrow_bind .refl fun group _ => ?_
  refine wp_set_bind (Tracks.after ?_ (.of_same rfl))
  refine Tracks.throwIf.bind fun _ => Tracks.orThrow.bind fun remaining => ?_
  cases group.candidate with
  | some => exact Tracks.throwIf.bind fun _ => commitActive_moves
  | none =>
    refine Tracks.throwIf.bind fun _ => Tracks.bind (.modify fun s => ?_) fun _ => .pure
    exact regroup_moves s remaining none

theorem abortVerification_moves :
    Tracks (AuditMoves hashes K loss completion) (abortVerification lease) :=
  get.bind fun _ => .ite
    (fun _ => coordinate_moves fun _ => ChunkHashCoordinator.abort_sheds) fun _ => .pure

theorem rollbackOverlap_moves :
    Tracks (AuditMoves hashes K loss completion) (rollbackOverlap id reason) := by
  refine get_bind fun s => ?_
  refine wp_orThrow_bind .refl fun group _ => ?_
  refine wp_set_bind (after ?_ (.of_same rfl))
  refine Tracks.bind (.forM fun lease _ => ?_) fun _ => Tracks.throwIf.bind fun _ => ?_
  · refine Tracks.bind (.modify fun s => withActive_erase_moves s lease) fun _ => ?_
    exact appendPlain_tracks rfl ⟨rfl, rfl⟩
  · refine (adjust_moves fun _ => .foldl .invalidate _).bind fun _ => ?_
    exact flush_tracks.bind fun _ => .pure

theorem abortLease_audit : Tracks (AuditMoves hashes K loss completion)
      (abortLease hashes task generation lease reason) := by
  refine validateIdentity_tracks.bind fun _ => get_bind fun s => ?_
  have left : AuditMoves hashes K loss completion s (s.withActive (s.active.erase lease)) :=
    withActive_erase_moves s lease
  refine wp_orThrow_bind .refl fun active _ => ?_
  cases active.plan.overlapGroup with
  | none =>
    refine wp_set_bind (after ?_ left)
    refine abortVerification_moves.bind fun _ ↦ (appendPlain_tracks rfl ⟨rfl, rfl⟩).bind fun _ ↦ ?_
    exact flush_tracks.bind fun _ => .pure
  | some =>
    refine wp_orThrow_bind .refl fun group _ => ?_
    refine wp_throwIf_bind .refl fun _ => ?_
    refine wp_ite.mpr ⟨fun _ => rollbackOverlap_moves s, fun _ => ?_⟩
    refine wp_set_bind (after ?_ left)
    refine abortVerification_moves.bind fun _ ↦ (appendPlain_tracks rfl ⟨rfl, rfl⟩).bind fun _ ↦ ?_
    refine bind (.modify fun s => .of_same rfl) fun _ => ?_
    refine Tracks.orThrow.bind fun remaining => ?_
    cases group.candidate with
    | some =>
      exact Tracks.throwIf.bind fun _ => commitActive_moves.bind fun _ => .pure
    | none =>
      refine Tracks.bind (.modify fun s => regroup_moves s remaining none) fun _ => ?_
      exact flush_tracks.bind fun _ => .pure

/-! ## Writing -/

/-- What the coordinator of an engine needs to come back from a block. -/
def Takes (s : StorageEngine) (block : WriteBlock) (job : JobOutcome Unit) : Prop :=
  job ≠ .dropped ∧ job ≠ .lost ∧ ∀ w ∈ s.verification,
    ∀ piece ∈ ChunkHashCoordinator.piecesOf w.manifest block.globalOffset.val
      (block.globalOffset.val + block.bytes.length), (w.coordinator.chunks[piece]?).isSome

theorem validateBlock_found :
    wp (validateBlock block) (fun _ s' => s' = s ∧ s.audit.writing = true) (fun _ s' => s' = s)
      s := by
  unfold validateBlock validateIdentity
  simp only [wp_bind, wp_get, wp_orThrow, wp_throwIf, wp_pure, implies_true, true_and, and_true]
  intro _ _ entry found
  simp only [audit, Bool.not_eq_true', Bool.eq_false_iff]
  intro _ _ _ _ _ _ _ _ empty
  rw [Std.ExtTreeMap.isEmpty_iff.mp empty] at found
  simp at found

theorem writeBlock_audit {disk : DiskOutcome} {job : JobOutcome Unit}
    (kept : ¬loss → disk = .written → s.verifies block.lease = true → s.Takes block job) :
    wpEnds (writeBlock block disk job) (AuditMoves hashes K loss completion s) s := by
  refine wp_bind.mpr (validateBlock_found.mono (fun active s' checked => ?_) fun _ s' same => ?_)
  swap
  · rw [same]
    exact .refl
  obtain ⟨rfl, writing⟩ := checked
  refine wp_get_bind (wp_orThrow_bind .refl fun _ _ => ?_)
  refine wp_throwIf_bind .refl fun _ => ?_
  refine wp_orThrow_bind .refl fun next _ => ?_
  refine wp_set_bind ?_
  cases disk with
  | refused => exact wp_throw.mpr (.of_same rfl)
  | failed | dropped =>
    exact wp_modify_bind (wp_throw.mpr (.of_same rfl))
  | written =>
    refine wp_modify_bind (wp_modify_bind (wp_get_bind ?_))
    generalize reached : StorageEngine.wrote _ block.lease active block.bytes = s₁
    have same : s₁.verification = s'.verification := by
      rw [← reached]
      rfl
    have still : s₁.audit.writing = true := by
      rw [← reached]
      simp [audit, wrote, withActive]
    have wrote : AuditMoves hashes K loss completion s' s₁ := by
      have move : AuditMove hashes K loss completion s'.audit
          { s'.audit with writing := s₁.audit.writing } := .left fun _ => writing
      refine .of_move move ?_
      rw [← reached]
      rfl
    refine wp_ite.mpr ⟨fun verifies => wp_bind.mpr ?_, fun _ => wp_pure.mpr wrote⟩
    have verifies : s'.verifies block.lease = true := by
      rwa [StorageEngine.verifies, ← same]
    refine (feedVerification_moves still fun forbidden => ?_).mono
      (fun _ _ fed => wp_pure.mpr (IsTrans.trans _ _ _ wrote fed))
      fun _ _ fed => IsTrans.trans _ _ _ wrote fed
    rw [same]
    exact kept forbidden rfl verifies

/-! ## Other records -/

/-- The engine's coordinator, if it has one, lets the task be recorded as complete. -/
def Cleared (s : StorageEngine) : Prop :=
  ∀ w ∈ s.verification, w.coordinator.isComplete = true ∧
    (w.manifest.whole ≠ [] → s.wholeFileVerified = true)

theorem complete_spec {finalDigest : Option JournalDigest} {completedAtUnixMs : U64}
    {post : StorageEngine → Prop} (unchanged : ∀ s', SameView audit s s' → post s')
    (appended : ∀ s' payload, payload.verdict = none →
      s'.audit = { s.audit with records := s.records ++ [payload] } → s.Cleared → post s') :
    wpEnds (complete finalDigest completedAtUnixMs) post s := by
  refine wp_get_bind (wp_throwIf_bind (unchanged s rfl) ?_)
  intro verified
  refine wp_throwIf_bind (unchanged s rfl) fun _ => ?_
  refine wp_orThrow_bind (unchanged s rfl) fun finalLength _ => ?_
  have allowed : s.Cleared := by
    intro w installed
    rw [show s.verification = some w from installed] at verified
    simpa using verified
  refine wp_bind.mpr (wp_appendPayload (fun s₁ recorded => ?_) fun _ s₁ => unchanged s₁)
  have done := appended s₁ _ rfl recorded allowed
  refine ⟨(flush_audit s₁).imp fun s₂ same => ?_, fun _ => done⟩
  exact appended s₂ _ rfl (Eq.trans same recorded) allowed

end StorageEngine

/-! ## Steps -/

/-- The coordinator stays with the engine: a block that reached the file and is handed to the
coordinator is for chunks that it knows, and its job is neither dropped nor lost. Only pieces of a
manifest are configured as durable. -/
def StorageRequest.KeepsVerification (s : StorageEngine) : StorageRequest → Prop
  | .writeBlock block disk job =>
    disk = .written → s.verifies block.lease = true → s.Takes block job
  | .configureVerification manifest _ _ _ durable _ => ∀ piece ∈ durable, manifest.Has piece
  | _ => True

instance (s : StorageEngine) (block : WriteBlock) (job : JobOutcome Unit) :
    Decidable (s.Takes block job) :=
  inferInstanceAs (Decidable (_ ∧ _ ∧ ∀ _ ∈ _, ∀ _ ∈ _, _))

instance (s : StorageEngine) : DecidablePred (StorageRequest.KeepsVerification s)
  | .writeBlock .. => inferInstanceAs (Decidable (_ → _ → _))
  | .configureVerification .. => inferInstanceAs (Decidable (∀ _ ∈ _, _))
  | .beginLease .. | .registerOverlapGroup .. | .settleUnopenedOverlapMember .. | .commitLease ..
  | .abortLease .. | .recordRetryState .. | .recordHttpRangeIdentity ..
  | .recordProtocolValidator .. | .complete .. | .restoreVerifiedContributors ..
  | .invalidateVerifiedPiece .. | .requireVerificationReadback | .redownloadIncompleteRecovery
  | .finishVerification .. | .recordWholeFileVerified .. | .verifyWholeFile .. => .isTrue trivial

def StorageRequest.isComplete : StorageRequest → Bool
  | .complete _ _ => true
  | _ => false

open StorageEngine in
/-- What a request does, when the chunks that the coordinator knows have a property. -/
theorem StorageRequest.auditMoves {hashes : ContentHashes} {K : PieceId → Prop}
    {s : StorageEngine} (request : StorageRequest)
    (keys : ∀ w ∈ s.verification, ∀ piece : PieceId, (w.coordinator.chunks[piece]?).isSome →
      K piece) :
    AuditMoves hashes K (¬request.KeepsVerification s) (request.isComplete = true) s
      ((storageMachine hashes).next s request).2 := by
  apply storage_next_of_wp (P := AuditMoves hashes K _ _ s)
  cases request with
  | writeBlock =>
    exact wp_map.mpr (writeBlock_audit fun kept => not_not.mp kept)
  | finishVerification => exact wp_map.mpr (finishVerification_moves keys)
  | complete =>
    refine wp_map.mpr (complete_spec (fun _ => .of_same) fun _ payload silent recorded _ => ?_)
    exact .of_move (.recorded (fun _ _ _ _ found => by cases silent.symm.trans found) fun _ => rfl)
      recorded
  | beginLease => exact beginLease_audit.map s
  | registerOverlapGroup =>
    exact registerOverlapGroup_audit.map s
  | settleUnopenedOverlapMember =>
    exact settleUnopenedOverlapMember_audit.map s
  | commitLease => exact commitLease_audit.map s
  | abortLease => exact abortLease_audit.map s
  | restoreVerifiedContributors => exact restoreVerifiedContributors_audit.map s
  | recordRetryState => exact recordRetryState_tracks.map s
  | recordHttpRangeIdentity => exact recordHttpRangeIdentity_tracks.map s
  | recordProtocolValidator => exact recordProtocolValidator_tracks.map s
  | configureVerification =>
    exact configureVerification_moves.map s
  | invalidateVerifiedPiece => exact invalidateVerifiedPiece_tracks.map s
  | requireVerificationReadback => exact (adjust_moves .forceReadback).map s
  | redownloadIncompleteRecovery => exact redownloadIncompleteRecovery_tracks.map s
  | recordWholeFileVerified => exact recordWholeFileVerified_moves.map s
  | verifyWholeFile => exact (verifyWholeFile_tracks fun _ => recordWholeFileVerified_moves).map s

end Ariax
