import Ariax.Storage.Leases

/-!
# Calls that make no move of their own

Most of what a call does to an engine concerns neither its leases nor its
checksums: the journal and the files are operated, and records are appended
that commit nothing and vouch for nothing. What such a call does is read off
once, for every relation between engines that allows these things.
-/

namespace Ariax

namespace JournalPayload

def committedLease : JournalPayload → Option LeaseId
  | .leaseCommitted leaseId _ _ _ => some leaseId
  | _ => none

/-- The piece and the digest that a record vouches for. -/
def verdict : JournalPayload → Option (PieceId × Option JournalDigest)
  | .pieceVerified pieceId _ _ digest => some (pieceId, some digest)
  | .pieceDurable pieceId _ _ _ digest _ => some (pieceId, digest)
  | _ => none

def isTaskComplete : JournalPayload → Bool
  | .taskComplete _ _ _ _ => true
  | _ => false

def Plain (payload : JournalPayload) : Prop :=
  payload.verdict = none ∧ payload.isTaskComplete = false

end JournalPayload

namespace StorageEngine

/-- Whatever an operation on the journal or a file does keeps the relation. -/
class Steady (R : StorageEngine → StorageEngine → Prop) : Prop
    extends Std.Refl R, IsTrans StorageEngine R where
  operates : Tracks R operate

/-- So does a plain record that commits no lease, and a piece of which nothing is known any
more. -/
class Lenient (R : StorageEngine → StorageEngine → Prop) : Prop extends Steady R where
  records : ∀ (s : StorageEngine) (payload : JournalPayload), payload.committedLease = none →
    payload.Plain → R s (s.record payload)
  forgets : ∀ piece, Tracks R (adjust fun coordinator => coordinator.invalidate piece)

variable {Q R : StorageEngine → StorageEngine → Prop}

theorem Steady.mono [Steady Q] [Std.Refl R] [IsTrans StorageEngine R]
    (weaker : ∀ s s', Q s s' → R s s') : Steady R :=
  ⟨Steady.operates.mono weaker⟩

theorem Lenient.mono [Lenient Q] [Std.Refl R] [IsTrans StorageEngine R]
    (weaker : ∀ s s', Q s s' → R s s') : Lenient R :=
  { Steady.mono weaker with
    records := fun s payload uncommitted plain =>
      weaker s _ (Lenient.records s payload uncommitted plain)
    forgets := fun piece => (Lenient.forgets piece).mono weaker }

section Steady

variable [Steady R]

theorem flush_tracks : Tracks R flush := by
  refine Steady.operates.bind fun outcome => ?_
  cases outcome with
  | succeeds => exact Tracks.get.bind fun _ => .pure
  | fails | recordsAndFails => exact .throw

theorem syncPieceFiles_tracks {span : PersistedSpan} : Tracks R (syncPieceFiles span) := by
  refine Tracks.get.bind fun s ↦ Tracks.orThrow.bind fun _ ↦ Steady.operates.bind fun outcome ↦ ?_
  cases outcome with
  | succeeds => exact .pure
  | fails | recordsAndFails => exact .throw

theorem validateIdentity_tracks {task : TaskId} {generation : Generation} :
    Tracks R (validateIdentity task generation) :=
  Tracks.get.bind fun _ => Tracks.throwIf.bind fun _ => .throwIf

theorem pieceSpan_tracks {piece : PieceId} : Tracks R (pieceSpan piece) :=
  Tracks.get.bind fun _ => .orThrow

theorem await_tracks {α : Type} {job : JobOutcome α} : Tracks R (await job) := by
  cases job with
  | done => exact .pure
  | refused | droppedWaiting | dropped | lost => exact .throw

theorem appendPayload_tracks {payload : JournalPayload} (records : ∀ s, R s (s.record payload)) :
    Tracks R (appendPayload payload) := by
  refine Steady.operates.bind fun outcome => ?_
  cases outcome with
  | succeeds => exact .modify records
  | fails => exact .throw
  | recordsAndFails => exact (Tracks.modify records).bind fun _ => .throw

theorem verifyWholeFile_tracks {hashes : ContentHashes} {opened : Bool}
    {job : JobOutcome (Option (List JournalDigest))}
    (records : ∀ digests, Tracks R (recordWholeFileVerified hashes digests)) :
    Tracks R (verifyWholeFile hashes opened job) := by
  refine Tracks.get.bind fun _ => Tracks.orThrow.bind fun _ => Tracks.throwIf.bind fun _ => ?_
  refine Tracks.ite (fun _ => .pure) fun _ => Tracks.throwIf.bind fun _ => ?_
  refine await_tracks.bind fun _ => Tracks.orThrow.bind fun _ => Tracks.throwIf.bind fun _ => ?_
  exact (records _).bind fun _ => .pure

end Steady

variable [Lenient R] {payload : JournalPayload} {piece : PieceId}

theorem appendPlain_tracks (uncommitted : payload.committedLease = none) (plain : payload.Plain) :
    Tracks R (appendPayload payload) :=
  appendPayload_tracks fun s => Lenient.records s payload uncommitted plain

theorem appendAndFlush_tracks (uncommitted : payload.committedLease = none) (plain : payload.Plain)
    :
    Tracks R (do
      appendPayload payload
      let _ ← flush) :=
  (appendPlain_tracks uncommitted plain).bind fun _ => flush_tracks.bind fun _ => .pure

theorem failPiece_tracks {span : PersistedSpan} {errorClass : ErrorKind} :
    Tracks R (failPiece piece span errorClass) :=
  (appendPlain_tracks rfl ⟨rfl, rfl⟩).bind fun _ => flush_tracks.bind fun _ =>
    Lenient.forgets piece

theorem invalidateVerifiedPiece_tracks : Tracks R (invalidateVerifiedPiece piece) := by
  refine Tracks.get.bind fun _ => Tracks.throwIf.bind fun _ => pieceSpan_tracks.bind fun _ => ?_
  exact failPiece_tracks.bind fun _ => Tracks.get.bind fun _ => .throwIf

theorem redownloadIncompleteRecovery_tracks : Tracks R redownloadIncompleteRecovery := by
  refine Tracks.get.bind fun s => ?_
  cases s.verification with
  | none => exact .pure
  | some => exact .forM fun _ _ => failPiece_tracks

theorem appendLeaseStarted_tracks {plan : LeaseWritePlan} {persisted : PersistedSpan}
    {pieces : List PieceId} : Tracks R (appendLeaseStarted plan persisted pieces) :=
  (appendPlain_tracks rfl ⟨rfl, rfl⟩).bind fun _ => .forM fun _ _ =>
    pieceSpan_tracks.bind fun _ => appendPlain_tracks rfl ⟨rfl, rfl⟩

theorem recordRetryState_tracks {retry : RetryStateWrite} : Tracks R (recordRetryState retry) :=
  Tracks.throwIf.bind fun _ => appendAndFlush_tracks rfl ⟨rfl, rfl⟩

theorem recordHttpRangeIdentity_tracks {hashes : ContentHashes} {totalLength : U64}
    {digest : JournalDigest} : Tracks R (recordHttpRangeIdentity hashes totalLength digest) :=
  Tracks.orThrow.bind fun _ => appendAndFlush_tracks rfl ⟨rfl, rfl⟩

theorem recordProtocolValidator_tracks {validator : ProtocolValidator} :
    Tracks R (recordProtocolValidator validator) :=
  appendAndFlush_tracks rfl ⟨rfl, rfl⟩

end StorageEngine

end Ariax
