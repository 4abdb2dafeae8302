import Ariax.ChunkHash.Placed
import Ariax.Storage.Steady

/-!
# What a call does to the verification

The part of an engine that its checksums are about: the manifest with its
coordinator, whether the whole file was verified, the records of the journal
and whether a lease was ever opened or is open. Each call changes it by a
sequence of moves, whatever the journal, the files and the processor pool do
to the call. Only a block that is handed to the coordinator can lose it.
-/

namespace Ariax

open ChunkHashCoordinator IsTrans

namespace JournalPayload

def durablePiece : JournalPayload → Option PieceId
  | .pieceDurable pieceId _ _ _ _ _ => some pieceId
  | _ => none

/-- A record vouches for no digest but the one that a manifest has for the piece. -/
def Agrees (manifest : VerificationManifest) (payload : JournalPayload) : Prop :=
  ∀ piece digest, payload.verdict = some (piece, digest) →
    ∀ expected ∈ manifest.chunks[piece.get.val]?, digest = some expected

theorem Plain.agrees {payload : JournalPayload} (plain : payload.Plain)
    (manifest : VerificationManifest) : payload.Agrees manifest := by
  intro piece digest found
  rw [plain.1] at found
  cases found

end JournalPayload

structure AuditView where
  verification : Option Verification
  wholeFileVerified : Bool
  records : List JournalPayload
  opened : Bool
  writing : Bool

def StorageEngine.audit (s : StorageEngine) : AuditView :=
  ⟨s.verification, s.wholeFileVerified, s.records, decide (s.seenLeases ≠ ∅), !s.active.isEmpty⟩

/-- The ways in which a call changes what its checksums are about, when it may make pieces with a
property durable, and may lose the coordinator or append a completion only if that is allowed. -/
inductive AuditMove (hashes : ContentHashes) (K : PieceId → Prop) (loss completion : Prop)
    (v : AuditView) : AuditView → Prop where
  | recorded {payload : JournalPayload}
      (agrees : ∀ w ∈ v.verification, payload.Agrees w.manifest)
      (completes : payload.isTaskComplete = true → completion) :
      AuditMove hashes K loss completion v { v with records := v.records ++ [payload] }
  | coordinated {w : Verification} {c : ChunkHashCoordinator w.manifest}
      (installed : v.verification = some w) (sheds : w.coordinator.Sheds (fun _ _ => True) c) :
      AuditMove hashes K loss completion v { v with verification := some ⟨w.manifest, c⟩ }
  | marked {w : Verification} {piece : PieceId} (installed : v.verification = some w)
      (known : K piece) (recorded : ∃ r ∈ v.records, r.durablePiece = some piece) :
      AuditMove hashes K loss completion v
        { v with verification := some ⟨w.manifest, w.coordinator.markDurable piece⟩ }
  | sealed {w : Verification} (installed : v.verification = some w)
      (recorded : .wholeFileVerified (w.manifest.fingerprint hashes) w.manifest.whole ∈ v.records) :
      AuditMove hashes K loss completion v { v with wholeFileVerified := true }
  | lost (allowed : loss) (writing : v.writing = true) :
      AuditMove hashes K loss completion v { v with verification := none }
  | installed {w : Verification} (fresh : v.verification = none) (unopened : v.opened = false)
      (unknown : ∀ piece : PieceId, w.coordinator.chunks[piece]? = none) :
      AuditMove hashes K loss completion v { v with verification := some w }
  | entered (writing : Bool) :
      AuditMove hashes K loss completion v { v with opened := true, writing := writing }
  | left {writing : Bool} (fewer : writing = true → v.writing = true) :
      AuditMove hashes K loss completion v { v with writing := writing }

namespace StorageEngine

/-- A sequence of moves leads from one engine to the other. -/
def AuditMoves (hashes : ContentHashes) (K : PieceId → Prop) (loss completion : Prop)
    (s s' : StorageEngine) : Prop :=
  Relation.ReflTransGen (AuditMove hashes K loss completion) s.audit s'.audit

variable {hashes : ContentHashes} {K : PieceId → Prop} {loss completion : Prop}

instance : Std.Refl (AuditMoves hashes K loss completion) := ⟨fun _ => .refl⟩

instance : IsTrans StorageEngine (AuditMoves hashes K loss completion) := ⟨fun _ _ _ => .trans⟩

variable {s : StorageEngine} {payload : JournalPayload}

variable
  {call : ∀ {manifest : VerificationManifest}, ChunkHashCoordinator.ChunkHashCall manifest Unit}
  {lease : LeaseId} {outcome : ReadyOutcome} {buffer : BufferLease} {s' : StorageEngine}
  {chunk : ReadyChunk}

theorem AuditMoves.of_same (same : SameView audit s s') :
    AuditMoves hashes K loss completion s s' := by
  rw [AuditMoves, show s'.audit = s.audit from same]

theorem AuditMoves.of_move {v : AuditView} (move : AuditMove hashes K loss completion s.audit v)
    (reached : s'.audit = v) : AuditMoves hashes K loss completion s s' := by
  rw [AuditMoves, reached]
  exact .single move

/-! ## The journal, the files and the checks -/

instance : Steady (SameView audit) where
  operates s := by
    simp only [operate, wp_bind, wp_get, wp_set, wp_pure]
    rfl

theorem flush_audit : Tracks (SameView audit) flush := flush_tracks

/-- A record is appended in a state that looks like the one before the call; a call that returns
appended it. -/
theorem wp_appendPayload {post : Unit → StorageEngine → Prop}
    {fails : StorageFailure → StorageEngine → Prop}
    (appended : ∀ s', s'.audit = { s.audit with records := s.records ++ [payload] } →
      post () s' ∧ ∀ e, fails e s') (throws : ∀ e s', SameView audit s s' → fails e s') :
    wp (appendPayload payload) post fails s := by
  refine wp_bind.mpr ((Steady.operates (R := SameView audit)).spec (fun outcome s₁ same => ?_)
    throws)
  have recorded : (s₁.record payload).audit =
      { s.audit with records := s.records ++ [payload] } := by
    rw [← same, show s.records = s₁.records from (congrArg AuditView.records same).symm]
    rfl
  cases outcome with
  | succeeds => exact wp_modify.mpr (appended _ recorded).1
  | fails => exact wp_throw.mpr (throws _ s₁ same)
  | recordsAndFails =>
    exact wp_modify_bind (wp_throw.mpr ((appended _ recorded).2 _))

/-- What a call does to an engine without a manifest, when it installs none. -/
def Unchecked (hashes : ContentHashes) (K : PieceId → Prop) (loss completion : Prop)
    (s s' : StorageEngine) : Prop :=
  s.verification = none → AuditMoves hashes K loss completion s s' ∧ s'.verification = none ∧
    s'.audit.opened = s.audit.opened

instance : Std.Refl (Unchecked hashes K loss completion) := ⟨fun _ none => ⟨.refl, none, rfl⟩⟩

instance : IsTrans StorageEngine (Unchecked hashes K loss completion) where
  trans := by
    intro a b c first second none
    obtain ⟨moves, none, opened⟩ := first none
    obtain ⟨moves', none, opened'⟩ := second none
    exact ⟨moves.trans moves', none, opened'.trans opened⟩

instance : Steady (Unchecked hashes K loss completion) :=
  .mono (Q := SameView audit) fun _ _ same none => ⟨.of_same same,
    (congrArg AuditView.verification same).trans none, congrArg AuditView.opened same⟩

theorem appendPayload_unchecked (incomplete : payload.isTaskComplete = false) :
    Tracks (Unchecked hashes K loss completion) (appendPayload payload) := by
  refine appendPayload_tracks fun s none =>
    ⟨.of_move (.recorded (fun w installed => ?_) fun completes => ?_) rfl, none, rfl⟩
  · cases none.symm.trans installed
  · cases incomplete.symm.trans completes

/-! ## The coordinator -/

section

variable (sheds : ∀ manifest : VerificationManifest,
  Tracks (ChunkHashCoordinator.Sheds fun _ _ => True)
    (call : ChunkHashCoordinator.ChunkHashCall manifest Unit))
include sheds

theorem run_sheds (w : Verification) :
    ∃ c, (w.run call).2 = ⟨w.manifest, c⟩ ∧ w.coordinator.Sheds (fun _ _ => True) c := by
  have tracked := sheds w.manifest w.coordinator
  unfold Verification.run
  split
  · exact ⟨_, rfl, tracked.1 _ _ ‹_›⟩
  · exact ⟨_, rfl, tracked.2 _ _ ‹_›⟩

theorem coordinate_moves :
    Tracks (AuditMoves hashes K loss completion) (coordinate call) := by
  refine Tracks.get_bind fun s => ?_
  cases installed : s.verification with
  | none => exact wp_pure.mpr .refl
  | some w =>
    obtain ⟨c, after, shed⟩ := run_sheds sheds w
    have moved : AuditMoves hashes K loss completion s
        (s.withVerification (some (w.run call).2)) := by
      refine .of_move (.coordinated installed shed) ?_
      rw [after]
      rfl
    refine wp_set_bind ?_
    cases (w.run call).1 with
    | none => exact wp_pure.mpr moved
    | some => exact wp_throw.mpr moved

end

theorem adjust_moves {change : ∀ {manifest : VerificationManifest},
      ChunkHashCoordinator manifest → ChunkHashCoordinator manifest}
    (sheds : ∀ {manifest : VerificationManifest} (c : ChunkHashCoordinator manifest),
      c.Sheds (fun _ _ => True) (change c)) :
    Tracks (AuditMoves hashes K loss completion) (adjust change) := by
  refine .modify fun s => ?_
  cases installed : s.verification with
  | none =>
    refine .of_same ?_
    simp only [SameView, audit, withVerification, installed, Option.map_none]
    rfl
  | some w => exact .of_move (.coordinated installed (sheds w.coordinator)) rfl

theorem AuditMoves.record (plain : payload.Plain) (s : StorageEngine) :
    AuditMoves hashes K loss completion s (s.record payload) := by
  refine .of_move (.recorded (fun w _ => plain.agrees w.manifest) fun completes => ?_) rfl
  cases plain.2.symm.trans completes

instance : Steady (AuditMoves hashes K loss completion) :=
  .mono (Q := SameView audit) fun _ _ => .of_same

instance : Lenient (AuditMoves hashes K loss completion) :=
  { (inferInstance : Steady (AuditMoves hashes K loss completion)) with
    records := fun s _ _ plain => .record plain s
    forgets := fun piece => adjust_moves fun c => .invalidate c piece }

theorem run_feed {offset : U64} (w : Verification) :
    (∃ c, (w.run (feed lease offset buffer)).2 = ⟨w.manifest, c⟩ ∧
      w.coordinator.Sheds (fun _ _ => True) c) ∧
    ((∀ piece ∈ piecesOf w.manifest offset.val
        (offset.val + buffer.bytes.length), (w.coordinator.chunks[piece]?).isSome) →
      (w.run (feed lease offset buffer)).1 ≠ some .panicked) := by
  have given : FedAt (fun _ _ => True) offset.val buffer.bytes := fun _ _ _ => trivial
  have fed : wp (feed lease offset buffer) _ _ w.coordinator := wp_feed given _
  unfold Verification.run
  split
  · exact ⟨⟨_, rfl, fed.1 _ _ ‹_›⟩, by simp⟩
  · rename_i failure after failed
    obtain ⟨returned, shed⟩ := fed.2 _ _ failed
    exact ⟨⟨_, rfl, shed⟩, fun known => by simpa using returned known⟩

/-- A buffer for chunks that the coordinator knows, whose job is neither dropped nor lost, leaves
the coordinator with the engine. -/
theorem feedVerification_moves {offset : U64} {job : JobOutcome Unit}
    (writing : s.audit.writing = true)
    (kept : ¬loss → job ≠ .dropped ∧ job ≠ .lost ∧ ∀ w ∈ s.verification,
      ∀ piece ∈ piecesOf w.manifest offset.val
        (offset.val + buffer.bytes.length), (w.coordinator.chunks[piece]?).isSome) :
    wpEnds (feedVerification lease offset buffer job) (AuditMoves hashes K loss completion s)
      s := by
  have lost (allowed : loss) :
      AuditMoves hashes K loss completion s (s.withVerification none) :=
    .of_move (.lost allowed writing) rfl
  cases job with
  | refused | droppedWaiting => exact wp_throw.mpr .refl
  | dropped =>
    refine wp_modify_bind (wp_throw.mpr (lost ?_))
    exact by_contra fun forbidden => (kept forbidden).1 rfl
  | lost =>
    refine wp_modify_bind (wp_throw.mpr (lost ?_))
    exact by_contra fun forbidden => (kept forbidden).2.1 rfl
  | done =>
    refine wp_get_bind (wp_orThrow_bind .refl ?_)
    intro w installed
    obtain ⟨⟨c, after, shed⟩, returned⟩ := run_feed w
    generalize w.run (feed lease offset buffer) = ran at after returned ⊢
    obtain ⟨failure, w'⟩ := ran
    obtain rfl : w' = ⟨w.manifest, c⟩ := after
    have moved : AuditMoves hashes K loss completion s
        (s.withVerification (some ⟨w.manifest, c⟩)) :=
      .of_move (.coordinated installed shed) rfl
    cases failure with
    | none => exact wp_set.mpr moved
    | some failure =>
      cases failure with
      | returned => exact wp_set_bind (wp_throw.mpr moved)
      | panicked =>
        refine wp_set_bind (wp_throw.mpr (lost ?_))
        exact by_contra fun forbidden => returned ((kept forbidden).2.2 w installed) rfl

/-! ## Verified storage -/

theorem configureVerification_moves {manifest : VerificationManifest} {alignment : ChunkAlignment}
    {reorderBytes : ℕ} {persisted : Bool} {durable : List PieceId} {poolStarts : Bool} :
    Tracks (AuditMoves hashes K loss completion)
      (configureVerification hashes manifest alignment reorderBytes persisted durable
        poolStarts) := by
  have plain : ∀ payload ∈ manifest.journalPayloads hashes, payload.isTaskComplete = false := by
    intro payload member
    obtain ⟨index, -, rfl⟩ := List.mem_map.mp member
    split <;> rfl
  unfold configureVerification
  generalize manifest.journalPayloads hashes = payloads at plain
  refine Tracks.get_bind fun s => ?_
  refine wp_throwIf_bind .refl fun fresh => ?_
  refine wp_throwIf_bind .refl fun _ => wp_set_bind ?_
  simp only [not_or, Bool.not_eq_true, Option.isSome_eq_false_iff, Option.isNone_iff_eq_none,
    not_not] at fresh
  obtain ⟨none, unopened, -, -⟩ := fresh
  have unopened : s.audit.opened = false := by simp [audit, unopened]
  have started : Unchecked hashes K loss completion s { s with cpuPool := true } := fun none =>
    ⟨.of_same rfl, none, rfl⟩
  have install {s₁ : StorageEngine} (before : Unchecked hashes K loss completion s s₁) :
      AuditMoves hashes K loss completion s (s₁.withVerification (some ⟨manifest,
        durable.foldl markDurable
          (.new manifest alignment (min reorderBytes s.residentLimit))⟩)) := by
    obtain ⟨moves, none, same⟩ := before none
    refine trans _ s₁ _ moves (.of_move (.installed none (same.trans unopened) ?_) rfl)
    intro piece
    exact foldl_markDurable_chunks (by simp [new])
  have written : Tracks (Unchecked hashes K loss completion) (forM payloads fun payload => do
      appendPayload payload
      let _ ← flush) :=
    .forM fun payload member => (appendPayload_unchecked (plain payload member)).bind fun _ =>
      flush_tracks.bind fun _ => .pure
  cases persisted with
  | true => exact wp_modify.mpr (install started)
  | false =>
    refine wp_bind.mpr ((written.after started).mono (fun _ s₁ before => ?_)
      fun _ _ before => (before none).1)
    exact wp_modify.mpr (install before)

theorem restoreVerifiedContributors_audit {contributors : List JournalContributor} :
    Tracks (AuditMoves hashes K loss completion) (restoreVerifiedContributors contributors) := by
  refine Tracks.get.bind fun _ => Tracks.throwIf.bind fun _ => .forM fun contributor _ => ?_
  refine Tracks.bind (.modify fun s => ?_) fun _ =>
    coordinate_moves fun _ => restoreCommitted_sheds
  refine .of_move (.entered s.audit.writing) ?_
  simp [audit]

theorem writing_erase (writing : (!(s.active.erase lease).isEmpty) = true) :
    s.audit.writing = true := by
  rw [audit, Bool.not_eq_true', Bool.eq_false_iff]
  intro empty
  rw [Std.ExtTreeMap.isEmpty_iff.mp empty] at writing
  simp at writing

theorem withActive_erase_moves (s : StorageEngine) (lease : LeaseId) :
    AuditMoves hashes K loss completion s (s.withActive (s.active.erase lease)) :=
  .of_move (.left writing_erase) rfl

theorem commitVerifiedLease_moves {commit : LeaseCommit} :
    Tracks (AuditMoves hashes K loss completion) (commitVerifiedLease commit) := by
  refine Tracks.get_bind fun s => ?_
  refine wp_orThrow_bind .refl fun active _ => ?_
  refine wp_throwIf_bind .refl fun _ => wp_set_bind ?_
  refine Tracks.after ?_ (withActive_erase_moves s commit.lease)
  refine Tracks.orThrow.bind fun span => Tracks.bind (.forM fun piece _ => ?_) fun _ => ?_
  · refine pieceSpan_tracks.bind fun _ => Tracks.orThrow.bind fun _ => ?_
    exact appendPlain_tracks rfl ⟨rfl, rfl⟩
  · refine (appendPayload_tracks (.record ⟨rfl, rfl⟩)).bind fun _ => flush_tracks.bind fun _ => ?_
    refine Tracks.get.bind fun _ => .ite (fun _ => Tracks.bind ?_ fun _ => .pure) fun _ =>
      Tracks.bind ?_ fun _ => .pure
    · exact coordinate_moves fun _ => commit_sheds
    · exact coordinate_moves fun _ => commitWrittenAfterFence_sheds

/-- A chunk whose digest was compared with that of the manifest is recorded and made durable. -/
theorem publishChunk_moves {digest : JournalDigest} (known : K chunk.piece)
    (matched : ∀ w ∈ s.verification,
      ∀ expected ∈ w.manifest.chunks[chunk.piece.get.val]?, digest = expected) :
    wpEnds (publishChunk hashes outcome chunk digest) (AuditMoves hashes K loss completion s)
      s := by
  -- Both records vouch for the digest that was compared, in states with the same manifest.
  have record {payload : JournalPayload} {s₁ s₂ : StorageEngine}
      (vouches : payload.verdict = some (chunk.piece, some digest))
      (incomplete : payload.isTaskComplete = false) (same : s₁.verification = s.verification)
      (recorded : s₂.audit = { s₁.audit with records := s₁.records ++ [payload] }) :
      AuditMoves hashes K loss completion s₁ s₂ := by
    refine .of_move (.recorded (fun w installed => ?_) fun completes => ?_) recorded
    · intro piece digest' found expected there
      rw [vouches] at found
      obtain ⟨rfl, rfl⟩ := Prod.mk.inj (Option.some.inj found)
      rw [matched w (same ▸ installed) expected there]
    · cases incomplete.symm.trans completes
  refine wp_orThrow_bind .refl fun contributorsHash _ => ?_
  refine wp_orThrow_bind .refl fun fingerprint _ => ?_
  refine wp_bind.mpr (wp_appendPayload (fun s₁ recorded => ?_) fun _ _ => .of_same)
  have first : AuditMoves hashes K loss completion s s₁ := record rfl rfl rfl recorded
  have same₁ : s₁.verification = s.verification := congrArg AuditView.verification recorded
  refine ⟨wp_bind.mpr ((await_tracks : Tracks (SameView audit) _).spec (fun _ s₂ same => ?_)
    fun _ _ same => trans _ _ _ first (.of_same same)), fun _ => first⟩
  have second : AuditMoves hashes K loss completion s s₂ :=
    trans _ _ _ first (.of_same same)
  have same₂ : s₂.verification = s.verification :=
    (congrArg AuditView.verification same).trans same₁
  refine wp_throwIf_bind second fun _ => ?_
  refine wp_bind.mpr (wp_appendPayload (fun s₃ recorded => ?_)
    fun _ _ same => trans _ _ _ second (.of_same same))
  have third : AuditMoves hashes K loss completion s s₃ :=
    trans _ _ _ second (record rfl rfl same₂ recorded)
  refine ⟨wp_bind.mpr (flush_audit.spec (fun sequence s₄ same => ?_)
    fun _ _ same => trans _ _ _ third (.of_same same)), fun _ => third⟩
  have fourth : AuditMoves hashes K loss completion s s₄ :=
    trans _ _ _ third (.of_same same)
  have there : ∃ r ∈ s₄.records, r.durablePiece = some chunk.piece := by
    rw [show s₄.records = s₃.records from congrArg AuditView.records same,
      show s₃.records = _ from congrArg AuditView.records recorded]
    exact ⟨_, List.mem_concat_self, rfl⟩
  refine wp_modify_bind (wp_pure.mpr (trans _ _ _ fourth ?_))
  cases installed : s₄.verification with
  | none =>
    refine .of_same ?_
    simp only [SameView, audit, withVerification, installed, Option.map_none]
    rfl
  | some => exact .of_move (.marked installed known there) rfl

theorem finishChunk_moves (known : K chunk.piece) :
    Tracks (AuditMoves hashes K loss completion) (finishChunk hashes outcome chunk) := by
  refine Tracks.get.bind fun _ => Tracks.orThrow.bind fun _ => Tracks.throwIf.bind fun _ => ?_
  refine await_tracks.bind fun _ => Tracks.orThrow.bind fun digest => ?_
  refine Tracks.get_bind fun s => ?_
  refine wp_orThrow_bind .refl fun w installed => ?_
  refine wp_ite.mpr ⟨fun _ => ?_, fun matched => publishChunk_moves known ?_⟩
  · exact (failPiece_tracks.bind fun _ => .throw) s
  · intro w' installed' expected there
    cases installed.symm.trans installed'
    by_contra differs
    refine matched ?_
    rw [Option.any_eq_true]
    exact ⟨expected, there, by simpa using Ne.symm differs⟩

theorem finishVerification_moves {outcome : PieceId → ReadyOutcome}
    (keys : ∀ w ∈ s.verification, ∀ piece : PieceId, (w.coordinator.chunks[piece]?).isSome →
      K piece) :
    wpEnds (finishVerification hashes outcome) (AuditMoves hashes K loss completion s) s := by
  refine wp_get_bind ?_
  cases installed : s.verification with
  | none => exact wp_pure.mpr .refl
  | some w =>
    dsimp only
    cases found : w.coordinator.ready hashes.finalize with
    | error => exact wp_throw.mpr .refl
    | ok =>
      refine (Tracks.mapM fun chunk member => finishChunk_moves ?_) s
      obtain ⟨_, known, -⟩ := of_mem_ready found member
      exact keys w installed _ (by rw [known]; rfl)

theorem recordWholeFileVerified_moves {digests : List JournalDigest} :
    Tracks (AuditMoves hashes K loss completion) (recordWholeFileVerified hashes digests) := by
  refine Tracks.get_bind fun s => ?_
  refine wp_orThrow_bind .refl fun w installed => ?_
  refine wp_throwIf_bind .refl fun _ => ?_
  refine wp_throwIf_bind .refl fun same => ?_
  obtain rfl := not_not.mp same
  have plain : (JournalPayload.wholeFileVerified (w.manifest.fingerprint hashes)
    w.manifest.whole).Plain := ⟨rfl, rfl⟩
  have moved (s₁ : StorageEngine) (recorded : s₁.audit = { s.audit with records := s.records ++
      [.wholeFileVerified (w.manifest.fingerprint hashes) w.manifest.whole] }) :
      AuditMoves hashes K loss completion s s₁ := by
    refine .of_move (.recorded (fun w _ => plain.agrees w.manifest) fun completes => ?_) recorded
    cases completes
  refine wp_bind.mpr (wp_appendPayload (fun s₁ recorded => ⟨?_, fun _ => moved s₁ recorded⟩)
    fun _ _ => .of_same)
  refine wp_bind.mpr (flush_audit.spec (fun _ s₂ same => wp_modify.mpr ?_)
    fun _ _ same => trans _ _ _ (moved s₁ recorded) (.of_same same))
  have viewed : s₂.audit = _ := Eq.trans same recorded
  refine trans _ _ _ (trans _ _ _ (moved s₁ recorded) (.of_same same))
    (.of_move (.sealed (w := w) ?_ ?_) rfl)
  · exact (congrArg AuditView.verification viewed).trans installed
  · rw [congrArg AuditView.records viewed]
    exact List.mem_concat_self

end StorageEngine

end Ariax
