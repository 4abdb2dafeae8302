import Ariax.Storage.AuditSteps

/-!
# Verification is not lost

Once a manifest is configured and as long as the engine keeps its
coordinator, every record about a piece carries the digest that the manifest
has for it, and the task is completed only when all pieces of the manifest
are durable and the whole file was verified if the manifest asks for it.
-/

namespace Ariax

open ChunkHashCoordinator

namespace AuditView

variable {hashes : ContentHashes} {v v' : AuditView}

/-! ## Every run -/

/-- What holds in every state: the coordinator knows chunks of its manifest only, a file that was
verified as a whole belongs to a manifest or to an engine that had leases, and so does an active
lease. -/
structure Keyed (v : AuditView) : Prop where
  placed : ∀ w ∈ v.verification, w.coordinator.Placed fun _ _ => True
  whole : v.wholeFileVerified = true → v.verification = none → v.opened = true
  writing : v.writing = true → v.opened = true

theorem Keyed.move {K : PieceId → Prop} {loss completion : Prop} (keyed : v.Keyed)
    (move : AuditMove hashes K loss completion v v') : v'.Keyed := by
  cases move with
  | recorded => exact ⟨keyed.placed, keyed.whole, keyed.writing⟩
  | coordinated installed sheds =>
    refine ⟨?_, fun _ missing => (by cases missing), keyed.writing⟩
    rintro _ ⟨⟩
    exact sheds.placed (keyed.placed _ installed)
  | marked installed =>
    refine ⟨?_, fun _ missing => (by cases missing), keyed.writing⟩
    rintro _ ⟨⟩
    exact (keyed.placed _ installed).markDurable
  | sealed installed =>
    refine ⟨keyed.placed, fun _ missing => ?_, keyed.writing⟩
    cases installed.symm.trans missing
  | lost _ writing =>
    refine ⟨fun _ installed => (by cases installed), fun _ _ => ?_, keyed.writing⟩
    exact keyed.writing writing
  | installed _ _ unknown =>
    refine ⟨?_, fun _ missing => (by cases missing), keyed.writing⟩
    rintro _ ⟨⟩ piece chunk known
    cases (unknown piece).symm.trans known
  | entered => exact ⟨keyed.placed, fun _ _ => rfl, fun _ => rfl⟩
  | left fewer => exact ⟨keyed.placed, keyed.whole, fun writing => keyed.writing (fewer writing)⟩

theorem Keyed.moves {K : PieceId → Prop} {loss completion : Prop} (keyed : v.Keyed)
    (path : Relation.ReflTransGen (AuditMove hashes K loss completion) v v') : v'.Keyed := by
  induction path with
  | refl => exact keyed
  | tail _ move ih => exact ih.move move

/-! ## Runs that keep the coordinator -/

/-- What holds of an engine with a manifest, of which some pieces were durable from the start and
whose journal had some records. -/
structure Verified (hashes : ContentHashes) (manifest : VerificationManifest)
    (durable : List PieceId) (base : List JournalPayload) (completion : Prop) (v : AuditView) :
    Prop where
  installed : ∃ c : ChunkHashCoordinator manifest, v.verification = some ⟨manifest, c⟩ ∧
    ∀ piece ∈ c.durable, manifest.Has piece ∧
      (piece ∈ durable ∨ ∃ r ∈ v.records, r.durablePiece = some piece)
  whole : v.wholeFileVerified = true →
    .wholeFileVerified (manifest.fingerprint hashes) manifest.whole ∈ v.records
  appended : ∃ later, v.records = base ++ later ∧
    ∀ r ∈ later, r.Agrees manifest ∧ (r.isTaskComplete = true → completion)

variable {manifest : VerificationManifest} {durable : List PieceId} {base : List JournalPayload}
  {completion : Prop} (verified : v.Verified hashes manifest durable base completion)
include verified

theorem Verified.move (move : AuditMove hashes manifest.Has False completion v v') :
    v'.Verified hashes manifest durable base completion := by
  obtain ⟨c, found, known⟩ := verified.installed
  cases move with
  | @recorded payload agrees completes =>
    refine ⟨⟨c, found, fun piece member => ?_⟩, fun whole => ?_, ?_⟩
    · obtain ⟨inside, evidence⟩ := known piece member
      refine ⟨inside, evidence.imp_right ?_⟩
      rintro ⟨r, there, records⟩
      exact ⟨r, List.mem_append_left _ there, records⟩
    · exact List.mem_append_left _ (verified.whole whole)
    · obtain ⟨later, records, each⟩ := verified.appended
      refine ⟨later ++ [payload], by rw [records, List.append_assoc], fun r member => ?_⟩
      rcases mem_snoc.mp member with earlier | rfl
      · exact each r earlier
      · exact ⟨agrees _ found, completes⟩
  | coordinated installed sheds =>
    cases found.symm.trans installed
    refine ⟨⟨_, rfl, fun piece member => ?_⟩, verified.whole, verified.appended⟩
    exact known piece (sheds.durable member)
  | marked installed inside recorded =>
    cases found.symm.trans installed
    refine ⟨⟨_, rfl, fun piece member => ?_⟩, verified.whole, verified.appended⟩
    rcases Finset.mem_insert.mp member with rfl | earlier
    · exact ⟨inside, .inr recorded⟩
    · exact known piece earlier
  | sealed installed recorded =>
    cases found.symm.trans installed
    exact ⟨⟨c, found, known⟩, fun _ => recorded, verified.appended⟩
  | lost allowed => exact allowed.elim
  | installed fresh => cases found.symm.trans fresh
  | entered | left => exact ⟨⟨c, found, known⟩, verified.whole, verified.appended⟩

theorem Verified.moves
    (path : Relation.ReflTransGen (AuditMove hashes manifest.Has False completion) v v') :
    v'.Verified hashes manifest durable base completion := by
  induction path with
  | refl => exact verified
  | tail _ move ih => exact ih.move move

theorem Verified.rebase (completion' : Prop) :
    v.Verified hashes manifest durable v.records completion' :=
  ⟨verified.installed, verified.whole, [], by simp, by simp⟩

end AuditView

/-! ## Durable pieces -/

/-- A coordinator that is complete, and for which only pieces of its manifest are durable, has all
of them durable. -/
theorem ChunkHashCoordinator.mem_durable_of_isComplete {manifest : VerificationManifest}
    {c : ChunkHashCoordinator manifest} (complete : c.isComplete = true)
    (inside : ∀ piece ∈ c.durable, manifest.Has piece) {piece : PieceId}
    (has : manifest.Has piece) : piece ∈ c.durable := by
  have injective : Function.Injective fun piece : PieceId => piece.get.val :=
    Fin.val_injective.comp PieceId.get_injective
  have count : c.durable.card = divCeil manifest.totalLength.val manifest.chunkLength.val := by
    simp only [isComplete, Bool.and_eq_true, decide_eq_true_eq] at complete
    exact complete.1
  have all : c.durable.image (fun piece => piece.get.val) =
      Finset.range (divCeil manifest.totalLength.val manifest.chunkLength.val) := by
    apply Finset.eq_of_subset_of_card_le
    · intro index member
      obtain ⟨piece, durable, rfl⟩ := Finset.mem_image.mp member
      exact Finset.mem_range.mpr (inside piece durable)
    · rw [Finset.card_image_of_injective _ injective, count, Finset.card_range]
  have member : piece.get.val ∈ c.durable.image fun piece => piece.get.val := by
    rw [all]
    exact Finset.mem_range.mpr has
  obtain ⟨piece', durable, same⟩ := Finset.mem_image.mp member
  exact injective same ▸ durable

/-! ## Steps and runs -/

namespace StorageEngine

variable {hashes : ContentHashes} {manifest : VerificationManifest} {durable : List PieceId}
  {s : StorageEngine}

theorem openLayout_keyed {layout : FileLayout} {sequence : ℕ} {medium : Medium} {cpuPool : Bool}
    {residentLimit : ℕ} :
    (openLayout layout sequence medium cpuPool residentLimit).audit.Keyed := by
  constructor <;> simp [openLayout, audit]

theorem keyed_next (keyed : s.audit.Keyed) (request : StorageRequest) :
    ((storageMachine hashes).next s request).2.audit.Keyed := by
  have moves : AuditMoves hashes (fun _ ↦ True) _ _ s _ := request.auditMoves fun _ _ _ _ ↦ trivial
  exact keyed.moves moves

variable {alignment : ChunkAlignment} {reorderBytes : ℕ} {poolStarts : Bool} {persisted : Bool}

theorem configureVerification_installs :
    wp (configureVerification hashes manifest alignment reorderBytes persisted durable poolStarts)
      (fun _ s' => s.verification = none ∧ s.seenLeases = ∅ ∧
        s'.wholeFileVerified = s.wholeFileVerified ∧
        s'.verification = some ⟨manifest, durable.foldl markDurable
          (.new manifest alignment (min reorderBytes s.residentLimit))⟩) (fun _ _ => True) s := by
  unfold configureVerification
  generalize manifest.journalPayloads hashes = payloads
  refine wp_get_bind (wp_throwIf_bind trivial fun fresh => ?_)
  refine wp_throwIf_bind trivial fun _ => wp_set_bind ?_
  simp only [not_or, Bool.not_eq_true, Option.isSome_eq_false_iff, Option.isNone_iff_eq_none,
    not_not] at fresh
  have written {s₁ : StorageEngine} (same : s₁.wholeFileVerified = s.wholeFileVerified) :
      wp (forM payloads fun payload => do
        appendPayload payload
        let _ ← flush) (fun _ s' => s'.wholeFileVerified = s.wholeFileVerified)
        (fun _ _ => True) s₁ := by
    refine wp_forM (fun payload s₂ same => ?_) same
    refine wp_bind.mpr (wp_appendPayload (fun s₃ recorded => ⟨?_, fun _ => trivial⟩)
      fun _ _ _ => trivial)
    refine wp_bind.mpr (flush_audit.spec (fun _ s₄ flushed => wp_pure.mpr ?_) fun _ _ _ => trivial)
    rw [show s₄.wholeFileVerified = s₃.wholeFileVerified from
      congrArg AuditView.wholeFileVerified flushed]
    exact (congrArg AuditView.wholeFileVerified recorded).trans same
  cases persisted with
  | true => exact wp_modify.mpr ⟨fresh.1, fresh.2.1, rfl, rfl⟩
  | false =>
    have started : ({ s with cpuPool := true } : StorageEngine).wholeFileVerified =
      s.wholeFileVerified := rfl
    refine wp_bind.mpr ((written started).mono (fun _ s₁ same => ?_) fun _ _ _ => trivial)
    exact wp_modify.mpr ⟨fresh.1, fresh.2.1, same, rfl⟩

theorem verified_of_configured {reply : StorageReply} {s' : StorageEngine} (keyed : s.audit.Keyed)
    (configured : (storageMachine hashes).next s (.configureVerification manifest alignment
      reorderBytes persisted durable poolStarts) = (.ok reply, s'))
    (inside : ∀ piece ∈ durable, manifest.Has piece) (completion : Prop) :
    s'.audit.Verified hashes manifest durable s'.records completion := by
  obtain ⟨missing, unopened, whole, installed⟩ :=
    storage_ok_of_wp (wp_map.mpr configureVerification_installs) configured
  refine ⟨⟨_, installed, fun piece member => ?_⟩, fun sealed => ?_, [], by simp [audit], by simp⟩
  · have listed : piece ∈ durable := by
      simpa [mem_foldl_markDurable, new] using member
    exact ⟨inside piece listed, .inl listed⟩
  · have opened := keyed.whole (whole.symm.trans sealed) missing
    simp [audit, unopened] at opened

variable {request : StorageRequest}

theorem verified_next (keyed : s.audit.Keyed)
    (kept : request.KeepsVerification s) {base : List JournalPayload}
    (verified : s.audit.Verified hashes manifest durable base (request.isComplete = true)) :
    ((storageMachine hashes).next s request).2.audit.Verified hashes manifest durable base
      (request.isComplete = true) := by
  obtain ⟨c, installed, -⟩ := verified.installed
  have keys : ∀ w ∈ s.verification, ∀ piece : PieceId, (w.coordinator.chunks[piece]?).isSome →
      manifest.Has piece := by
    intro w found piece known
    cases installed.symm.trans found
    obtain ⟨chunk, known⟩ := Option.isSome_iff_exists.mp known
    exact VerificationManifest.has_of_chunkSpan (keyed.placed _ installed piece chunk known).spanned
  have moves : AuditMoves hashes manifest.Has _ _ s _ := request.auditMoves keys
  rw [eq_false (not_not_intro kept)] at moves
  exact verified.moves moves

theorem complete_of_appended (requested : request.isComplete = true)
    (grows : ((storageMachine hashes).next s request).2.records ≠ s.records) : s.Cleared := by
  cases request with
  | complete =>
    revert grows
    apply storage_next_of_wp (P := fun s' => s'.records ≠ s.records → s.Cleared)
    refine wp_map.mpr (complete_spec (fun s' same grows => ?_) fun _ _ _ _ allowed _ => allowed)
    exact (grows (congrArg AuditView.records same)).elim
  | _ => cases requested

theorem appended_of_verified (keyed : s.audit.Keyed) (kept : request.KeepsVerification s)
    (verified : s.audit.Verified hashes manifest durable s.records (request.isComplete = true)) :
    ∃ appended, ((storageMachine hashes).next s request).2.records = s.records ++ appended ∧
      ∀ record ∈ appended, (∀ piece digest, record.verdict = some (piece, digest) →
          ∀ expected ∈ manifest.chunks[piece.get.val]?, digest = some expected) ∧
        (record.isTaskComplete = true → ∃ c : ChunkHashCoordinator manifest,
          s.verification = some ⟨manifest, c⟩ ∧ (∀ piece, manifest.Has piece → piece ∈ c.durable ∧
            (piece ∈ durable ∨ ∃ r ∈ s.records, r.durablePiece = some piece)) ∧
          (manifest.whole ≠ [] → s.wholeFileVerified = true ∧
            .wholeFileVerified (manifest.fingerprint hashes) manifest.whole ∈ s.records)) := by
  obtain ⟨appended, records, each⟩ := (verified_next keyed kept verified).appended
  refine ⟨appended, records, fun record member => ⟨(each record member).1, fun completes => ?_⟩⟩
  have grows : ((storageMachine hashes).next s request).2.records ≠ s.records := by
    intro same
    rw [show ((storageMachine hashes).next s request).2.records = _ from records] at same
    rw [List.append_right_eq_self.mp same] at member
    cases member
  obtain ⟨c, installed, known⟩ := verified.installed
  obtain ⟨complete, whole⟩ :=
    complete_of_appended ((each record member).2 completes) grows _ installed
  refine ⟨c, installed, fun piece has => ?_, fun digests => ?_⟩
  · have there := mem_durable_of_isComplete complete
      (fun piece member => (known piece member).1) has
    exact ⟨there, (known piece there).2⟩
  · exact ⟨whole digests, verified.whole (whole digests)⟩

end StorageEngine

open StorageEngine

/-- Once a manifest is configured, as long as the engine keeps its coordinator: a record about a
piece that the manifest has a digest for carries that digest, and a completion is appended only
when every piece of the manifest is durable and, if the manifest has digests of the whole file, the
whole file was verified. -/
theorem verification_is_kept {hashes : ContentHashes} {s₀ s s₁ s₂ : StorageEngine}
    {τ τ' : List (Step StorageEngine StorageRequest (Except StorageFailure StorageReply))}
    {manifest : VerificationManifest} {alignment : ChunkAlignment} {reorderBytes : ℕ}
    {persisted : Bool} {durable : List PieceId} {poolStarts : Bool} {reply : StorageReply}
    (initial : s₀ ∈ (storageMachine hashes).initial) (run : (storageMachine hashes).Run s₀ τ s)
    (configured : (storageMachine hashes).next s (.configureVerification manifest alignment
      reorderBytes persisted durable poolStarts) = (.ok reply, s₁))
    (inside : (StorageRequest.configureVerification manifest alignment reorderBytes persisted
      durable poolStarts).KeepsVerification s)
    (later : (storageMachine hashes).Run s₁ τ' s₂)
    (kept : Machine.Guarded StorageRequest.KeepsVerification τ') :
    ∀ step ∈ τ', ∃ appended, step.after.records = step.before.records ++ appended ∧
      ∀ record ∈ appended,
        (∀ piece digest, record.verdict = some (piece, digest) →
          ∀ expected ∈ manifest.chunks[piece.get.val]?, digest = some expected) ∧
        (record.isTaskComplete = true → ∃ c : ChunkHashCoordinator manifest,
          step.before.verification = some ⟨manifest, c⟩ ∧
          (∀ piece, manifest.Has piece → piece ∈ c.durable ∧
            (piece ∈ durable ∨ ∃ r ∈ step.before.records, r.durablePiece = some piece)) ∧
          (manifest.whole ≠ [] → step.before.wholeFileVerified = true ∧
            .wholeFileVerified (manifest.fingerprint hashes) manifest.whole ∈
              step.before.records)) := by
  obtain ⟨layout, sequence, medium, cpuPool, residentLimit, -, rfl⟩ := initial
  have keyed := run.invariant (P := fun s => s.audit.Keyed) openLayout_keyed
    fun _ request keyed => keyed_next keyed request
  have start : s₁.audit.Keyed ∧ s₁.audit.Verified hashes manifest durable s₁.records False := by
    refine ⟨?_, verified_of_configured keyed configured inside False⟩
    have next : ((storageMachine hashes).next s (.configureVerification manifest alignment
      reorderBytes persisted durable poolStarts)).2.audit.Keyed := keyed_next keyed _
    rwa [configured] at next
  intro step member
  obtain ⟨earlier, rest, rfl⟩ := List.append_of_mem member
  obtain ⟨middle, before, after⟩ := later.split
  obtain ⟨taken, -⟩ := after.uncons
  have kept₁ : Machine.Guarded StorageRequest.KeepsVerification earlier := fun step there =>
    kept step (List.mem_append_left _ there)
  obtain ⟨keyed₂, verified₂⟩ := before.guarded
    (P := fun s => s.audit.Keyed ∧ s.audit.Verified hashes manifest durable s.records False)
    kept₁ start fun s request holds kept => ⟨keyed_next holds.1 request,
      (verified_next holds.1 kept (holds.2.rebase _)).rebase False⟩
  have keeps := kept step member
  rw [taken] at keeps ⊢
  exact appended_of_verified keyed₂ keeps (verified₂.rebase _)

/-! ## A dropped future -/

namespace StorageSample

variable (byte : UInt8)

theorem uniform (chunks whole : ℕ) (few : chunks ≤ 2) (one : whole ≤ 1) :
    DigestSet (List.replicate chunks (digest byte)) (List.replicate whole (digest byte)) where
  count_le := by
    rw [List.length_replicate]
    exact few.trans (by decide)
  whole_le := by
    rw [List.length_replicate]
    omega
  bytes_le := by
    simp [digest, maxVerificationManifestBytes]
    omega
  one_algorithm := by
    rw [List.map_replicate]
    exact List.isChain_replicate_of_rel _ rfl
  whole_agree _ _ := List.isChain_replicate_of_rel _ rfl

/-- A file of one piece, with a digest for the piece and for the whole. -/
def onePiece (byte : UInt8) : VerificationManifest :=
  ⟨4, 4, [digest byte], [digest byte], four_ne_zero, .inr rfl, uniform byte 1 1 (by decide) le_rfl⟩

/-- A file of two pieces with a digest for each. -/
def twoPieces (byte : UInt8) : VerificationManifest :=
  ⟨8, 4, [digest byte, digest byte], [], four_ne_zero,
    .inr (by decide : divCeil (8 : U64).val (4 : U64).val = 2), uniform byte 2 0 le_rfl (by decide)⟩

def noDigests : VerificationManifest :=
  ⟨4, 4, [], [], four_ne_zero, .inl rfl, uniform 0 0 0 (by decide) (by decide)⟩

def configure (manifest : VerificationManifest) (durable : List PieceId) : StorageRequest :=
  .configureVerification manifest .relaxed 65536 true durable true

/-- A file is downloaded, verified and completed. -/
def verified : List StorageRequest :=
  [.beginLease (plan original ⟨0, 4⟩ none),
    .writeBlock (block original 0 4 0) .written (.done ()), .commitLease (commit original 4),
    .finishVerification fun _ => ⟨true, .done none, .done true⟩,
    .recordWholeFileVerified [digest 0], .complete none 0]

/-- The future of a block is dropped while the coordinator is out; the lease commits and the task
completes. -/
def droppedFuture : List StorageRequest :=
  [configure (onePiece 1) [], .beginLease (plan original ⟨0, 4⟩ none),
    .writeBlock (block original 0 4 0) .written .dropped, .commitLease (commit original 4),
    .complete none 0]

/-- A group of the first half of a piece is rolled back, with which its chunk is forgotten, and a
lease of the other half and the next piece goes on. -/
def forgottenChunk : List StorageRequest :=
  [configure (twoPieces 1) [], .beginLease (plan original ⟨0, 2⟩ none),
    .registerOverlapGroup task .initial group original duplicate ⟨0, 2⟩ hash,
    .beginLease (plan duplicate ⟨0, 2⟩ (some group)), .beginLease (plan other ⟨2, 6⟩ none),
    .writeBlock (block original 0 2 0) .written (.done ()),
    .abortLease task .initial original .cancelled,
    .writeBlock (block other 2 2 0) .written (.done ()),
    .writeBlock { block other 4 4 0 with piece := ⟨0⟩ } .written (.done ()),
    .commitLease (commit other 6),
    .complete none 0]

end StorageSample

open StorageSample in
/-- A file that is verified and completed: the whole file was verified before. -/
theorem verification_is_kept_verified :
    ((storageMachine hashes).final (engine 4) (configure (onePiece 0) [] :: verified)).records.any
        JournalPayload.isTaskComplete = true ∧
      ∀ step ∈ (storageMachine hashes).trace
          ((storageMachine hashes).next (engine 4) (configure (onePiece 0) [])).2 verified,
        ∃ appended, step.after.records = step.before.records ++ appended ∧
          ∀ record ∈ appended, record.isTaskComplete = true →
            step.before.wholeFileVerified = true := by
  refine ⟨by decide +kernel, fun step member => ?_⟩
  have kept : Machine.Guarded StorageRequest.KeepsVerification ((storageMachine hashes).trace
      ((storageMachine hashes).next (engine 4) (configure (onePiece 0) [])).2 verified) := by
    unfold Machine.Guarded
    decide +kernel
  have configured : (storageMachine hashes).next (engine 4) (configure (onePiece 0) []) =
      (.ok .unit, ((storageMachine hashes).next (engine 4) (configure (onePiece 0) [])).2) :=
    Prod.ext (by decide +kernel) rfl
  obtain ⟨appended, records, each⟩ := verification_is_kept ⟨layout 4, 0, _, _, _, rfl, rfl⟩ .nil
    configured (by decide) (Machine.run_trace _ verified) kept step member
  refine ⟨appended, records, fun record there completes => ?_⟩
  obtain ⟨c, -, -, whole⟩ := (each record there).2 completes
  exact (whole (by simp [onePiece])).1

open StorageSample in
/-- A future that is dropped while the coordinator is out, or a buffer for a chunk that the
coordinator has forgotten, leaves an engine that records what it did not compare and completes the
task; pieces that are not in the manifest count as well. -/
theorem verification_is_lost :
    ((((storageMachine hashes).next (engine 4) (configure (onePiece 1) [])).1 = .ok .unit ∧
      (onePiece 1).chunks[0]? = some (digest 1) ∧ digest 0 ≠ digest 1) ∧
      ((storageMachine hashes).final (engine 4) droppedFuture).records.any
        (fun record => record.verdict = some (⟨0⟩, some (digest 0))) = true ∧
      ((storageMachine hashes).final (engine 4) droppedFuture).records.any
        JournalPayload.isTaskComplete = true ∧
      ((storageMachine hashes).final (engine 4) droppedFuture).wholeFileVerified = false) ∧
    ((((storageMachine hashes).next (engine 8) (configure (twoPieces 1) [])).1 = .ok .unit ∧
      (twoPieces 1).chunks[0]? = some (digest 1)) ∧
      ((storageMachine hashes).final (engine 8) forgottenChunk).records.any
        (fun record => record.verdict = some (⟨0⟩, some (digest 0))) = true ∧
      ((storageMachine hashes).final (engine 8) forgottenChunk).records.any
        JournalPayload.isTaskComplete = true) ∧
    ((storageMachine hashes).final (engine 4)
      [configure noDigests [⟨5⟩], .complete none 0]).records.map JournalPayload.isTaskComplete =
        [true] := by
  decide +kernel

end Ariax
