import Ariax.ChunkHash.Coordinator
import Ariax.Lib.Except

/-!
# Chunks of the manifest

A coordinator only knows chunks of its manifest, each with the span that the
manifest gives it. The hash of a chunk has taken in the bytes from its start to
its position, each of them fed for the place at which it stands, and so has the
checkpoint; the fragments that wait are such bytes too. No call but
`markDurable` makes a piece durable, and a buffer for chunks that the
coordinator knows does not end in a panic.
-/

namespace Ariax

open ChunkHashCoordinator Option IsTrans

namespace VerificationManifest

variable {manifest : VerificationManifest}

theorem chunkLength_pos : 0 < manifest.chunkLength.val :=
  Nat.pos_of_ne_zero manifest.chunkLength_ne_zero

/-- A chunk starts at a multiple of the chunk length and stops at the next one or at the end. -/
theorem chunkSpan_eq_some {index : U64} {span : PersistedSpan} :
    manifest.chunkSpan index = some span ↔
      index.val * manifest.chunkLength.val < manifest.totalLength.val ∧
        span.offset.val = index.val * manifest.chunkLength.val ∧
        span.stop = min (index.val * manifest.chunkLength.val + manifest.chunkLength.val)
          manifest.totalLength.val := by
  have bound := manifest.totalLength.isLt
  simp only [chunkSpan]
  generalize index.val * manifest.chunkLength.val = start
  by_cases inside : start ≤ manifest.totalLength.val
  · rw [if_pos ⟨by omega, inside⟩, PersistedSpan.toOption_new_eq_some, ← PersistedSpan.new_eq_ok,
      PersistedSpan.new_clipped_eq_ok inside manifest.chunkLength_pos bound]
  · rw [if_neg fun within => inside within.2]
    simp only [reduceCtorEq, false_iff]
    omega

/-- A piece of the output that a manifest describes. -/
def Has (manifest : VerificationManifest) (piece : PieceId) : Prop :=
  piece.get.val < divCeil manifest.totalLength.val manifest.chunkLength.val

instance (manifest : VerificationManifest) : DecidablePred manifest.Has := fun _ =>
  inferInstanceAs (Decidable (_ < _))

theorem has_of_chunkSpan {piece : PieceId} {span : PersistedSpan}
    (found : manifest.chunkSpan piece.get = some span) : manifest.Has piece :=
  (lt_divCeil_iff manifest.chunkLength_pos).mpr (chunkSpan_eq_some.mp found).1

end VerificationManifest

/-! ## Bytes at their places -/

/-- The bytes from a position on were fed for the places at which they stand. -/
def FedAt (fed : ℕ → UInt8 → Prop) (position : ℕ) (bytes : Bytes) : Prop :=
  ∀ index byte, bytes[index]? = some byte → fed (position + index) byte

variable {fed : ℕ → UInt8 → Prop}

namespace FedAt

variable {position : ℕ} {bytes more : Bytes}

theorem append (first : FedAt fed position bytes)
    (second : FedAt fed (position + bytes.length) more) : FedAt fed position (bytes ++ more) := by
  intro index byte found
  rw [List.getElem?_append] at found
  split at found
  · exact first index byte found
  · have there := second _ _ found
    rwa [show position + bytes.length + (index - bytes.length) = position + index by omega] at there

theorem window (given : FedAt fed position bytes) (start width : ℕ) :
    FedAt fed (position + start) (window bytes start width) := by
  intro index byte found
  rw [Ariax.window, List.getElem?_take] at found
  split at found
  · rw [List.getElem?_drop] at found
    rw [add_assoc]
    exact given _ _ found
  · cases found

end FedAt

variable (fed) in
/-- A hasher has taken in the bytes fed from the start of a span up to a position. -/
def ContentHasher.At (span : PersistedSpan) (position : ℕ) (hasher : ContentHasher) : Prop :=
  span.offset.val + hasher.content.length = position ∧ FedAt fed span.offset.val hasher.content

variable {manifest : VerificationManifest}

variable (fed manifest) in
/-- A chunk of the manifest whose hashes are at their positions. -/
structure Chunk.Placed (piece : PieceId) (chunk : Chunk) : Prop where
  spanned : manifest.chunkSpan piece.get = some chunk.span
  hashed : chunk.hash.At fed chunk.span chunk.next
  checked : chunk.checkpoint.At fed chunk.span chunk.checkpointOffset
  pending : ∀ offset fragment, chunk.pending[offset]? = some fragment →
    fragment.offset = offset ∧ fragment.bytes.length = fragment.len ∧
      FedAt fed offset fragment.bytes

namespace Chunk.Placed

variable {piece : PieceId} {chunk : Chunk} (placed : chunk.Placed fed manifest piece)
include placed

theorem drainStep {leases : OrderedMap LeaseId HashLease} {error : Option ChunkHashError}
    {next : Chunk} (taken : chunk.drainStep leases = some (error, next)) :
    next.Placed fed manifest piece := by
  simp only [Chunk.drainStep, bind_eq_bind, bind_eq_some_iff] at taken
  obtain ⟨fragment, found, -, -, taken⟩ := taken
  obtain ⟨here, whole, given⟩ := placed.pending _ _ found
  have pending := fun offset fragment left =>
    placed.pending offset fragment (OrderedMap.getElem?_of_erase (k := chunk.next) _ _ left)
  have hashed : (chunk.hash.update fragment.bytes).At fed chunk.span
      (fragment.offset + fragment.len) := by
    obtain ⟨position, before⟩ := placed.hashed
    refine ⟨?_, before.append (position ▸ given)⟩
    simp only [ContentHasher.update, List.length_append]
    omega
  split at taken
  · cases taken
    exact ⟨placed.spanned, placed.hashed, placed.checked, pending⟩
  · split at taken
    · cases taken
      exact ⟨placed.spanned, hashed, placed.checked, pending⟩
    · split at taken <;> cases taken
      · exact ⟨placed.spanned, hashed, hashed, pending⟩
      · exact ⟨placed.spanned, hashed, placed.checked, pending⟩

theorem drain (leases : OrderedMap LeaseId HashLease) :
    (chunk.drain leases).2.Placed fed manifest piece := by
  have loop (fuel : ℕ) : (chunk.drainLoop leases fuel).2.Placed fed manifest piece := by
    induction fuel generalizing chunk with
    | zero => exact placed
    | succ fuel ih =>
      unfold drainLoop
      split
      · exact placed
      · exact placed.drainStep ‹_›
      · exact ih (placed.drainStep ‹_›)
  unfold Chunk.drain
  split
  · exact placed
  · exact loop _

theorem abort (id : LeaseId) : (chunk.abort id).Placed fed manifest piece := by
  have pending : ∀ offset fragment, (chunk.pending.filter fun _ fragment =>
      fragment.lease ≠ id)[offset]? = some fragment → _ := fun offset fragment left =>
    placed.pending offset fragment (by simp at left; exact left.1)
  unfold Chunk.abort
  split
  · exact ⟨placed.spanned, placed.checked, placed.checked, pending⟩
  · exact ⟨placed.spanned, placed.hashed, placed.checked, pending⟩

theorem requireReadback : chunk.requireReadback.Placed fed manifest piece :=
  ⟨placed.spanned, placed.hashed, placed.checked, fun _ _ left => by
    simp [Chunk.requireReadback] at left⟩

theorem enqueue {offset : ℕ} {buffer : OwnedBuffer} (id : LeaseId)
    (given : FedAt fed offset buffer.buffer.bytes) :
    Chunk.Placed fed manifest piece { chunk with
      pending := chunk.pending.insert (fragment id offset buffer chunk).offset
        (fragment id offset buffer chunk) } := by
  refine ⟨placed.spanned, placed.hashed, placed.checked, fun position part found => ?_⟩
  rcases OrderedMap.getElem?_insert_eq_some.mp found with ⟨rfl, rfl⟩ | ⟨-, earlier⟩
  · refine ⟨rfl, ?_, ?_⟩
    · simp only [Fragment.bytes, fragment, Ariax.window, List.length_take, List.length_drop]
      omega
    · have placed := given.window (max offset chunk.span.offset.val - offset)
        (min (offset + buffer.buffer.bytes.length) chunk.span.stop -
          max offset chunk.span.offset.val)
      rwa [Nat.add_sub_of_le (le_max_left _ _)] at placed
  · exact placed.pending _ _ earlier

theorem mono {more : ℕ → UInt8 → Prop} (weaker : ∀ position byte, fed position byte →
      more position byte) : chunk.Placed more manifest piece :=
  have hasher {span : PersistedSpan} {position : ℕ} {hasher : ContentHasher}
      (there : hasher.At fed span position) : hasher.At more span position :=
    ⟨there.1, fun _ _ found => weaker _ _ (there.2 _ _ found)⟩
  ⟨placed.spanned, hasher placed.hashed, hasher placed.checked, fun _ _ found =>
    have ⟨here, whole, given⟩ := placed.pending _ _ found
    ⟨here, whole, fun _ _ found => weaker _ _ (given _ _ found)⟩⟩

end Chunk.Placed

/-- The call feeds a byte for a position. -/
def ChunkHashRequest.Feeds (position : ℕ) (byte : UInt8) : ChunkHashRequest → Prop
  | .feed _ offset buffer =>
    offset.val ≤ position ∧ buffer.bytes[position - offset.val]? = some byte
  | _ => False

namespace ChunkHashCoordinator

variable (fed) in
def Placed (c : ChunkHashCoordinator manifest) : Prop :=
  ∀ (piece : PieceId) chunk, c.chunks[piece]? = some chunk → chunk.Placed fed manifest piece

variable (fed) in
/-- No further piece is durable, and the chunks stay at their places. -/
structure Sheds (c c' : ChunkHashCoordinator manifest) : Prop where
  durable : c'.durable ⊆ c.durable
  placed : c.Placed fed → c'.Placed fed

instance : Std.Refl (@Sheds fed manifest) :=
  ⟨fun _ => ⟨Finset.Subset.refl _, fun placed => placed⟩⟩

instance : IsTrans (ChunkHashCoordinator manifest) (Sheds fed) where
  trans _ _ _ first second :=
    ⟨second.durable.trans first.durable, fun placed => second.placed (first.placed placed)⟩

variable {c : ChunkHashCoordinator manifest}

namespace Sheds

variable {c' : ChunkHashCoordinator manifest} {piece : PieceId} {chunk chunk' : Chunk}

theorem of_eq (durable : c'.durable = c.durable) (chunks : c'.chunks = c.chunks) :
    Sheds fed c c' :=
  ⟨durable.subset, fun placed piece chunk found => placed piece chunk (chunks ▸ found)⟩

theorem withChunk (new : c.Placed fed → chunk.Placed fed manifest piece) :
    Sheds fed c (c.withChunk piece chunk) := by
  refine ⟨Finset.Subset.refl _, fun placed other known found => ?_⟩
  rcases OrderedMap.getElem?_insert_eq_some.mp found with ⟨rfl, rfl⟩ | ⟨-, earlier⟩
  · exact new placed
  · exact placed _ _ earlier

theorem mapChunks {change : Chunk → Chunk} (each : ∀ {piece : PieceId} {chunk : Chunk},
      chunk.Placed fed manifest piece → (change chunk).Placed fed manifest piece) :
    Sheds fed c (c.mapChunks change) := by
  refine ⟨Finset.Subset.refl _, fun placed piece changed found => ?_⟩
  simp only [ChunkHashCoordinator.mapChunks, Std.ExtTreeMap.getElem?_map, map_eq_some_iff] at found
  obtain ⟨chunk, found, rfl⟩ := found
  exact each (placed piece chunk found)

theorem foldl {ι : Type}
    {change : ChunkHashCoordinator manifest → ι → ChunkHashCoordinator manifest}
    (each : ∀ c i, Sheds fed c (change c i)) (l : List ι) : Sheds fed c (l.foldl change c) := by
  induction l generalizing c with
  | nil => exact Std.Refl.refl c
  | cons i _ ih => exact trans _ _ _ (each c i) ih

theorem contribute {id : LeaseId} (made : c.contribute id piece = some c') : Sheds fed c c' := by
  simp only [ChunkHashCoordinator.contribute, bind_eq_bind, pure_def,
    bind_eq_some_iff, some.injEq] at made
  obtain ⟨chunk, found, rfl⟩ := made
  refine withChunk fun placed => ?_
  have known : chunk.Placed fed manifest piece := by
    cases there : c.chunks[piece]? with
    | some =>
      rw [there, some_or] at found
      exact some.inj found ▸ placed _ _ there
    | none =>
      rw [there, none_or, freshChunk] at found
      simp only [bind_eq_bind, pure_def, bind_eq_some_iff, some.injEq] at found
      obtain ⟨span, inside, rfl⟩ := found
      have start : (ContentHasher.new ((manifest.chunks[piece.get.val]?).elim .sha256
          JournalDigest.algorithm)).At fed span span.offset.val := ⟨rfl, by rintro _ _ ⟨⟩⟩
      exact ⟨inside, start, start, by simp⟩
  exact ⟨known.spanned, known.hashed, known.checked, known.pending⟩

variable (c : ChunkHashCoordinator manifest) (piece : PieceId)

theorem requireReadback : Sheds fed c (c.requireReadback piece) := by
  unfold ChunkHashCoordinator.requireReadback
  split
  · rename_i chunk found
    exact trans _ _ _ (withChunk fun placed => (placed _ _ found).requireReadback) (of_eq rfl rfl)
  · exact Std.Refl.refl c

theorem forceReadback : Sheds fed c c.forceReadback :=
  trans _ { c with forcesReadback := true } _ (of_eq rfl rfl) (foldl requireReadback _)

theorem invalidate : Sheds fed c (c.invalidate piece) :=
  ⟨Finset.erase_subset _ _, fun placed _ _ found =>
    placed _ _ (OrderedMap.getElem?_of_erase _ _ found)⟩

end Sheds

theorem Placed.markDurable {piece : PieceId} (placed : c.Placed fed) :
    (c.markDurable piece).Placed fed := fun _ _ found =>
  placed _ _ (OrderedMap.getElem?_of_erase _ _ found)

variable {pieces : List PieceId} {id : LeaseId} {c₀ : ChunkHashCoordinator manifest}
  {validator : JournalHash} {span : PersistedSpan} {buffer : OwnedBuffer} {piece : PieceId}

theorem foldl_markDurable_chunks (unknown : c.chunks[piece]? = none) :
    (pieces.foldl markDurable c).chunks[piece]? = none := by
  induction pieces generalizing c with
  | nil => exact unknown
  | cons _ _ ih =>
    apply ih
    rw [markDurable, OrderedMap.getElem?_erase, unknown, ite_self]

theorem mem_foldl_markDurable :
    piece ∈ (pieces.foldl markDurable c).durable ↔ piece ∈ pieces ∨ piece ∈ c.durable := by
  induction pieces generalizing c with
  | nil => simp
  | cons _ _ ih =>
    rw [List.foldl_cons, ih, List.mem_cons]
    simp only [markDurable, Finset.mem_insert]
    tauto

/-! ## Calls -/

theorem orReturn_sheds {α : Type} {result : Except ChunkHashError α} :
    Tracks (Sheds fed) (orReturn result : ChunkHashCall manifest α) := by
  cases result with
  | ok => exact .pure
  | error => exact .throw

theorem contributeAll_sheds :
    Tracks (Sheds fed) (contributeAll id pieces : ChunkHashCall manifest Unit) :=
  .forM fun _ _ => Tracks.get_bind fun _ => wp_orThrow_bind (Std.Refl.refl _) fun _ made =>
    wp_set.mpr (.contribute made)

theorem begin_sheds :
    Tracks (Sheds fed) (begin id span validator : ChunkHashCall manifest Unit) := by
  refine Tracks.get.bind fun c => Tracks.throwIf.bind fun _ => Tracks.throwIf.bind fun _ => ?_
  refine orReturn_sheds.bind fun pieces ↦ Tracks.throwIf.bind fun _ ↦ Tracks.throwIf.bind fun _ ↦ ?_
  have opened : Tracks (Sheds fed) (do
      contributeAll id pieces
      modify fun c => c.withLease id ⟨span, validator, span.offset.val, false⟩ :
        ChunkHashCall manifest Unit) :=
    contributeAll_sheds.bind fun _ => .modify fun _ => .of_eq rfl rfl
  cases pieces.findSome? (c.preflight span) with
  | none => exact opened
  | some => exact Tracks.throw.bind fun _ => opened

/-- The errors of `drain` are returned. -/
theorem wp_drain (before : Sheds fed c₀ c) : wp drain (fun _ => Sheds fed c₀)
      (fun failure c' => failure ≠ .panicked ∧ Sheds fed c₀ c') c := by
  refine wp_get_bind (wp_forM (fun piece c₁ before => ?_) before)
  refine wp_get_bind ?_
  cases found : c₁.chunks[piece]? with
  | none => exact wp_pure.mpr before
  | some chunk =>
    have after : Sheds fed c₀ (c₁.withChunk piece (chunk.drain c₁.leases).2) :=
      trans _ _ _ before (.withChunk fun placed => (placed _ _ found).drain _)
    dsimp only
    cases (chunk.drain c₁.leases).1 with
    | none => exact wp_set_bind (wp_pure.mpr after)
    | some => exact wp_set_bind (wp_throw.mpr ⟨by simp, after⟩)

theorem drain_sheds : Tracks (Sheds fed) (drain : ChunkHashCall manifest Unit) := fun c =>
  (wp_drain (Std.Refl.refl c)).mono (fun _ _ done => done) fun _ _ failed => failed.2

theorem wp_enqueue {offset : ℕ} (given : FedAt fed offset buffer.buffer.bytes)
    (before : Sheds fed c₀ c) :
    wp (enqueue id offset buffer pieces) (fun _ => Sheds fed c₀)
      (fun failure c' => failure ≠ .panicked ∧ Sheds fed c₀ c') c := by
  refine wp_forM (fun piece c₁ before => ?_) before
  refine wp_get_bind (wp_orThrow_bind ⟨by simp, before⟩ fun chunk found => ?_)
  refine wp_ite.mpr ⟨fun _ => wp_set_bind ?_, fun _ => wp_pure.mpr before⟩
  have after : Sheds fed c₀ (c₁.withChunk piece { chunk with
      pending := chunk.pending.insert (fragment id offset buffer chunk).offset
        (fragment id offset buffer chunk) }) :=
    trans _ _ _ before (.withChunk fun placed => (placed _ _ found).enqueue id given)
  exact wp_throwIf.mpr ⟨fun _ => ⟨by simp, after⟩, fun _ => after⟩

/-- What `feed` does with a buffer that it takes. -/
theorem wp_take {offset : ℕ} {lease : HashLease} (given : FedAt fed offset buffer.buffer.bytes)
    (before : Sheds fed c₀ c) : wp (do
        modify fun c => { c with nextSerial := c.nextSerial + 1 }
        enqueue id offset buffer pieces
        modify fun c => c.withLease id lease
        drain : ChunkHashCall manifest Unit) (fun _ => Sheds fed c₀)
      (fun failure c' => failure ≠ .panicked ∧ Sheds fed c₀ c') c := by
  have numbered : Sheds fed c₀ { c with nextSerial := c.nextSerial + 1 } :=
    trans _ _ _ before (.of_eq rfl rfl)
  refine wp_modify_bind (wp_bind.mpr ((wp_enqueue given numbered).mono
    (fun _ c₁ after => ?_) fun _ _ failed => failed))
  exact wp_modify_bind (wp_drain (trans _ _ _ after (.of_eq rfl rfl)))

theorem isSome_needHold {offset : ℕ} (known : ∀ piece ∈ pieces, (c.chunks[piece]?).isSome) :
    (c.needHold id offset pieces).isSome := by
  induction pieces with
  | nil => rfl
  | cons piece _ ih =>
    obtain ⟨chunk, found⟩ := isSome_iff_exists.mp (known piece List.mem_cons_self)
    rw [needHold, found, bind_eq_bind, bind_some]
    split
    · rfl
    · exact ih fun other member => known other (List.mem_cons_of_mem _ member)

theorem wp_feed {offset : U64} {buffer : BufferLease} (given : FedAt fed offset.val buffer.bytes)
    (c : ChunkHashCoordinator manifest) :
    wp (feed id offset buffer) (fun _ => Sheds fed c) (fun failure c' =>
      ((∀ piece ∈ piecesOf manifest offset.val (offset.val + buffer.bytes.length),
        (c.chunks[piece]?).isSome) → failure ≠ .panicked) ∧ Sheds fed c c') c := by
  have same := (Std.Refl.refl c : Sheds fed c c)
  have returned (error : ChunkHashError) : ((∀ piece ∈ piecesOf manifest offset.val
      (offset.val + buffer.bytes.length), (c.chunks[piece]?).isSome) →
        ChunkHashFailure.returned error ≠ .panicked) ∧ Sheds fed c c := ⟨fun _ => by simp, same⟩
  refine wp_get_bind (wp_orThrow_bind (returned _) fun lease _ => ?_)
  refine wp_throwIf_bind (returned _) fun _ => ?_
  refine wp_throwIf_bind (returned _) fun _ => ?_
  refine wp_throwIf_bind (returned _) fun _ => ?_
  refine wp_bind.mpr (wp_orThrow.mpr ⟨fun chunks _ => ?_, fun unknown => ⟨fun known => ?_, same⟩⟩)
  · refine wp_ite.mpr ⟨fun _ => wp_set_bind ?_, fun _ => ?_⟩
    · exact (wp_take given (.foldl .requireReadback _)).mono (fun _ _ done => done)
        fun _ _ failed => ⟨fun _ => failed.1, failed.2⟩
    · exact (wp_take given same).mono (fun _ _ done => done)
        fun _ _ failed => ⟨fun _ => failed.1, failed.2⟩
  · have found : (c.needHold id offset.val _).isSome := isSome_needHold known
    rw [unknown] at found
    cases found

theorem commit_sheds : Tracks (Sheds fed) (commit id : ChunkHashCall manifest Unit) := by
  refine Tracks.get_bind fun c => ?_
  have same := (Std.Refl.refl c : Sheds fed c c)
  refine wp_orThrow_bind same fun lease _ => ?_
  refine wp_throwIf_bind same fun _ => wp_set_bind ?_
  have marked : Sheds fed c (c.withLease id { lease with committed := true }) := .of_eq rfl rfl
  refine drain_sheds.after (trans _ _ _ marked (.mapChunks fun placed => ?_))
  split
  · exact ⟨placed.spanned, placed.hashed, placed.hashed, placed.pending⟩
  · exact placed

theorem abort_sheds : Tracks (Sheds fed) (abort id : ChunkHashCall manifest Unit) := by
  refine Tracks.get_bind fun c => ?_
  have same := (Std.Refl.refl c : Sheds fed c c)
  refine wp_orThrow_bind same fun lease _ => ?_
  refine wp_throwIf_bind same fun _ => wp_set.mpr ?_
  have left : Sheds fed c (c.withoutLease id) := .of_eq rfl rfl
  exact trans _ _ _ left (.mapChunks fun placed => placed.abort id)

theorem restoreCommitted_sheds {contributor : JournalContributor} :
    Tracks (Sheds fed) (restoreCommitted contributor : ChunkHashCall manifest Unit) := by
  refine Tracks.get.bind fun c => Tracks.throwIf.bind fun _ => orReturn_sheds.bind fun pieces => ?_
  refine Tracks.throwIf.bind fun _ => Tracks.bind (.forM fun piece _ => ?_) fun _ =>
    .modify fun _ => .of_eq rfl rfl
  refine Tracks.get_bind fun c => wp_ite.mpr ⟨fun _ => ?_, fun _ => wp_pure.mpr (Std.Refl.refl c)⟩
  refine wp_orThrow_bind (Std.Refl.refl c) fun c' made => wp_set.mpr ?_
  exact trans _ _ _ (.contribute made) (.requireReadback c' piece)

theorem commitWrittenAfterFence_sheds : Tracks (Sheds fed)
    (commitWrittenAfterFence id span validator : ChunkHashCall manifest Unit) := by
  refine begin_sheds.bind fun _ => orReturn_sheds.bind fun pieces => ?_
  refine Tracks.bind (.modify fun c => .foldl .requireReadback pieces) fun _ => ?_
  exact Tracks.bind (.modify fun _ => .of_eq rfl rfl) fun _ => commit_sheds

/-- A chunk that is ready is known, and a digest of it is that of its checkpoint at its end. -/
theorem of_mem_ready {finalize : ContentHasher → JournalDigest} {ready : List ReadyChunk}
    (found : c.ready finalize = .ok ready) {answer : ReadyChunk} (member : answer ∈ ready) :
    ∃ chunk, c.chunks[answer.piece]? = some chunk ∧ answer.span = chunk.span ∧
      ∀ digest ∈ answer.digest, digest = finalize chunk.checkpoint ∧
        chunk.checkpointOffset = chunk.span.stop := by
  obtain ⟨answers, mapped, same⟩ := Except.bind_eq_ok.mp found
  obtain rfl := Except.ok.inj same
  obtain ⟨_, answered, rfl⟩ := List.mem_filterMap.mp member
  obtain ⟨⟨piece, chunk⟩, listed, read⟩ := Except.exists_of_mem_mapM mapped answered
  have there := Std.ExtTreeMap.mem_toList_iff_getElem?_eq_some.mp listed
  obtain ⟨next, -, read⟩ := Except.bind_eq_ok.mp read
  split at read
  · cases read
  split at read
  · cases read
    exact ⟨chunk, there, rfl, by rintro _ ⟨⟩⟩
  split at read
  · cases read
  · rename_i settled
    cases read
    refine ⟨chunk, there, rfl, ?_⟩
    rintro _ ⟨⟩
    exact ⟨rfl, not_not.mp (not_or.mp settled).1⟩

/-! ## Runs -/

variable {τ : List (Step (ChunkHashCoordinator manifest) ChunkHashRequest
  (Except ChunkHashFailure Unit))}

theorem next_placed {request : ChunkHashRequest} (placed : c.Placed fed)
    (feeds : ∀ position byte, request.Feeds position byte → fed position byte) :
    ((chunkHashMachine manifest).next c request).2.Placed fed := by
  have called : wpEnds request.call (·.Placed fed) c := by
    have shed {call : ChunkHashCall manifest Unit} (sheds : Tracks (Sheds fed) call) :
        wpEnds call (·.Placed fed) c := (sheds c).imp fun _ sheds => sheds.placed placed
    cases request with
    | «begin» => exact shed begin_sheds
    | feed id offset buffer =>
      have given : FedAt fed offset.val buffer.bytes := fun index byte found =>
        feeds _ _ ⟨Nat.le_add_right _ _, by rwa [Nat.add_sub_cancel_left]⟩
      exact (wp_feed given c).mono (fun _ _ done => done.placed placed)
        fun _ _ failed => failed.2.placed placed
    | commit => exact shed commit_sheds
    | abort => exact shed abort_sheds
    | restoreCommitted => exact shed restoreCommitted_sheds
    | commitWrittenAfterFence => exact shed commitWrittenAfterFence_sheds
    | requireReadback piece => exact shed (.modify fun c => .requireReadback c piece)
    | forceReadback => exact shed (.modify .forceReadback)
    | markDurable => exact wp_modify.mpr placed.markDurable
    | invalidate piece => exact shed (.modify fun c => .invalidate c piece)
  simp only [chunkHashMachine]
  split
  · exact called.1 _ _ ‹_›
  · exact called.2 _ _ ‹_›

/-- The calls of a run feed a byte for a position. -/
def FedBy (τ : List (Step (ChunkHashCoordinator manifest) ChunkHashRequest
    (Except ChunkHashFailure Unit))) (position : ℕ) (byte : UInt8) : Prop :=
  ∃ step ∈ τ, step.input.Feeds position byte

theorem placed_of_run (initial : c₀ ∈ (chunkHashMachine manifest).initial)
    (run : (chunkHashMachine manifest).Run c₀ τ c) : c.Placed (FedBy τ) := by
  obtain ⟨alignment, reorderBytes, rfl⟩ := initial
  induction run with
  | nil => exact fun _ _ found => by simp [new] at found
  | @snoc τ c run request ih =>
    refine next_placed (fun piece chunk found => ?_) fun position byte feeds =>
      ⟨_, mem_snoc.mpr (.inr rfl), feeds⟩
    exact (ih piece chunk found).mono fun _ _ ⟨step, earlier, feeds⟩ =>
      ⟨step, mem_snoc.mpr (.inl earlier), feeds⟩

/-- In every run a digest that `ready` hands out is of a chunk of the manifest and was made of
exactly the bytes of that chunk, each of which some call fed for the place at which it stands. -/
theorem digest_of_run (initial : c₀ ∈ (chunkHashMachine manifest).initial)
    (run : (chunkHashMachine manifest).Run c₀ τ c) {finalize : ContentHasher → JournalDigest}
    {ready : List ReadyChunk} (found : c.ready finalize = .ok ready) {answer : ReadyChunk}
    (member : answer ∈ ready) {digest : JournalDigest} (given : answer.digest = some digest) :
    manifest.chunkSpan answer.piece.get = some answer.span ∧
      ∃ hasher, digest = finalize hasher ∧ hasher.content.length = answer.span.len.val ∧
        FedAt (FedBy τ) answer.span.offset.val hasher.content := by
  obtain ⟨chunk, known, span, digests⟩ := of_mem_ready found member
  obtain ⟨rfl, settled⟩ := digests digest given
  have placed := placed_of_run initial run _ _ known
  obtain ⟨counted, fed⟩ := placed.checked
  rw [span]
  refine ⟨placed.spanned, chunk.checkpoint, rfl, ?_, fed⟩
  rw [settled, PersistedSpan.stop] at counted
  omega

end ChunkHashCoordinator

namespace HashSample

def aborted : LeaseId := ⟨3, by decide⟩

def committed : LeaseId := ⟨4, by decide⟩

def whole : PersistedSpan := ⟨0, 4, by decide, by decide⟩

def validator : JournalHash := ⟨Vector.replicate 32 1, by decide⟩

def digest (_ : ContentHasher) : JournalDigest := ⟨.sha256, List.replicate 32 0, rfl⟩

def oneChunk : VerificationManifest := (VerificationManifest.new 4 4 [] []).toOption.get (by decide)

/-- A byte of one lease is dropped with it, and another lease feeds the chunk in two parts. -/
def calls : List ChunkHashRequest :=
  [.begin aborted whole validator, .feed aborted 0 ⟨[9], 1, true⟩, .abort aborted,
    .begin committed whole validator, .feed committed 0 ⟨[1, 2], 2, true⟩,
    .feed committed 2 ⟨[3, 4], 2, true⟩, .commit committed]

end HashSample

open HashSample in
theorem digest_of_run_committed : ∃ hasher : ContentHasher, hasher.content.length = 4 ∧
    FedAt (FedBy ((chunkHashMachine oneChunk).trace (.new oneChunk .auto 0) calls)) 0
      hasher.content := by
  have found : ((chunkHashMachine oneChunk).final (.new oneChunk .auto 0) calls).ready digest =
      .ok [⟨⟨0⟩, whole, [⟨committed, whole, validator⟩], some (digest (.new .sha256))⟩] := by
    decide +kernel
  obtain ⟨-, hasher, -, counted, fed⟩ := digest_of_run ⟨.auto, 0, rfl⟩ (Machine.run_trace _ _)
    found List.mem_cons_self rfl
  exact ⟨hasher, counted, fed⟩

end Ariax
