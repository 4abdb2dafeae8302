import Ariax.Storage.Steady

/-!
# What a call does to the leases

The part of an engine that overlap groups are about is its book: the active
leases, the groups, the leases ever opened, the bytes placed for each lease
and the leases recorded as committed. A move is one way in which a call
changes the book; what the journal, the medium, the processor pool or the
coordinator does to a call shows in which moves it still makes, and most
calls make none.
-/

namespace Ariax

structure LeaseBook where
  active : OrderedMap LeaseId ActiveLease
  overlapGroups : OrderedMap OverlapGroupId OverlapGroup
  registrations : List OverlapRegistration
  seenLeases : Finset LeaseId
  placements : List Placement
  committed : List LeaseId

def GlobalSpan.Meets (a b : GlobalSpan) : Prop :=
  ∃ byte, (a.offset ≤ byte ∧ byte < a.stop) ∧ b.offset ≤ byte ∧ byte < b.stop

/-- A span that is not empty and ends before the last offset of all. -/
def GlobalSpan.Fits (span : GlobalSpan) : Prop := 0 < span.len ∧ span.stop < 2 ^ 64

variable {span a b : GlobalSpan}

theorem GlobalSpan.Meets.overlaps (meets : a.Meets b) (first : a.Fits) : a.overlaps b = true := by
  obtain ⟨byte, ⟨_, _⟩, _, _⟩ := meets
  have ends := first.2
  simp only [GlobalSpan.overlaps, Bool.and_eq_true, decide_eq_true_eq]
  omega

theorem GlobalSpan.Meets.symm (meets : a.Meets b) : b.Meets a := by
  obtain ⟨byte, first, second⟩ := meets
  exact ⟨byte, second, first⟩

theorem GlobalSpan.Fits.overlaps_self (fits : span.Fits) : span.overlaps span = true :=
  GlobalSpan.Meets.overlaps ⟨span.offset, ⟨le_rfl, Nat.lt_add_of_pos_right fits.1⟩, le_rfl,
    Nat.lt_add_of_pos_right fits.1⟩ fits

theorem GlobalSpan.fits_of_persisted {persisted : PersistedSpan}
    (made : span.persisted = some persisted) : span.Fits := by
  unfold GlobalSpan.persisted at made
  split at made
  · rename_i fits
    obtain ⟨-, len⟩ := PersistedSpan.toOption_new_eq_some.mp made
    have nonempty := persisted.len_ne_zero
    rw [len] at nonempty
    exact ⟨Nat.pos_of_ne_zero nonempty, fits⟩
  · cases made

namespace StorageEngine

def book (s : StorageEngine) : LeaseBook :=
  ⟨s.active, s.overlapGroups, s.registrations, s.seenLeases, s.placements,
    s.records.filterMap JournalPayload.committedLease⟩

abbrev SameBook : StorageEngine → StorageEngine → Prop := SameView book

/-! ## Calls without a move -/

variable {payload : JournalPayload} {outcome : ReadyOutcome} {chunk : ReadyChunk}

theorem SameBook.record (uncommitted : payload.committedLease = none) (s : StorageEngine) :
    SameBook s (s.record payload) := by
  simp [SameView, book, StorageEngine.record, uncommitted]

theorem adjust_sameBook {change : ∀ {manifest : VerificationManifest},
      ChunkHashCoordinator manifest → ChunkHashCoordinator manifest} :
    Tracks SameBook (adjust change) :=
  .modify fun _ => rfl

instance : Lenient SameBook where
  operates s := by
    simp only [operate, wp_bind, wp_get, wp_set, wp_pure]
    rfl
  records s _ uncommitted _ := SameBook.record uncommitted s
  forgets _ := adjust_sameBook

theorem appendPayload_sameBook (uncommitted : payload.committedLease = none) :
    Tracks SameBook (appendPayload payload) :=
  appendPayload_tracks (SameBook.record uncommitted)

theorem coordinate_sameBook
    {call : ∀ {manifest : VerificationManifest}, ChunkHashCoordinator.ChunkHashCall manifest Unit} :
    Tracks SameBook (coordinate call) := by
  refine Tracks.get_bind fun s => ?_
  cases s.verification with
  | none => exact wp_pure.mpr rfl
  | some verification =>
    refine wp_set_bind ?_
    cases (verification.run call).1 with
    | none => exact wp_pure.mpr rfl
    | some => exact wp_throw.mpr rfl

theorem feedVerification_sameBook {lease : LeaseId} {offset : U64} {buffer : BufferLease}
    {job : JobOutcome Unit} : Tracks SameBook (feedVerification lease offset buffer job) := by
  have lost : Tracks SameBook (modify fun s => s.withVerification none : StorageCall PUnit) :=
    .modify fun _ => rfl
  cases job with
  | refused | droppedWaiting => exact .throw
  | dropped | lost => exact lost.bind fun _ => .throw
  | done =>
    refine Tracks.get_bind fun s => wp_orThrow_bind rfl ?_
    intro verification _
    obtain ⟨failure, after⟩ := verification.run (ChunkHashCoordinator.feed lease offset buffer)
    cases failure with
    | none => exact wp_set.mpr rfl
    | some failure =>
      cases failure with
      | panicked | returned => exact wp_set_bind (wp_throw.mpr rfl)

variable {hashes : ContentHashes}

theorem configureVerification_sameBook {manifest : VerificationManifest}
    {alignment : ChunkAlignment} {reorderBytes : ℕ} {persisted : Bool} {durable : List PieceId}
    {poolStarts : Bool} :
    Tracks SameBook (configureVerification hashes manifest alignment reorderBytes persisted durable
      poolStarts) := by
  have plain : ∀ payload ∈ manifest.journalPayloads hashes, payload.committedLease = none := by
    intro payload member
    obtain ⟨index, -, rfl⟩ := List.mem_map.mp member
    split <;> rfl
  unfold configureVerification
  generalize manifest.journalPayloads hashes = payloads at plain
  refine Tracks.get_bind fun s => ?_
  refine wp_throwIf_bind rfl fun _ => wp_throwIf_bind rfl fun _ => wp_set_bind ?_
  have written : Tracks SameBook (forM payloads fun payload => do
      appendPayload payload
      let _ ← flush) :=
    .forM fun payload member =>
      (appendPayload_sameBook (plain payload member)).bind fun _ => flush_tracks.bind fun _ => .pure
  have installed (verification : Option Verification) : Tracks SameBook
      (modify fun s' => s'.withVerification verification : StorageCall PUnit) :=
    .modify fun _ => rfl
  cases persisted with
  | true => exact (installed _).after rfl
  | false =>
    simp only [Bool.not_false, if_true]
    exact (written.bind fun _ => installed _).after rfl

theorem publishChunk_sameBook {digest : JournalDigest} :
    Tracks SameBook (publishChunk hashes outcome chunk digest) := by
  refine Tracks.orThrow.bind fun _ => Tracks.orThrow.bind fun _ => ?_
  refine (appendPayload_sameBook rfl).bind fun _ => await_tracks.bind fun _ => ?_
  refine Tracks.throwIf.bind fun _ => ?_
  exact (appendPayload_sameBook rfl).bind fun _ => flush_tracks.bind fun _ =>
    adjust_sameBook.bind fun _ => .pure

theorem finishChunk_sameBook : Tracks SameBook (finishChunk hashes outcome chunk) := by
  refine Tracks.get.bind fun _ => Tracks.orThrow.bind fun _ => Tracks.throwIf.bind fun _ => ?_
  refine await_tracks.bind fun _ => Tracks.orThrow.bind fun _ => Tracks.get.bind fun _ => ?_
  refine Tracks.orThrow.bind fun _ => Tracks.ite (fun _ => ?_) fun _ => publishChunk_sameBook
  exact failPiece_tracks.bind fun _ => .throw

theorem finishVerification_sameBook {outcome : PieceId → ReadyOutcome} :
    Tracks SameBook (finishVerification hashes outcome) := by
  refine Tracks.get.bind fun s => ?_
  cases s.verification with
  | none => exact .pure
  | some verification =>
    dsimp only
    cases verification.coordinator.ready hashes.finalize with
    | error => exact .throw
    | ok => exact .mapM fun _ _ => finishChunk_sameBook

theorem recordWholeFileVerified_sameBook {digests : List JournalDigest} :
    Tracks SameBook (recordWholeFileVerified hashes digests) := by
  refine Tracks.get.bind fun _ => Tracks.orThrow.bind fun _ => Tracks.throwIf.bind fun _ => ?_
  refine Tracks.throwIf.bind fun _ => (appendPayload_sameBook rfl).bind fun _ => ?_
  exact flush_tracks.bind fun _ => .modify fun _ => rfl

theorem complete_sameBook {finalDigest : Option JournalDigest} {completedAtUnixMs : U64} :
    Tracks SameBook (complete finalDigest completedAtUnixMs) := by
  refine Tracks.get.bind fun _ => Tracks.throwIf.bind fun _ => Tracks.throwIf.bind fun _ => ?_
  exact Tracks.orThrow.bind fun _ => (appendPayload_sameBook rfl).bind fun _ => flush_tracks

end StorageEngine

/-! ## Moves -/

def Apart (members : Finset LeaseId) (active : OrderedMap LeaseId ActiveLease) : Prop :=
  ∀ lease ∈ members, ∀ lease' ∈ members, lease ≠ lease' →
    active[lease]? = none ∨ active[lease']? = none

theorem Apart.of_gone {members : Finset LeaseId} {active : OrderedMap LeaseId ActiveLease}
    {lease : LeaseId} (pair : members.card ≤ 2) (member : lease ∈ members)
    (gone : active[lease]? = none) : Apart members active := by
  intro a memberA b memberB distinct
  by_cases first : a = lease
  · exact .inl (first ▸ gone)
  by_cases second : b = lease
  · exact .inr (second ▸ gone)
  have three : ({lease, a, b} : Finset LeaseId) ⊆ members := by
    intro x
    simp only [Finset.mem_insert, Finset.mem_singleton]
    rintro (rfl | rfl | rfl) <;> assumption
  have count := Finset.card_le_card three
  rw [Finset.card_insert_of_notMem (by simp [Ne.symm first, Ne.symm second]),
    Finset.card_pair distinct] at count
  omega

namespace LeaseBook

variable (b : LeaseBook)

def opened (plan : LeaseWritePlan) (piece : PieceId) : LeaseBook :=
  { b with
    seenLeases := insert plan.lease b.seenLeases
    active := b.active.insert plan.lease ⟨plan, piece, plan.span.offset, 0, .new .sha256⟩ }

def registered (r : OverlapRegistration) (piece : PieceId) (span : GlobalSpan) : LeaseBook :=
  { b with
    active := StorageEngine.regroup b.active r.original (some r.group)
    overlapGroups :=
      b.overlapGroups.insert r.group ⟨piece, span, {r.original, r.duplicate}, none, false⟩
    registrations := b.registrations ++ [r] }

def saw (lease : LeaseId) : LeaseBook := { b with seenLeases := insert lease b.seenLeases }

def placed (placement : Placement) : LeaseBook :=
  { b with placements := b.placements ++ [placement] }

def wrote (lease : LeaseId) (entry : ActiveLease) (bytes : Bytes) : LeaseBook :=
  { b with
    active := b.active.insert lease { entry with
      nextOffset := entry.nextOffset + bytes.length
      writtenLen := entry.writtenLen + bytes.length
      digest := entry.digest.update bytes } }

def withGroup (id : OverlapGroupId) (group : OverlapGroup) : LeaseBook :=
  { b with overlapGroups := b.overlapGroups.insert id group }

def withoutGroup (id : OverlapGroupId) : LeaseBook :=
  { b with overlapGroups := b.overlapGroups.erase id }

def withoutLease (lease : LeaseId) : LeaseBook := { b with active := b.active.erase lease }

def freed (lease : LeaseId) : LeaseBook :=
  { b with active := StorageEngine.regroup b.active lease none }

def recorded (leases : List LeaseId) : LeaseBook := { b with committed := b.committed ++ leases }

/-- A plan meets no active lease, or only the other member of its group. -/
structure Allows (plan : LeaseWritePlan) : Prop where
  alone : plan.overlapGroup = none → ∀ (lease : LeaseId) (entry : ActiveLease),
    b.active[lease]? = some entry → ¬(entry.plan.span.overlaps plan.span = true)
  paired : ∀ id, plan.overlapGroup = some id → ∃ group, ∃ peer : LeaseId, ∃ entry : ActiveLease,
    b.overlapGroups[id]? = some group ∧ group.frozen = false ∧ group.span = plan.span ∧
      plan.lease ∈ group.members ∧ b.active[peer]? = some entry ∧
      entry.plan.overlapGroup = some id ∧ entry.plan.span = plan.span ∧
      entry.plan.validator = plan.validator ∧
      ∀ (lease : LeaseId) (other : ActiveLease), b.active[lease]? = some other →
        other.plan.span.overlaps plan.span = true → lease = peer

end LeaseBook

/-- The ways in which a call changes the book, when a lease that was registered as a duplicate is
opened in its group only, groups and duplicates are registered once, a group is only settled for
one of its members, and a write that fails leaves no bytes. -/
inductive LeaseMove (b : LeaseBook) : LeaseBook → Prop where
  | opened {plan : LeaseWritePlan} {piece : PieceId} (unseen : plan.lease ∉ b.seenLeases)
      (unopened : b.active[plan.lease]? = none) (allowed : b.Allows plan) (fits : plan.span.Fits)
      (reserved : ∀ r ∈ b.registrations, r.duplicate = plan.lease →
        plan.overlapGroup = some r.group) : LeaseMove b (b.opened plan piece)
  | registered {r : OverlapRegistration} {piece : PieceId} {entry : ActiveLease}
      (distinct : r.original ≠ r.duplicate) (found : b.active[r.original]? = some entry)
      (free : entry.plan.overlapGroup = none) (unseen : r.duplicate ∉ b.seenLeases)
      (unused : ∀ r' ∈ b.registrations, r'.group ≠ r.group ∧ r'.duplicate ≠ r.duplicate) :
      LeaseMove b (b.registered r piece entry.plan.span)
  | saw (lease : LeaseId) : LeaseMove b (b.saw lease)
  | placedNothing {placement : Placement} (empty : placement.bytes = []) :
      LeaseMove b (b.placed placement)
  | wrote {lease : LeaseId} {entry : ActiveLease} {offset : U64} {bytes : Bytes}
      (found : b.active[lease]? = some entry)
      (thawed : ∀ id, entry.plan.overlapGroup = some id →
        ∃ group, b.overlapGroups[id]? = some group ∧ group.frozen = false) :
      LeaseMove b ((b.placed ⟨lease, offset, bytes⟩).wrote lease entry bytes)
  | froze {id : OverlapGroupId} {group : OverlapGroup} {commit : LeaseCommit} {entry : ActiveLease}
      (live : b.overlapGroups[id]? = some group) (thawed : group.frozen = false)
      (found : b.active[commit.lease]? = some entry) (member : commit.lease ∈ group.members) :
      LeaseMove b (b.withGroup id { group with frozen := true, candidate := some commit })
  | ended {lease : LeaseId} {entry : ActiveLease} {leases : List LeaseId}
      (found : b.active[lease]? = some entry) (free : entry.plan.overlapGroup = none)
      (only : ∀ x ∈ leases, x = lease) : LeaseMove b ((b.withoutLease lease).recorded leases)
  | withdrew {lease : LeaseId} {entry : ActiveLease} {id : OverlapGroupId} {group : OverlapGroup}
      (found : b.active[lease]? = some entry) (live : b.overlapGroups[id]? = some group)
      (member : lease ∈ group.members) (unwritten : entry.writtenLen = 0)
      (other : ∀ candidate, group.candidate = some candidate → candidate.lease ≠ lease) :
      LeaseMove b (b.withoutLease lease)
  | orphaned {id : OverlapGroupId} {group : OverlapGroup} {lease : LeaseId}
      (live : b.overlapGroups[id]? = some group) (member : lease ∈ group.members)
      (gone : b.active[lease]? = none) : LeaseMove b (b.withoutGroup id)
  | freed {id : OverlapGroupId} {group : OverlapGroup} {lease remaining : LeaseId}
      (live : b.overlapGroups[id]? = some group) (member : lease ∈ group.members)
      (gone : b.active[lease]? = none) (uncommitted : group.candidate = none)
      (rest : remaining ∈ group.members.erase lease) :
      LeaseMove b ((b.withoutGroup id).freed remaining)
  | concluded {id : OverlapGroupId} {group : OverlapGroup} {lease remaining : LeaseId}
      {entry : ActiveLease} {leases : List LeaseId} (live : b.overlapGroups[id]? = some group)
      (member : lease ∈ group.members) (gone : b.active[lease]? = none)
      (rest : remaining ∈ group.members.erase lease)
      (found : b.active[remaining]? = some entry) (only : ∀ x ∈ leases, x = remaining) :
      LeaseMove b (((b.withoutGroup id).withoutLease remaining).recorded leases)
  | rolledBack {id : OverlapGroupId} {group : OverlapGroup}
      {active : OrderedMap LeaseId ActiveLease} (live : b.overlapGroups[id]? = some group)
      (fewer : ∀ (lease : LeaseId) entry,
        active[lease]? = some entry → b.active[lease]? = some entry)
      (others : ∀ lease : LeaseId, lease ∉ group.members → active[lease]? = b.active[lease]?)
      (apart : Apart group.members active) :
      LeaseMove b { b.withoutGroup id with active := active }

end Ariax
