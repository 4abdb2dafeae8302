import Ariax.Storage.Held

/-!
# Overlapping writers exclude each other

In a run of orderly requests the book of an engine makes moves only, so the
account of its leases and groups holds in every state, and what a candidate
or a rollback brings about lasts. Without the conditions on the requests it
does not: a write that ends short, a group that is settled for a lease that is
not in it, and a duplicate that is opened outside its group each break it.
-/

namespace Ariax

/-! ## Runs -/

namespace StorageEngine

variable {s s' : StorageEngine}

theorem openLayout_sound {layout : FileLayout} {sequence : ℕ} {medium : Medium} {cpuPool : Bool}
    {residentLimit : ℕ} :
    (openLayout layout sequence medium cpuPool residentLimit).book.Sound := by
  constructor <;> constructor <;> simp [openLayout, book]

variable {hashes : ContentHashes} {r : OverlapRegistration}

theorem moves_of_run
    {τ : List (Step StorageEngine StorageRequest (Except StorageFailure StorageReply))}
    (sound : s.book.Sound) (run : (storageMachine hashes).Run s τ s')
    (orderly : Machine.Guarded StorageRequest.Orderly τ) : LeaseMoves s s' := by
  refine run.guarded (P := LeaseMoves s) orderly .refl fun s₁ request moves orderly => ?_
  have sound₁ := sound.moves moves
  exact moves.trans (orderly.moves fun _ _ live => sound₁.ledgered.card_members live)

theorem writeBlock_refuses (held : s.book.Held r) {block : WriteBlock}
    (member : block.lease ∈ ({r.original, r.duplicate} : Finset LeaseId)) (disk : DiskOutcome)
    (job : JobOutcome Unit) (reply : StorageReply) :
    ((storageMachine hashes).next s (.writeBlock block disk job)).1 ≠ .ok reply := by
  have refused : wp (writeBlock block disk job) (fun _ _ => False) (fun _ _ => True) s :=
    wp_bind.mpr (wp_validateBlock (fun _ found thawed => (held.refuses member found thawed).elim)
      fun _ => trivial)
  have called : wp (StorageRequest.call hashes (.writeBlock block disk job)) (fun _ _ => False)
    (fun _ _ => True) s := wp_map.mpr refused
  simp only [storageMachine]
  split
  · exact (called.1 _ _ ‹_›).elim
  · simp

theorem members_of_meets (sound : s.book.Sound) {lease lease' : LeaseId}
    {entry entry' : ActiveLease} (distinct : lease ≠ lease') (found : s.active[lease]? = some entry)
    (found' : s.active[lease']? = some entry') (meets : entry.plan.span.Meets entry'.plan.span) :
    ∃ (id : OverlapGroupId) (group : OverlapGroup), s.overlapGroups[id]? = some group ∧
      group.members = {lease, lease'} ∧ entry.plan.span = entry'.plan.span ∧
      entry.plan.validator = entry'.plan.validator := by
  obtain ⟨id, group, live, member, member'⟩ := sound.settled.apart distinct found found' meets
  have pair := sound.ledgered.card_members live
  have within : ({lease, lease'} : Finset LeaseId) ⊆ group.members := by
    intro x
    simp only [Finset.mem_insert, Finset.mem_singleton]
    rintro (rfl | rfl) <;> assumption
  refine ⟨id, group, live, ?_, ?_, sound.ledgered.validator live member member' found found'⟩
  · exact (Finset.eq_of_subset_of_card_le within (by rwa [Finset.card_pair distinct])).symm
  · exact (sound.ledgered.member live member found).2.trans
      (sound.ledgered.member live member' found').2.symm

/-- After an abort of its candidate a group is gone and its members are barred. -/
theorem abortLease_barred (sound : s.book.Sound) {group : OverlapGroup} {candidate : LeaseCommit}
    (live : s.overlapGroups[r.group]? = some group) (chosen : group.candidate = some candidate)
    (held : s.book.Held r) (members : group.members = {r.original, r.duplicate})
    (reason : LeaseAbortReason) {after : StorageEngine}
    (aborted : ((storageMachine hashes).next s (.abortLease s.layout.task s.layout.generation
      candidate.lease reason)).2 = after) : after.book.Sound ∧ after.book.Barred r := by
  have pair := sound.ledgered.card_members live
  obtain ⟨-, member, there⟩ := sound.settled.candidate live chosen
  obtain ⟨entry, found⟩ := Option.isSome_iff_exists.mp there
  have grouped := (sound.ledgered.member live member found).1
  have barred {s' : StorageEngine} (back : RolledBack r.group group s s') :
      s'.book.Sound ∧ s'.book.Barred r := by
    refine ⟨sound.moves (back.moves live), ?_⟩
    rw [back.shrinks.2.2]
    exact sound.barred live held members back.shrinks.1
  rw [← aborted]
  apply storage_next_of_wp (P := fun s' => s'.book.Sound ∧ s'.book.Barred r)
  exact wp_map.mpr ((abortLease_rolledBack live pair chosen member found grouped).imp
    fun _ => barred)

end StorageEngine

open StorageEngine

/-- In every run of orderly requests: two active leases have a byte in common only as the members
of one group, with one span and one validator; if both members of a group wrote a byte neither is
committed, and never are both; once a group has a candidate no further byte of a member is
accepted, and once the candidate is aborted neither member is ever committed. -/
theorem overlappingWriters_exclude {hashes : ContentHashes} {s₀ s : StorageEngine}
    {τ : List (Step StorageEngine StorageRequest (Except StorageFailure StorageReply))}
    (initial : s₀ ∈ (storageMachine hashes).initial) (run : (storageMachine hashes).Run s₀ τ s)
    (orderly : Machine.Guarded StorageRequest.Orderly τ) :
    (∀ (lease lease' : LeaseId) (entry entry' : ActiveLease), lease ≠ lease' →
      s.active[lease]? = some entry → s.active[lease']? = some entry' →
      entry.plan.span.Meets entry'.plan.span →
      ∃ (id : OverlapGroupId) (group : OverlapGroup), s.overlapGroups[id]? = some group ∧
        group.members = {lease, lease'} ∧ entry.plan.span = entry'.plan.span ∧
        entry.plan.validator = entry'.plan.validator) ∧
    (∀ r ∈ s.registrations,
      (s.book.bytesOf r.original ≠ [] → s.book.bytesOf r.duplicate ≠ [] →
        r.original ∉ s.book.committed ∧ r.duplicate ∉ s.book.committed) ∧
      ¬(r.original ∈ s.book.committed ∧ r.duplicate ∈ s.book.committed)) ∧
    ∀ (id : OverlapGroupId) (group : OverlapGroup) (candidate : LeaseCommit),
      s.overlapGroups[id]? = some group → group.candidate = some candidate →
      (∀ τ' s', (storageMachine hashes).Run s τ' s' →
        Machine.Guarded StorageRequest.Orderly τ' → ∀ lease ∈ group.members,
          s'.book.bytesOf lease = s.book.bytesOf lease ∧
          ∀ block disk job reply, block.lease = lease →
            ((storageMachine hashes).next s' (.writeBlock block disk job)).1 ≠ .ok reply) ∧
      ∀ reason τ' s', (storageMachine hashes).Run ((storageMachine hashes).next s
          (.abortLease s.layout.task s.layout.generation candidate.lease reason)).2 τ' s' →
        Machine.Guarded StorageRequest.Orderly τ' → ∀ lease ∈ group.members,
          lease ∉ s'.book.committed := by
  obtain ⟨layout, sequence, medium, cpuPool, residentLimit, -, rfl⟩ := initial
  have sound := openLayout_sound.moves (moves_of_run openLayout_sound run orderly)
  refine ⟨?_, ?_, ?_⟩
  · intro lease lease' entry entry' distinct found found' meets
    exact members_of_meets sound distinct found found' meets
  · intro r registered
    have fate := sound.exclusive registered
    constructor
    · intro first second
      obtain uncommitted | ⟨-, quiet⟩ | ⟨-, quiet⟩ := fate
      · exact uncommitted
      · exact (first (LeaseBook.bytesOf_eq_nil.mpr quiet)).elim
      · exact (second (LeaseBook.bytesOf_eq_nil.mpr quiet)).elim
    · rintro ⟨first, second⟩
      obtain ⟨absent, -⟩ | ⟨absent, -⟩ | ⟨absent, -⟩ := fate
      · exact absent first
      · exact absent first
      · exact absent second
  · intro id group candidate live chosen
    obtain ⟨r, held, rfl, members⟩ := sound.held live chosen
    constructor
    · intro τ' s' run' orderly' lease member
      obtain ⟨held', same⟩ := held.moves sound (moves_of_run sound run' orderly')
      refine ⟨same lease (members ▸ member), ?_⟩
      rintro block disk job reply rfl
      exact writeBlock_refuses held' (members ▸ member) disk job reply
    · intro reason τ' s' run' orderly' lease member
      obtain ⟨sound', barred⟩ := abortLease_barred sound live chosen held members reason rfl
      have after := barred.moves sound' (moves_of_run sound' run' orderly')
      exact after.uncommitted lease (members ▸ member)

/-! ## A short write -/

namespace StorageSample

def pair : List StorageRequest :=
  [.beginLease (plan original ⟨0, 4⟩ none),
    .registerOverlapGroup task .initial group original duplicate ⟨0, 4⟩ hash,
    .beginLease (plan duplicate ⟨0, 4⟩ (some group))]

/-- The original waits to commit while the duplicate has not written. -/
def pending : List StorageRequest :=
  pair ++ [.writeBlock (block original 0 4 0) .written .refused, .commitLease (commit original 4)]

/-- The duplicate writes a part of its block and fails; the original writes its block and commits
when the duplicate is aborted. -/
def shortWrite : List StorageRequest :=
  pair ++ [.writeBlock (block duplicate 0 4 1) (.failed 2) .refused,
    .writeBlock (block original 0 4 0) .written .refused, .commitLease (commit original 4),
    .abortLease task .initial duplicate .overlapLost]

/-- The group of two open leases is settled for a lease that is not in it. -/
def settledForOther : List StorageRequest :=
  pair ++ [.settleUnopenedOverlapMember task .initial group ⟨3, three_ne_zero⟩]

/-- The original commits when its group is settled for the duplicate, which is then opened without
the group and commits as well. -/
def openedLater : List StorageRequest :=
  [.beginLease (plan original ⟨0, 4⟩ none),
    .registerOverlapGroup task .initial group original duplicate ⟨0, 4⟩ hash,
    .writeBlock (block original 0 4 0) .written .refused, .commitLease (commit original 4),
    .settleUnopenedOverlapMember task .initial group duplicate,
    .beginLease (plan duplicate ⟨0, 4⟩ none), .writeBlock (block duplicate 0 4 1) .written .refused,
    .commitLease (commit duplicate 4)]

end StorageSample

open StorageSample in
/-- A candidate that is aborted while the duplicate is open. -/
theorem overlappingWriters_exclude_pending : ∃ group' candidate,
      ((storageMachine hashes).final (engine 4) pending).overlapGroups[group]? = some group' ∧
      group'.candidate = some candidate ∧ ∀ lease ∈ group'.members,
        lease ∉ ((storageMachine hashes).next ((storageMachine hashes).final (engine 4) pending)
          (.abortLease task .initial candidate.lease .cancelled)).2.book.committed := by
  have live : ((storageMachine hashes).final (engine 4) pending).overlapGroups[group]? =
      some ⟨⟨0⟩, ⟨0, 4⟩, {original, duplicate}, some (commit original 4), true⟩ := by
    decide +kernel
  have orderly : Machine.Guarded StorageRequest.Orderly
      ((storageMachine hashes).trace (engine 4) pending) := by
    unfold Machine.Guarded
    decide +kernel
  have excluded := overlappingWriters_exclude ⟨layout 4, 0, _, _, _, rfl, rfl⟩
    (Machine.run_trace (engine 4) pending) orderly
  refine ⟨_, _, live, rfl, fun lease member => ?_⟩
  exact (excluded.2.2 group _ _ live rfl).2 .cancelled [] _ .nil (by simp [Machine.Guarded]) lease
    member

open StorageSample in
/-- A loser whose write ended short is taken to have written nothing, so the winner commits over
bytes of both. A group that is settled for another lease leaves its two members open without a
group, and a duplicate that is opened after its group is gone commits beside the original. -/
theorem overlappingWriters_commit_mixed_bytes :
    (((storageMachine hashes).final (engine 4) shortWrite).registrations =
        [⟨group, original, duplicate⟩] ∧
      ((storageMachine hashes).final (engine 4) shortWrite).book.bytesOf original = [0, 0, 0, 0] ∧
      ((storageMachine hashes).final (engine 4) shortWrite).book.bytesOf duplicate = [1, 1] ∧
      ((storageMachine hashes).final (engine 4) shortWrite).book.committed = [original]) ∧
    (((storageMachine hashes).final (engine 4) settledForOther).overlapGroups.isEmpty ∧
      ((storageMachine hashes).final (engine 4) settledForOther).active.keys =
        [original, duplicate]) ∧
    ((storageMachine hashes).final (engine 4) openedLater).registrations =
        [⟨group, original, duplicate⟩] ∧
      ((storageMachine hashes).final (engine 4) openedLater).book.committed =
        [original, duplicate] := by
  decide +kernel

end Ariax
