import Ariax.Storage.Calls

/-!
# The moves of a step

The calls that end leases or write to them, and with them every request: in
any state whose groups have at most two members, an orderly request changes
the book by a sequence of moves.
-/

namespace Ariax

open IsTrans

namespace StorageEngine

variable {s : StorageEngine}

/-! ## Rolling back -/

/-- Some of the given leases are no longer active. -/
def Shrinks (members : Finset LeaseId) (s s' : StorageEngine) : Prop :=
  (∀ (lease : LeaseId) entry, s'.active[lease]? = some entry → s.active[lease]? = some entry) ∧
    (∀ lease : LeaseId, lease ∉ members → s'.active[lease]? = s.active[lease]?) ∧
    s'.book = { s.book with active := s'.active }

instance {members : Finset LeaseId} : Std.Refl (Shrinks members) :=
  ⟨fun _ => ⟨fun _ _ found => found, fun _ _ => rfl, rfl⟩⟩

instance {members : Finset LeaseId} : IsTrans StorageEngine (Shrinks members) where
  trans := by
    rintro a b c ⟨fewer, others, ab⟩ ⟨fewer', others', bc⟩
    refine ⟨fun lease entry found => fewer lease entry (fewer' lease entry found), ?_, ?_⟩
    · intro lease outside
      rw [others' lease outside, others lease outside]
    · rw [bc, ab]

variable {reason : LeaseAbortReason} {members : Finset LeaseId}
  {group : OverlapGroup} {id : OverlapGroupId} {s' : StorageEngine} {lease : LeaseId}
  {hashes : ContentHashes} {s : StorageEngine}

theorem Shrinks.of_same (same : SameBook s s') : Shrinks members s s' := by
  have active : s'.active = s.active := congrArg LeaseBook.active same
  refine ⟨fun _ _ found => by rwa [active] at found, fun _ _ => by rw [active], ?_⟩
  rw [active]
  exact same

theorem Shrinks.erase (member : lease ∈ members) (s : StorageEngine) :
    Shrinks members s (s.withActive (s.active.erase lease)) := by
  refine ⟨OrderedMap.getElem?_of_erase, ?_, rfl⟩
  intro x outside
  have other : lease ≠ x := fun same => outside (same ▸ member)
  simp [withActive, OrderedMap.getElem?_erase, other]

theorem Shrinks.apart (shrinks : Shrinks members s s')
    (apart : Apart members s.active) : Apart members s'.active := by
  have gone (lease : LeaseId) (absent : s.active[lease]? = none) : s'.active[lease]? = none := by
    cases found : s'.active[lease]? with
    | none => rfl
    | some entry =>
      have there := shrinks.1 lease entry found
      rw [absent] at there
      cases there
  intro lease member lease' member' distinct
  exact (apart lease member lease' member' distinct).imp (gone lease) (gone lease')

/-- What is left of a group of two leases after it was rolled back. -/
structure RolledBack (id : OverlapGroupId) (group : OverlapGroup) (s s' : StorageEngine) :
    Prop where
  shrinks : Shrinks group.members (s.withGroups (s.overlapGroups.erase id)) s'
  apart : Apart group.members s'.active

theorem RolledBack.moves (back : RolledBack id group s s')
    (live : s.overlapGroups[id]? = some group) : LeaseMoves s s' :=
  .of_move (.rolledBack live back.shrinks.1 back.shrinks.2.1 back.apart) back.shrinks.2.2

theorem rollbackOverlap_rolledBack (live : s.overlapGroups[id]? = some group)
    (pair : group.members.card ≤ 2) :
    wpEnds (rollbackOverlap id reason) (RolledBack id group s) s := by
  refine wp_get_bind (wp_bind.mpr (wp_orThrow.mpr ⟨?_, fun missing => ?_⟩))
  swap
  · rw [live] at missing
    cases missing
  intro group' live'
  cases live.symm.trans live'
  refine wp_set_bind ?_
  generalize listed : ((inOrder group.members).filter fun lease => s.active.contains lease) =
    aborted
  have members : ∀ lease ∈ aborted, lease ∈ group.members := by
    rw [← listed]
    intro lease member
    simpa using (List.mem_filter.mp member).1
  have each : ∀ lease ∈ aborted, Tracks (Shrinks group.members) (do
      modify fun s => s.withActive (s.active.erase lease)
      appendPayload (.leaseAborted lease reason) : StorageCall Unit) := fun lease member =>
    (Tracks.modify (Shrinks.erase (members lease member))).bind fun _ =>
      (appendPayload_sameBook rfl).mono fun _ _ => .of_same
  have keeps {s₁ s₂ : StorageEngine} (back : RolledBack id group s s₁)
      (shrinks : Shrinks group.members s₁ s₂) : RolledBack id group s s₂ :=
    ⟨trans _ _ _ back.shrinks shrinks, shrinks.apart back.apart⟩
  cases aborted with
  | nil =>
    refine wp_bind.mpr (wp_pure.mpr (wp_throwIf_bind ?_ fun some => ?_))
    · refine ⟨Std.Refl.refl _, fun lease member lease' _ _ => .inl ?_⟩
      have inactive := List.filter_eq_nil_iff.mp listed lease (by simpa using member)
      simpa [withGroups] using inactive
    · exact (some rfl).elim
  | cons first =>
    refine wp_bind.mpr (wp_bind.mpr (wp_modify_bind ?_))
    have member := members first List.mem_cons_self
    have erased : RolledBack id group s ((s.withGroups (s.overlapGroups.erase id)).withActive
        ((s.withGroups (s.overlapGroups.erase id)).active.erase first)) :=
      ⟨Shrinks.erase member _, .of_gone pair member (by simp [withActive])⟩
    refine (appendPayload_sameBook rfl).spec (fun _ s₁ same₁ => ?_)
      fun _ _ same => keeps erased (.of_same same)
    have back := keeps erased (.of_same same₁)
    refine (Tracks.forM fun lease member => each lease (List.mem_cons_of_mem _ member)).spec
      (fun _ s₂ shrinks => ?_) fun _ _ => keeps back
    have back := keeps back shrinks
    refine wp_throwIf_bind back fun _ => ?_
    refine Tracks.spec (R := SameBook) ?_ (fun _ _ same => keeps back (.of_same same))
      fun _ _ same => keeps back (.of_same same)
    exact adjust_sameBook.bind fun _ => flush_tracks.bind fun _ => .pure

theorem abortVerification_sameBook : Tracks SameBook (abortVerification lease) :=
  Tracks.get.bind fun _ => .ite (fun _ => coordinate_sameBook) fun _ => .pure

theorem abortLease_moves {task : TaskId} {generation : Generation}
    (pairs : ∀ (id : OverlapGroupId) group, s.overlapGroups[id]? = some group →
      group.members.card ≤ 2) :
    wpEnds (abortLease hashes task generation lease reason) (LeaseMoves s) s := by
  refine wp_bind.mpr (wp_validateIdentity ?_ fun _ => .refl)
  refine wp_get_bind (wp_orThrow_bind .refl ?_)
  intro entry found
  cases grouped : entry.plan.overlapGroup with
  | none =>
    have nothing : ∀ x ∈ ([] : List LeaseId), x = lease := by simp
    have ended : LeaseMoves s (s.withActive (s.active.erase lease)) := by
      refine .of_move (.ended found grouped nothing) ?_
      simp [LeaseBook.recorded, LeaseBook.withoutLease, withActive, book]
    refine wp_set_bind (Tracks.after (tracks_moves ?_) ended)
    refine abortVerification_sameBook.bind fun _ => (appendPayload_sameBook rfl).bind fun _ => ?_
    exact flush_tracks.bind fun _ => .pure
  | some id =>
    refine wp_orThrow_bind .refl fun group live => ?_
    refine wp_throwIf_bind .refl fun outside => ?_
    refine wp_ite.mpr ⟨fun _ => ?_, fun harmless => ?_⟩
    · exact (rollbackOverlap_rolledBack live (pairs id group live)).mono
        (fun _ _ back => back.moves live) fun _ _ back => back.moves live
    have member := not_not.mp outside
    simp only [not_or, Option.any_eq_true, not_exists, not_and, decide_eq_true_eq, ne_eq,
      not_not] at harmless
    obtain ⟨other, unwritten⟩ := harmless
    have withdrew : LeaseMoves s (s.withActive (s.active.erase lease)) :=
      .of_move (.withdrew found live member unwritten other) rfl
    refine wp_set_bind (wp_bind.mpr ?_)
    refine abortVerification_sameBook.spec (fun _ s₁ same₁ => ?_)
      fun _ _ same => trans _ _ _ withdrew (.of_same same)
    refine wp_bind.mpr ((Tracks.after (appendPayload_sameBook rfl) same₁).mono
      (fun _ s₂ same₂ => ?_) fun _ _ same => trans _ _ _ withdrew (.of_same same))
    have before : LeaseMoves s s₂ := trans _ _ _ withdrew (.of_same same₂)
    have gone : s₂.active[lease]? = none := by
      rw [show s₂.active = s.active.erase lease from congrArg LeaseBook.active same₂]
      simp
    have live : s₂.overlapGroups[id]? = some group := by
      rw [show s₂.overlapGroups = s.overlapGroups from congrArg LeaseBook.overlapGroups same₂]
      exact live
    have orphaned : LeaseMoves s (s₂.withGroups (s₂.overlapGroups.erase id)) :=
      trans _ _ _ before (.orphaned live member gone rfl)
    refine wp_modify_bind ?_
    refine wp_orThrow_bind orphaned fun remaining first => ?_
    have rest := mem_of_firstMember first
    cases candidate : group.candidate with
    | some =>
      refine wp_throwIf_bind orphaned fun same => ?_
      obtain rfl := not_not.mp same
      refine wp_bind.mpr (commitActive_concluded.mono (fun _ _ done => wp_pure.mpr ?_)
        fun _ _ done => ?_)
      · exact trans _ _ _ before (done.dissolves live member gone rest)
      · exact trans _ _ _ before (done.dissolves live member gone rest)
    | none =>
      have freed : LeaseMoves s ((s₂.withGroups (s₂.overlapGroups.erase id)).withActive
          (regroup (s₂.withGroups (s₂.overlapGroups.erase id)).active remaining none)) :=
        trans _ _ _ before (.of_move (.freed live member gone candidate rest) rfl)
      refine wp_modify_bind (Tracks.after (tracks_moves ?_) freed)
      exact flush_tracks.bind fun _ => .pure

theorem abortLease_rolledBack {candidate : LeaseCommit} {entry : ActiveLease}
    (live : s.overlapGroups[id]? = some group) (pair : group.members.card ≤ 2)
    (chosen : group.candidate = some candidate) (member : candidate.lease ∈ group.members)
    (found : s.active[candidate.lease]? = some entry) (grouped : entry.plan.overlapGroup = some id)
    :
    wpEnds (abortLease hashes s.layout.task s.layout.generation candidate.lease reason)
      (RolledBack id group s) s := by
  simp only [abortLease, validateIdentity, wp_bind, wp_get, wp_throwIf, wp_orThrow, ne_eq,
    not_true_eq_false, false_implies, true_and, not_false_eq_true, true_implies, found, grouped,
    live, member, chosen, Option.any_some, decide_true, true_or, if_true, Option.some.injEq,
    reduceCtorEq, and_true, forall_eq']
  exact rollbackOverlap_rolledBack live pair

/-! ## Writing -/

theorem writeBlock_moves {block : WriteBlock} {disk : DiskOutcome} {job : JobOutcome Unit}
    (clean : disk.placed = 0) :
    wpEnds (writeBlock block disk job) (LeaseMoves s) s := by
  have nothing : (⟨block.lease, block.globalOffset, []⟩ : Placement).bytes = [] := rfl
  refine wp_bind.mpr (wp_validateBlock (fun entry found thawed => ?_) fun _ => .refl)
  refine wp_get_bind (wp_orThrow_bind .refl fun _ _ => ?_)
  refine wp_throwIf_bind .refl fun _ => ?_
  refine wp_orThrow_bind .refl fun next _ => ?_
  refine wp_set_bind ?_
  cases disk with
  | refused => exact wp_throw.mpr .refl
  | failed | dropped =>
    obtain rfl := clean
    refine wp_modify_bind (wp_throw.mpr ?_)
    exact .of_move (.placedNothing nothing) rfl
  | written =>
    refine wp_modify_bind (wp_modify_bind ?_)
    refine Tracks.after (tracks_moves ?_) (.of_move (.wrote found thawed) rfl)
    refine Tracks.get.bind fun _ => ?_
    exact .ite (fun _ => feedVerification_sameBook.bind fun _ => .pure) fun _ => .pure

theorem restoreVerifiedContributors_moves {contributors : List JournalContributor} :
    Tracks LeaseMoves (restoreVerifiedContributors contributors) := by
  refine Tracks.get.bind fun _ => Tracks.throwIf.bind fun _ => .forM fun contributor _ => ?_
  refine Tracks.bind (.modify fun s => ?_) fun _ => tracks_moves coordinate_sameBook
  exact .of_move (.saw contributor.leaseId) rfl

end StorageEngine

/-! ## Steps -/

/-- What a caller keeps to: a lease that was registered as a duplicate is opened in its group
only, groups and duplicates are registered once, a group is settled for one of its members, and no
write that fails leaves bytes in a file. -/
def StorageRequest.Orderly (s : StorageEngine) : StorageRequest → Prop
  | .beginLease plan => ∀ r ∈ s.registrations, r.duplicate = plan.lease →
      plan.overlapGroup = some r.group
  | .registerOverlapGroup _ _ group _ duplicate _ _ =>
    ∀ r ∈ s.registrations, r.group ≠ group ∧ r.duplicate ≠ duplicate
  | .settleUnopenedOverlapMember _ _ id lease =>
    ∀ group, s.overlapGroups[id]? = some group → lease ∈ group.members
  | .writeBlock _ disk _ => disk.placed = 0
  | _ => True

instance (s : StorageEngine) : DecidablePred (StorageRequest.Orderly s)
  | .beginLease .. => inferInstanceAs (Decidable (∀ _ ∈ _, _ → _))
  | .registerOverlapGroup .. => inferInstanceAs (Decidable (∀ _ ∈ _, _ ∧ _))
  | .settleUnopenedOverlapMember _ _ id _ =>
    inferInstanceAs (Decidable (∀ group ∈ s.overlapGroups[id]?, _))
  | .writeBlock .. => inferInstanceAs (Decidable (_ = _))
  | .commitLease .. | .abortLease .. | .recordRetryState .. | .recordHttpRangeIdentity ..
  | .recordProtocolValidator .. | .complete .. | .configureVerification ..
  | .restoreVerifiedContributors .. | .invalidateVerifiedPiece .. | .requireVerificationReadback
  | .redownloadIncompleteRecovery | .finishVerification .. | .recordWholeFileVerified ..
  | .verifyWholeFile .. => .isTrue trivial

open StorageEngine in
theorem StorageRequest.Orderly.moves {hashes : ContentHashes} {s : StorageEngine}
    {request : StorageRequest} (orderly : request.Orderly s)
    (pairs : ∀ (id : OverlapGroupId) group, s.overlapGroups[id]? = some group →
      group.members.card ≤ 2) :
    LeaseMoves s ((storageMachine hashes).next s request).2 := by
  apply storage_next_of_wp (P := LeaseMoves s)
  cases request with
  | beginLease => exact wp_map.mpr (beginLease_moves orderly)
  | registerOverlapGroup =>
    exact wp_map.mpr (registerOverlapGroup_moves orderly)
  | settleUnopenedOverlapMember =>
    exact wp_map.mpr (settleUnopenedOverlapMember_moves orderly)
  | writeBlock => exact wp_map.mpr (writeBlock_moves orderly)
  | commitLease => exact wp_map.mpr commitLease_moves
  | abortLease => exact wp_map.mpr (abortLease_moves pairs)
  | restoreVerifiedContributors =>
    exact restoreVerifiedContributors_moves.map s
  | recordRetryState => exact recordRetryState_tracks.map s
  | recordHttpRangeIdentity => exact recordHttpRangeIdentity_tracks.map s
  | recordProtocolValidator => exact recordProtocolValidator_tracks.map s
  | complete => exact (tracks_moves complete_sameBook).map s
  | configureVerification =>
    exact (tracks_moves configureVerification_sameBook).map s
  | invalidateVerifiedPiece => exact invalidateVerifiedPiece_tracks.map s
  | requireVerificationReadback => exact (tracks_moves adjust_sameBook).map s
  | redownloadIncompleteRecovery => exact redownloadIncompleteRecovery_tracks.map s
  | finishVerification => exact (tracks_moves finishVerification_sameBook).map s
  | recordWholeFileVerified =>
    exact (tracks_moves recordWholeFileVerified_sameBook).map s
  | verifyWholeFile =>
    exact (verifyWholeFile_tracks fun _ => tracks_moves recordWholeFileVerified_sameBook).map s

end Ariax
