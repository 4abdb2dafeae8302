import Ariax.Storage.Moves

/-!
# The moves of the calls

Opening and committing a lease, registering a group and settling it change
the book by sequences of moves, from any state and whatever the journal, the
disk and the processor pool do to the call, if the caller keeps to the
conditions that the moves name.
-/

namespace Ariax

namespace StorageEngine

/-- A sequence of moves leads from one book to the other. -/
def LeaseMoves (s s' : StorageEngine) : Prop := Relation.ReflTransGen LeaseMove s.book s'.book

instance : Std.Refl LeaseMoves := ⟨fun _ => .refl⟩

instance : IsTrans StorageEngine LeaseMoves := ⟨fun _ _ _ => .trans⟩

variable {fails : StorageFailure → StorageEngine → Prop} {s' : StorageEngine} {lease : LeaseId}
  {plan : LeaseWritePlan} {commit : LeaseCommit} {s : StorageEngine}

theorem LeaseMoves.of_same (same : SameBook s s') : LeaseMoves s s' := by
  rw [LeaseMoves, show s'.book = s.book from same]

theorem LeaseMoves.of_move {b : LeaseBook} (move : LeaseMove s.book b)
    (reached : s'.book = b) : LeaseMoves s s' := by
  rw [LeaseMoves, reached]
  exact .single move

theorem tracks_moves {α : Type} {call : StorageCall α} (same : Tracks SameBook call) :
    Tracks LeaseMoves call :=
  same.mono fun _ _ => .of_same

instance : Lenient LeaseMoves := .mono fun _ _ same => LeaseMoves.of_same same

variable {s : StorageEngine}

/-! ## Checks leave the state alone -/

variable {post : Unit → StorageEngine → Prop} {generation : Generation} {validator : JournalHash}
  {hashes : ContentHashes} {piece : PieceId} {task : TaskId}

theorem wp_validateIdentity (returns : post () s) (throws : ∀ e, fails e s) :
    wp (validateIdentity task generation) post fails s := by
  simp only [validateIdentity, wp_bind, wp_get, wp_throwIf]
  exact ⟨fun _ => throws _, fun _ => ⟨fun _ => throws _, fun _ => returns⟩⟩

theorem wp_pieceSpan {post : PersistedSpan → StorageEngine → Prop} (returns : ∀ span, post span s)
    (throws : ∀ e, fails e s) : wp (pieceSpan piece) post fails s := by
  simp only [pieceSpan, wp_bind, wp_get, wp_orThrow]
  exact ⟨fun span _ => returns span, fun _ => throws _⟩

theorem wp_validateCommit {active : ActiveLease} (returns : post () s) (throws : ∀ e, fails e s) :
    wp (validateCommit active commit) post fails s :=
  wp_throwIf.mpr ⟨fun _ => throws _, fun _ => returns⟩

theorem wp_validateBlock {block : WriteBlock} {post : ActiveLease → StorageEngine → Prop}
    (returns : ∀ entry, s.active[block.lease]? = some entry →
      (∀ id, entry.plan.overlapGroup = some id →
        ∃ group, s.overlapGroups[id]? = some group ∧ group.frozen = false) → post entry s)
    (throws : ∀ e, fails e s) : wp (validateBlock block) post fails s := by
  refine wp_bind.mpr (wp_validateIdentity ?_ throws)
  simp only [wp_bind, wp_get, wp_orThrow, wp_throwIf, wp_pure]
  refine ⟨fun entry found => ⟨fun _ => throws _, fun thawed => ?_⟩, fun _ => throws _⟩
  refine ⟨fun _ ↦ throws _, fun _ ↦ ⟨fun _ ↦ throws _, fun _ ↦ ⟨fun _ ↦ throws _, fun _ ↦ ?_⟩⟩⟩
  refine ⟨fun _ ↦ throws _, fun _ ↦ ⟨fun _ ↦ throws _, fun _ ↦ ⟨fun _ ↦ throws _, fun _ ↦ ?_⟩⟩⟩
  refine ⟨fun _ => throws _, fun _ => returns entry found fun id grouped => ?_⟩
  rw [grouped] at thawed
  cases live : s.overlapGroups[id]? with
  | none => simp [live] at thawed
  | some group =>
    simp only [Option.any_some, live, Option.all_some, Bool.not_eq_true] at thawed
    exact ⟨group, rfl, thawed⟩

/-! ## Opening -/

theorem allows_of_allowsOverlap (allowed : s.allowsOverlap plan piece = true) :
    s.book.Allows plan := by
  have meets {lease : LeaseId} {entry : ActiveLease} (found : s.active[lease]? = some entry)
      (overlaps : entry.plan.span.overlaps plan.span = true) :
      lease ∈ s.overlapping plan.span := by
    rw [overlapping, OrderedMap.mem_keysWhere, found]
    exact overlaps
  unfold allowsOverlap at allowed
  constructor
  · intro alone lease entry found overlaps
    simp only [alone, List.isEmpty_iff] at allowed
    have none := meets found overlaps
    rw [allowed] at none
    cases none
  · intro id grouped
    simp only [grouped, Option.any_eq_true, decide_eq_true_eq] at allowed
    obtain ⟨group, live, thawed, -, span, member, peers⟩ := allowed
    unfold meetsPeer at peers
    split at peers
    · rename_i peer only
      simp only [Option.any_eq_true, decide_eq_true_eq] at peers
      obtain ⟨entry, found, same, span', validator⟩ := peers
      refine ⟨group, peer, entry, live, by simpa using thawed, span, member, found, same, span',
        validator, ?_⟩
      intro lease other found overlaps
      have there := meets found overlaps
      rw [only] at there
      exact List.mem_singleton.mp there
    · cases peers

theorem beginVerification_sameBook {persisted : PersistedSpan} {pieces : List PieceId} :
    Tracks SameBook (beginVerification plan persisted pieces) :=
  .ite (fun _ => coordinate_sameBook) fun _ => adjust_sameBook

theorem beginLease_moves (reserved : ∀ r ∈ s.registrations, r.duplicate = plan.lease →
      plan.overlapGroup = some r.group) :
    wpEnds (beginLease plan) (LeaseMoves s) s := by
  refine wp_bind.mpr (wp_validateIdentity ?_ fun _ => .refl)
  refine wp_get_bind (wp_throwIf_bind .refl fun new => ?_)
  refine wp_bind.mpr (wp_pieceSpan (fun span => ?_) fun _ => .refl)
  refine wp_throwIf_bind .refl fun _ => ?_
  refine wp_throwIf_bind .refl fun allowed => ?_
  refine wp_orThrow_bind .refl fun persisted made => ?_
  refine wp_bind.mpr (beginVerification_sameBook.spec (fun _ s₁ same₁ => ?_) fun _ _ => .of_same)
  refine wp_bind.mpr ((appendLeaseStarted_tracks.after same₁).mono (fun _ s₂ same₂ => ?_)
    fun _ _ => .of_same)
  refine wp_modify_bind (wp_pure.mpr ?_)
  have unseen : plan.lease ∉ s.seenLeases := fun seen => new (.inl seen)
  have unopened : s.active[plan.lease]? = none := by
    have absent := fun there => new (.inr there)
    simpa using absent
  have allowed := allows_of_allowsOverlap (by simpa using allowed)
  have reached (piece : PieceId) : (s₂.opened plan piece).book = s.book.opened plan piece := by
    rw [← show s₂.book = s.book from same₂]
    rfl
  exact .of_move (.opened unseen unopened allowed (GlobalSpan.fits_of_persisted made) reserved)
    (reached _)

/-! ## Committing -/

/-- At most the given lease was recorded as committed. -/
def Records (lease : LeaseId) (s s' : StorageEngine) : Prop :=
  ∃ leases, (∀ x ∈ leases, x = lease) ∧ s'.book = s.book.recorded leases

instance {lease : LeaseId} : Std.Refl (Records lease) :=
  ⟨fun s => ⟨[], by simp, by simp [LeaseBook.recorded]⟩⟩

instance {lease : LeaseId} : IsTrans StorageEngine (Records lease) where
  trans := by
    rintro a b c ⟨first, firstOnly, ab⟩ ⟨second, secondOnly, bc⟩
    refine ⟨first ++ second, ?_, ?_⟩
    · intro x member
      exact (List.mem_append.mp member).elim (firstOnly x) (secondOnly x)
    · rw [bc, ab]
      simp [LeaseBook.recorded]

theorem Records.of_same (same : SameBook s s') : Records lease s s' :=
  ⟨[], by simp, by rw [show s'.book = s.book from same]; simp [LeaseBook.recorded]⟩

instance {lease : LeaseId} : Lenient (Records lease) := .mono fun _ _ same => Records.of_same same

theorem tracks_records {α : Type} {call : StorageCall α} (same : Tracks SameBook call) :
    Tracks (Records lease) call :=
  same.mono fun _ _ => .of_same

theorem appendLeaseCommitted_records {span : PersistedSpan} {digest : Option JournalDigest} :
    Tracks (Records lease) (appendPayload (.leaseCommitted lease span validator digest)) := by
  have recorded (s : StorageEngine) :
      Records lease s (s.record (.leaseCommitted lease span validator digest)) := by
    refine ⟨[lease], by simp, ?_⟩
    simp [book, record, LeaseBook.recorded, JournalPayload.committedLease]
  exact appendPayload_tracks recorded

/-- A lease is left as it is, or ended and at most it recorded as committed. -/
def Concluded (lease : LeaseId) (b b' : LeaseBook) : Prop :=
  b' = b ∨ ∃ entry leases, b.active[lease]? = some entry ∧ (∀ x ∈ leases, x = lease) ∧
    b' = (b.withoutLease lease).recorded leases

theorem Concluded.of_records {entry : ActiveLease} (found : s.active[lease]? = some entry)
    (records : Records lease (s.withActive (s.active.erase lease)) s') :
    Concluded lease s.book s'.book := by
  obtain ⟨leases, only, after⟩ := records
  exact .inr ⟨entry, leases, found, only, after⟩

theorem commitVerifiedLease_concluded :
    wpEnds (commitVerifiedLease commit) (Concluded commit.lease s.book ·.book) s := by
  refine wp_get_bind (wp_orThrow_bind (.inl rfl) ?_)
  intro entry found
  refine wp_bind.mpr (wp_validateCommit ?_ fun _ => .inl rfl)
  refine wp_set_bind ?_
  refine Tracks.spec (R := Records commit.lease) ?_ (fun _ _ => .of_records found)
    fun _ _ => .of_records found
  refine Tracks.orThrow.bind fun span => ?_
  refine Tracks.bind (.forM fun _ _ => ?_) fun _ => ?_
  · refine pieceSpan_tracks.bind fun _ => Tracks.orThrow.bind fun _ => ?_
    exact appendPlain_tracks rfl ⟨rfl, rfl⟩
  · refine appendLeaseCommitted_records.bind fun _ => flush_tracks.bind fun _ => ?_
    refine Tracks.get.bind fun _ => ?_
    exact .ite (fun _ => (tracks_records coordinate_sameBook).bind fun _ => .pure)
      fun _ => (tracks_records coordinate_sameBook).bind fun _ => .pure

theorem commitActive_concluded :
    wpEnds (commitActive hashes commit) (Concluded commit.lease s.book ·.book) s := by
  refine wp_get_bind (wp_ite.mpr ⟨fun _ => commitVerifiedLease_concluded, fun _ => ?_⟩)
  refine wp_orThrow_bind (.inl rfl) fun entry found => ?_
  refine wp_bind.mpr (wp_validateCommit ?_ fun _ => .inl rfl)
  refine wp_set_bind ?_
  refine Tracks.spec (R := Records commit.lease) ?_ (fun _ _ => .of_records found)
    fun _ _ => .of_records found
  refine pieceSpan_tracks.bind fun _ => ?_
  refine (appendPlain_tracks rfl ⟨rfl, rfl⟩).bind fun _ => ?_
  refine appendLeaseCommitted_records.bind fun _ => tracks_records ?_
  refine Tracks.orThrow.bind fun _ => Tracks.orThrow.bind fun _ => ?_
  refine (appendPayload_sameBook rfl).bind fun _ => syncPieceFiles_tracks.bind fun _ => ?_
  exact (appendPayload_sameBook rfl).bind fun _ => flush_tracks.bind fun _ => .pure

theorem Concluded.moves (concluded : Concluded lease s.book s'.book)
    (free : ∀ entry, s.active[lease]? = some entry → entry.plan.overlapGroup = none) :
    LeaseMoves s s' := by
  obtain same | ⟨entry, leases, found, only, after⟩ := concluded
  · exact .of_same same
  · exact .of_move (.ended found (free entry found) only) after

theorem commitLease_moves : wpEnds (commitLease hashes commit) (LeaseMoves s) s := by
  refine wp_bind.mpr (wp_validateIdentity ?_ fun _ => .refl)
  refine wp_get_bind (wp_orThrow_bind .refl ?_)
  intro entry found
  refine wp_bind.mpr (wp_validateCommit ?_ fun _ => .refl)
  cases grouped : entry.plan.overlapGroup with
  | none =>
    have free : ∀ entry', s.active[commit.lease]? = some entry' →
        entry'.plan.overlapGroup = none := by
      intro entry' found'
      cases found.symm.trans found'
      exact grouped
    exact commitActive_concluded.imp fun _ done => done.moves free
  | some =>
    refine wp_orThrow_bind .refl fun group live => ?_
    refine wp_throwIf_bind .refl fun passed => ?_
    refine wp_set_bind (wp_pure.mpr ?_)
    simp only [not_or, Bool.not_eq_true, not_not] at passed
    obtain ⟨thawed, -, -, member, -⟩ := passed
    exact .of_move (.froze live thawed found member) rfl

/-! ## Registering and settling -/

theorem registerOverlapGroup_moves {group : OverlapGroupId} {original duplicate : LeaseId}
    {span : GlobalSpan} (unused : ∀ r ∈ s.registrations, r.group ≠ group ∧ r.duplicate ≠ duplicate)
    :
    wpEnds (registerOverlapGroup task generation group original duplicate span validator)
      (LeaseMoves s) s := by
  refine wp_bind.mpr (wp_validateIdentity ?_ fun _ => .refl)
  refine wp_get_bind (wp_throwIf_bind .refl fun apart => ?_)
  refine wp_orThrow_bind .refl fun entry found => ?_
  refine wp_throwIf_bind .refl fun passed => ?_
  refine wp_throwIf_bind .refl fun unseen => wp_set.mpr ?_
  simp only [not_or, Option.isSome_iff_ne_none, ne_eq, not_not] at passed
  obtain ⟨free, rfl, -⟩ := passed
  have distinct : original ≠ duplicate := fun same => apart (.inl same)
  exact .of_move (.registered (r := ⟨group, original, duplicate⟩) distinct found free unseen unused)
    rfl

theorem mem_of_firstMember {members : Finset LeaseId} (first : firstMember members = some lease) :
    lease ∈ members := by
  have member := List.mem_of_head? first
  simpa using member

variable {id : OverlapGroupId} {group : OverlapGroup} {lease : LeaseId} {s' : StorageEngine}

theorem LeaseMoves.orphaned (live : s.overlapGroups[id]? = some group)
    (member : lease ∈ group.members) (gone : s.active[lease]? = none)
    (after : s'.book = s.book.withoutGroup id) : LeaseMoves s s' :=
  .of_move (.orphaned live member gone) after

/-- The group of an inactive lease is gone, and its other member may have been ended. -/
theorem Concluded.dissolves {remaining : LeaseId}
    (concluded : Concluded remaining (s.book.withoutGroup id) s'.book)
    (live : s.overlapGroups[id]? = some group) (member : lease ∈ group.members)
    (gone : s.active[lease]? = none) (rest : remaining ∈ group.members.erase lease) :
    LeaseMoves s s' := by
  obtain same | ⟨entry, leases, found, only, after⟩ := concluded
  · exact .orphaned live member gone same
  · exact .of_move (.concluded live member gone rest found only) after

theorem settleUnopenedOverlapMember_moves {hashes : ContentHashes} {task : TaskId}
    {generation : Generation}
    (member : ∀ group, s.overlapGroups[id]? = some group → lease ∈ group.members) :
    wpEnds (settleUnopenedOverlapMember hashes task generation id lease) (LeaseMoves s) s := by
  refine wp_bind.mpr (wp_validateIdentity ?_ fun _ => .refl)
  refine wp_get_bind (wp_throwIf_bind .refl fun gone => ?_)
  refine wp_orThrow_bind .refl fun group live => ?_
  have gone : s.active[lease]? = none := by simpa using gone
  have member := member group live
  have orphaned : LeaseMoves s (s.withGroups (s.overlapGroups.erase id)) :=
    .orphaned live member gone rfl
  refine wp_set_bind (wp_throwIf_bind orphaned fun _ => ?_)
  refine wp_orThrow_bind orphaned fun remaining first => ?_
  have rest := mem_of_firstMember first
  cases candidate : group.candidate with
  | some =>
    refine wp_throwIf_bind orphaned fun same => ?_
    obtain rfl := not_not.mp same
    exact commitActive_concluded.imp fun _ done => done.dissolves live member gone rest
  | none =>
    refine wp_throwIf_bind orphaned fun _ => ?_
    refine wp_modify_bind (wp_pure.mpr ?_)
    exact .of_move (.freed live member gone candidate rest) rfl

end StorageEngine

end Ariax
