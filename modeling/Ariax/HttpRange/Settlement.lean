import Ariax.HttpRange.Ownership

/-!
# Settled leases keep the accounts

The calls that end leases: a completed piece becomes durable, a fenced race
is settled or rolled back, and a failure releases one lease, promoting the
other one of a race. What a release leaves behind is stated once, as a state
that is still to have its piece updated.
-/

namespace Ariax

open Option Function

variable {setup : HttpRangeSetup} {c : HttpRangeCoordinator setup} {table : HoldingTable setup}

open HttpRangeCoordinator

def HttpRangeCoordinator.released (c : HttpRangeCoordinator setup) (lease : LeaseId)
    (range : ActiveRange setup) : HttpRangeCoordinator setup :=
  { c with
    active := c.active.erase lease
    activeEndgameDuplicates :=
      if range.duplicate then c.activeEndgameDuplicates - 1 else c.activeEndgameDuplicates
    activeByOrigin :=
      if c.concurrent range.sourceIndex - 1 = 0 then
        c.activeByOrigin.erase (setup.source range.sourceIndex).origin
      else
        c.activeByOrigin.insert (setup.source range.sourceIndex).origin
          (c.concurrent range.sourceIndex - 1) }

variable {range : ActiveRange setup} {piece : setup.Piece} {lease : LeaseId}

theorem wp_releaseActive {post : ActiveRange setup → HttpRangeCoordinator setup → Prop}
    {fails : HttpRangeCoordinatorError → HttpRangeCoordinator setup → Prop} :
    wp (releaseActive lease) post fails c ↔
      (∀ range, c.active[lease]? = some range → post range (c.released lease range)) ∧
        (c.active[lease]? = none → fails .unknownLease c) := by
  simp only [releaseActive, wp_bind, wp_get, wp_orThrow, wp_modify, wp_pure]
  exact Iff.rfl

abbrev HttpRangeCoordinator.Counts (c : HttpRangeCoordinator setup) : Prop :=
  Counted c.active c.activeByOrigin c.activeEndgameDuplicates

theorem Counted.released (counted : c.Counts) (used : c.active[lease]? = some range) :
    (c.released lease range).Counts :=
  counted.erase used rfl

theorem released_of_ne {other : LeaseId} (distinct : lease ≠ other) :
    (c.released lease range).active[other]? = c.active[other]? := by
  rw [released, OrderedMap.getElem?_erase, if_neg distinct]

theorem released_isSome {other : LeaseId}
    (found : (c.released lease range).active[other]?.isSome = true) :
    c.active[other]?.isSome = true := by
  rw [released, OrderedMap.getElem?_erase] at found
  split at found
  · cases found
  · exact found

section

variable (sound : Sound c table)
include sound

/-- All leases of a piece are gone from the books, and the piece is left free or durable. -/
theorem Sound.vacate {after : HttpRangeCoordinator setup} (rest : after = { c with
      active := after.active
      activeByOrigin := after.activeByOrigin
      activeEndgameDuplicates := after.activeEndgameDuplicates })
    (unfinished : table piece ≠ .durable) (counted : after.Counts)
    (owned : ∀ holding : Holding setup, (∀ lease, holding.row piece lease = none) →
      Owned (update c.pieces piece holding.state) after.active
        (update table piece holding))
    (own : ∀ lease : LeaseId, after.active[lease]?.isSome = true → c.active[lease]?.isSome = true) :
    Sound (after.setPiece piece .pending) (update table piece .free) ∧
      Sound (after.markPieceDurable piece) (update table piece .durable) := by
  have unfinished := sound.not_durable unfinished
  rw [rest]
  constructor
  · refine ⟨owned .free fun _ => rfl, counted, sound.tallied.update unfinished (by simp), ?_⟩
    exact sound.issued.settle (fun _ none => by cases none) own
  · refine ⟨owned .durable fun _ => rfl, counted, ?_, ?_⟩
    · simp only [markPieceDurable, setup.pieceLength_eq, getD_some]
      exact sound.tallied.complete unfinished
    · exact sound.issued.settle (fun _ none => by cases none) own

theorem Sound.release {source : setup.Source} (held : table piece = .held lease source)
    (used : c.active[lease]? = some range) :
    Sound ((c.released lease range).setPiece piece .pending)
      (update table piece .free) ∧
    Sound ((c.released lease range).markPieceDurable piece)
      (update table piece .durable) :=
  sound.vacate rfl (by simp [held]) (sound.counted.released used) (sound.owned.release held)
    fun _ => released_isSome

theorem Sound.rollback {race : Race setup} (raced : table piece = .raced race)
    {first second : LeaseId} (members : race.Members first second) {one other : ActiveRange setup}
    (used : c.active[first]? = some one)
    (used' : (c.released first one).active[second]? = some other) :
    Sound (((c.released first one).released second other).setPiece piece .pending)
      (update table piece .free) ∧
    Sound (((c.released first one).released second other).markPieceDurable piece)
      (update table piece .durable) :=
  sound.vacate rfl (by simp [raced]) ((sound.counted.released used).released used')
    (sound.owned.rollback raced members) fun _ found => released_isSome (released_isSome found)

/-- One lease of a race is released and the other becomes the only one of its piece. -/
theorem Sound.keep {race : Race setup} (raced : table piece = .raced race) {gone kept : LeaseId}
    (members : race.Members gone kept) {range' : ActiveRange setup}
    (used : c.active[gone]? = some range)
    (left : (c.released gone range).active[kept]? = some range') :
    Sound ({ c.released gone range with
        activeEndgameDuplicates :=
          if range'.duplicate then (c.released gone range).activeEndgameDuplicates - 1
          else (c.released gone range).activeEndgameDuplicates
        active := (c.released gone range).active.insert kept
          { range' with duplicate := false, overlapGroup := none } }.setPiece piece
        (.active ⟨kept, none, none, none⟩))
      (update table piece (.held kept range'.sourceIndex)) := by
  have unfinished : c.pieces piece ≠ .durable := sound.not_durable (by simp [raced])
  have counted := sound.counted.released used
  have row : c.active[kept]? = some range' := by
    rwa [released_of_ne members.ne] at left
  have indexed : range'.pieceIndex = piece := by
    rcases members with ⟨-, rfl⟩ | ⟨-, rfl⟩
    · rw [sound.owned.duplicate raced] at row
      rw [← some.inj row]
    · rw [sound.owned.original raced] at row
      rw [← some.inj row]
  refine ⟨?_, ?_, sound.tallied.update unfinished (by simp), ?_⟩
  · have owned := sound.owned.keep raced range'.sourceIndex members
    rw [← indexed] at owned ⊢
    exact owned
  · cases kind : range'.duplicate with
    | false => exact counted.relabel left _ rfl kind.symm
    | true =>
      -- the lease that is gone was the original, so there is room for a new one
      have original : range.duplicate = false := by
        rcases members with ⟨rfl, -⟩ | ⟨-, rfl⟩
        · rw [sound.owned.original raced] at used
          rw [← some.inj used]
        · rw [sound.owned.original raced] at row
          rw [← some.inj row] at kind
          cases kind
      have fewer := leasesOf_erase used false
      rw [original] at fewer
      have limit := sound.counted.originals_le
      have room : leasesOf (c.released gone range).active false < setup.config.split := by
        simp only [BEq.rfl, Bool.toNat_true] at fewer
        change leasesOf (c.active.erase gone) false < _
        omega
      exact counted.promote left kind rfl rfl room
  · refine sound.issued.settle (fun _ none => by cases none) fun lease found => ?_
    by_cases same : kept = lease
    · rw [← same, row]
      rfl
    · have earlier : (c.released gone range).active[lease]?.isSome = true := by
        simpa only [setPiece, OrderedMap.getElem?_insert, if_neg same] using found
      exact released_isSome earlier

/-! ## The calls -/

theorem Sound.activePiece {state : ActivePiece} (used : c.active[lease]? = some range)
    (found : (c.pieces range.pieceIndex).activePiece? = some state) :
    (table range.pieceIndex = .held lease range.sourceIndex ∧ state = ⟨lease, none, none, none⟩) ∨
      ∃ race, table range.pieceIndex = .raced race ∧
        (lease = race.original ∨ lease = race.duplicate) ∧
        state = ⟨race.original, some race.duplicate, some race.group, race.candidate⟩ := by
  rw [sound.owned.pieces] at found
  rcases sound.owned.cases used with ⟨held, -⟩ | ⟨race, raced, -, member⟩
  · left
    rw [held] at found
    exact ⟨held, (some.inj found).symm⟩
  · right
    rw [raced] at found
    exact ⟨race, raced, member.imp And.left And.left, (some.inj found).symm⟩

end

theorem competitor_eq {race : Race setup} {candidate : Option LeaseId} {other : LeaseId}
    (found : competitor ⟨race.original, some race.duplicate, some race.group, candidate⟩ lease =
      some other) : race.Members lease other := by
  simp only [competitor] at found
  split at found
  · rename_i first
    exact .inl ⟨first.symm, (some.inj found).symm⟩
  · simp only [some.injEq, ite_none_right_eq_some] at found
    exact .inr ⟨found.1.symm, found.2.symm⟩

section

variable (sound : Sound c table)
include sound

theorem wp_complete (lease : LeaseId) : wpEnds (complete lease) (Progresses c table) c := by
  simp only [complete, wp_bind, wp_get, wp_orThrow, wp_throwIf, wp_modify, wp_releaseActive]
  refine ⟨fun range used => ⟨fun state found => ⟨fun _ => sound.follows, fun alone => ⟨?_, ?_⟩⟩,
    fun _ => sound.follows⟩, fun _ => sound.follows⟩
  · intro range' used'
    obtain rfl := some.inj (used.symm.trans used')
    rcases sound.activePiece used found with ⟨held, -⟩ | ⟨race, -, -, rfl⟩
    · exact Sound.step held (.complete (by simp)) (sound.release held used).2 le_rfl le_rfl
    · simp at alone
  · intro missing
    exact sound.follows

theorem wp_beginOverlapCommit (lease : LeaseId) :
    wpEnds (beginOverlapCommit lease) (Progresses c table) c := by
  simp only [beginOverlapCommit, wp_bind, wp_get, wp_orThrow, wp_throwIf, wp_modify, wp_pure]
  refine ⟨fun range used => ⟨fun group grouped => ⟨fun state found =>
    ⟨fun _ => sound.follows, fun unfenced => ⟨fun other competes => ?_, fun _ => sound.follows⟩⟩,
    fun _ => sound.follows⟩, fun _ => sound.follows⟩, fun _ => sound.follows⟩
  rcases sound.activePiece used found with ⟨-, rfl⟩ | ⟨race, raced, member, rfl⟩
  · simp at unfenced
  · have member : ∀ l ∈ some lease, l = race.original ∨ l = race.duplicate := by
      rintro l ⟨⟩
      exact member
    refine Sound.step raced (.fence lease member)
      ⟨sound.owned.fence raced lease member, sound.counted, ?_, ?_⟩ le_rfl le_rfl
    · exact sound.tallied.update (sound.not_durable (by simp [raced])) (by simp)
    · refine sound.issued.settle ?_ fun _ found => found
      rintro fenced ⟨⟩
      exact ⟨race, raced, rfl⟩

variable (group : OverlapGroupId)

theorem wp_settleOverlap (candidate : LeaseId) (settlement : HttpOverlapSettlement) :
    wpEnds (settleOverlap group candidate settlement) (Progresses c table) c := by
  simp only [settleOverlap, wp_bind, wp_get, wp_orThrow, wp_throwIf, wp_modify, wp_releaseActive]
  refine ⟨fun range used => ⟨fun state found => ⟨fun _ => sound.follows, fun fenced =>
    ⟨fun other competes => ⟨fun otherRange otherUsed => ⟨fun _ => sound.follows, fun _ => ⟨?_, ?_⟩⟩,
      fun _ => sound.follows⟩, fun _ => sound.follows⟩⟩, fun _ => sound.follows⟩,
    fun _ => sound.follows⟩
  · intro one oneUsed
    rcases sound.activePiece used found with ⟨-, rfl⟩ | ⟨race, raced, -, rfl⟩
    · simp at fenced
    · have members := competitor_eq competes
      refine ⟨fun second secondUsed => ?_, fun missing => ?_⟩
      · have settled := sound.rollback raced members oneUsed secondUsed
        cases settlement with
        | candidateCommitted =>
          exact Sound.step raced (.complete (by simp)) settled.2 le_rfl le_rfl
        | rolledBack => exact Sound.step raced (.rollback race) settled.1 le_rfl le_rfl
      · -- the competitor of a race is active, so its release finds it
        rw [released_of_ne members.ne, otherUsed] at missing
        cases missing
  · intro missing
    exact sound.follows

theorem Sound.pieceOfGroup {group : OverlapGroupId} {state : ActivePiece}
    (found : c.pieceOfGroup group = some (piece, state)) :
    ∃ race, table piece = .raced race ∧
      state = ⟨race.original, some race.duplicate, some race.group, race.candidate⟩ := by
  obtain ⟨other, -, found⟩ := List.exists_of_findSome?_eq_some found
  obtain ⟨active, filtered, same⟩ := map_eq_some_iff.mp found
  obtain ⟨rfl, rfl⟩ := Prod.mk.inj same
  rw [filter_eq_some_iff, sound.owned.pieces] at filtered
  obtain ⟨found, grouped⟩ := filtered
  cases holding : table other with
  | free | durable => simp [holding, Holding.state, PieceState.activePiece?] at found
  | held =>
    rw [holding] at found
    rw [← some.inj found] at grouped
    simp at grouped
  | raced race =>
    rw [holding] at found
    exact ⟨race, rfl, (some.inj found).symm⟩

theorem wp_rollbackOverlap : wpEnds (rollbackOverlap group) (Progresses c table) c := by
  simp only [rollbackOverlap, wp_bind, wp_get, wp_orThrow, wp_modify, wp_releaseActive, wp_pure]
  refine ⟨?_, fun _ => sound.follows⟩
  rintro ⟨piece, state⟩ found
  obtain ⟨race, raced, rfl⟩ := sound.pieceOfGroup found
  have second := sound.owned.duplicate raced
  refine ⟨?_, fun none => by cases none⟩
  rintro duplicate ⟨⟩
  refine ⟨fun one oneUsed => ⟨fun other otherUsed => ?_, fun missing => ?_⟩, fun _ => sound.follows⟩
  · have settled := sound.rollback raced (.inl ⟨rfl, rfl⟩) oneUsed otherUsed
    exact Sound.step raced (.rollback race) settled.1 le_rfl le_rfl
  · rw [released_of_ne race.distinct, second] at missing
    cases missing

theorem Sound.applyFailure (piece : setup.Piece) (source : setup.Source)
    (failure : HttpRangeFailure) : Sound (c.applyFailure piece source failure) table := by
  cases failure <;> exact ⟨sound.owned, sound.counted, sound.tallied, sound.issued⟩

end

theorem Sound.stepFailure {after : HttpRangeCoordinator setup} {before holding : Holding setup}
    (held : table piece = before) (step : before.Step holding)
    (sound : Sound after (update table piece holding)) (leases : c.nextLease ≤ after.nextLease)
    (groups : c.nextOverlapGroup ≤ after.nextOverlapGroup) {other : setup.Piece}
    {source : setup.Source} {failure : HttpRangeFailure} :
    Progresses c table (after.applyFailure other source failure) := by
  refine Sound.step held step (sound.applyFailure other source failure) ?_ ?_
  · cases failure <;> exact leases
  · cases failure <;> exact groups

theorem wp_fail (sound : Sound c table) (lease : LeaseId) (failure : HttpRangeFailure) :
    wpEnds (fail lease failure) (Progresses c table) c := by
  simp only [fail, wp_bind, wp_get, wp_orThrow, wp_throwIf, wp_releaseActive]
  refine ⟨fun range used => ⟨fun state found => ⟨fun _ => sound.follows, fun unfenced =>
    ⟨fun _ => sound.follows, fun owns => ⟨?_, fun _ => sound.follows⟩⟩⟩, fun _ => sound.follows⟩,
    fun _ => sound.follows⟩
  intro range' used'
  obtain rfl := some.inj (used.symm.trans used')
  rcases sound.activePiece used found with ⟨held, rfl⟩ | ⟨race, raced, member, rfl⟩
  · simp only [releasePiece, wp_modify]
    exact Sound.stepFailure held (.release lease _) (sound.release held used).1 le_rfl le_rfl
  · have first := sound.owned.original raced
    have second := sound.owned.duplicate raced
    have distinct := race.distinct
    simp only [releasePiece, wp_bind, wp_get, wp_orThrow, wp_throwIf, wp_modify]
    rcases member with rfl | rfl
    · -- the original failed and the duplicate takes its place
      have left : (c.released race.original range).active[race.duplicate]? =
          some ⟨race.duplicateSource, range.pieceIndex, some race.group, true⟩ := by
        rw [released_of_ne distinct, second]
      simp only [if_true, left, some.injEq, forall_eq', ne_eq, not_true_eq_false,
        false_implies, not_false_eq_true, true_implies, true_and, reduceCtorEq, and_true]
      have kept := sound.keep raced (.inl ⟨rfl, rfl⟩) used left
      exact Sound.stepFailure raced (.keepDuplicate race) kept le_rfl le_rfl
    · -- the duplicate failed and the original is alone again
      have left : (c.released race.duplicate range).active[race.original]? =
          some ⟨race.originalSource, range.pieceIndex, some race.group, false⟩ := by
        rw [released_of_ne distinct.symm, first]
      simp only [if_neg distinct, left, some.injEq, forall_eq', ne_eq, not_true_eq_false,
        false_implies, not_false_eq_true, true_implies, true_and, reduceCtorEq, and_true]
      have kept := sound.keep raced (.inr ⟨rfl, rfl⟩) used left
      exact Sound.stepFailure raced (.keepOriginal race) kept le_rfl le_rfl

end Ariax
