import Ariax.HttpRange.Accounting

/-!
# Every call keeps the accounts

A coordinator is sound for a table of holdings when its two views of the
table agree, its counters count them and its identifiers are fresh. Each
call takes a sound coordinator to a sound one for a table that the life of
the pieces leads to, whether it returns or fails.
-/

namespace Ariax

open HttpRangeCoordinator

variable {setup : HttpRangeSetup} {c : HttpRangeCoordinator setup} {table : HoldingTable setup}

/-- The state of a coordinator whose pieces are held as a table says. -/
structure Sound (c : HttpRangeCoordinator setup) (table : HoldingTable setup) : Prop where
  owned : Owned c.pieces c.active table
  counted : Counted c.active c.activeByOrigin c.activeEndgameDuplicates
  tallied : Tallied c.pieces c.completedPieces c.completedLength
  issued : Issued c.active table c.nextLease c.nextOverlapGroup

/-- What a call may make of a coordinator: the holdings take steps of their lives and the
identifiers move on. -/
def Progresses (c : HttpRangeCoordinator setup) (table : HoldingTable setup)
    (after : HttpRangeCoordinator setup) : Prop :=
  ∃ next, Relation.ReflTransGen HoldingTable.Step table next ∧ Sound after next ∧
    c.nextLease ≤ after.nextLease ∧ c.nextOverlapGroup ≤ after.nextOverlapGroup

/-- An assignment with identifiers that were not handed out before, on the span of its piece. -/
structure Hands (c after : HttpRangeCoordinator setup) (assignment : HttpRangeAssignment) :
    Prop where
  lease : c.nextLease ≤ assignment.lease.get ∧ assignment.lease.get < after.nextLease
  group : ∀ group ∈ assignment.overlapGroup,
    c.nextOverlapGroup ≤ group.get ∧ group.get < after.nextOverlapGroup
  span : ∃ piece : setup.Piece,
    assignment.piece.get.val = piece.val ∧ assignment.span = setup.span piece

/-- What a call may make of a coordinator and what it may hand out. -/
def Answers (c : HttpRangeCoordinator setup) (table : HoldingTable setup)
    (reply : HttpRangeReply) (after : HttpRangeCoordinator setup) : Prop :=
  Progresses c table after ∧ ∀ assignment ∈ reply.assignment?, Hands c after assignment

namespace Sound

theorem initial (setup : HttpRangeSetup) :
    Sound (HttpRangeCoordinator.initial setup) fun _ => .free where
  owned := by
    refine ⟨fun piece => rfl, fun lease range => ?_⟩
    simp [HttpRangeCoordinator.initial, Holding.row]
  counted := by
    refine ⟨fun origin => ?_, ?_, fun origin => ?_, ?_, ?_⟩ <;>
      simp [HttpRangeCoordinator.initial, leasesOn, leasesOf, counter]
  tallied := by
    constructor <;> simp [HttpRangeCoordinator.initial, durablePieces]
  issued := by
    constructor <;> simp [HttpRangeCoordinator.initial]

theorem follows (sound : Sound c table) : Progresses c table c :=
  ⟨table, .refl, sound, le_rfl, le_rfl⟩

theorem step {after : HttpRangeCoordinator setup} {piece : setup.Piece}
    {before holding : Holding setup} (held : table piece = before) (step : before.Step holding)
    (sound : Sound after (Function.update table piece holding))
    (leases : c.nextLease ≤ after.nextLease)
    (groups : c.nextOverlapGroup ≤ after.nextOverlapGroup) : Progresses c table after :=
  ⟨_, .single ⟨piece, holding, held ▸ step, rfl⟩, sound, leases, groups⟩

theorem not_durable (sound : Sound c table) {piece : setup.Piece}
    (h : table piece ≠ .durable) : c.pieces piece ≠ .durable := by
  rw [sound.owned.pieces]
  exact mt Holding.state_eq_durable.mp h

theorem free_of_pending (sound : Sound c table) {piece : setup.Piece}
    (h : c.pieces piece = .pending) : table piece = .free := by
  rw [sound.owned.pieces] at h
  exact Holding.state_eq_pending.mp h

end Sound

variable {source : setup.Source} {piece : setup.Piece}

variable {nowMs : U64}

theorem lt_of_checkedSucc {n : ℕ} {value next : Fin n} (h : checkedSucc value = some next) :
    value < next := by
  rw [Fin.lt_def, checkedSucc_eq_some.mp h]
  omega

theorem HttpRangeCoordinator.sourceAvailable_iff : c.sourceAvailable piece source nowMs = true ↔
      c.disabled source = false ∧ (c.sourcePieceRetryAt piece source).getD 0 ≤ nowMs ∧
        (c.sourcePieceAttempts piece source).getD 0 < setup.config.maxAttemptsPerSource.val ∧
        c.concurrent source < setup.config.maxConnectionsPerOrigin := by
  simp [sourceAvailable, and_assoc]

theorem HttpRangeCoordinator.pieceId_val (piece : setup.Piece) :
    (pieceId piece).get.val = piece.val := by
  have bounded : ¬(setup.pieceCount = 0 ∨ maxHttpRangePieces < setup.pieceCount) := setup.bounded
  have limit : maxHttpRangePieces < 2 ^ 64 := by decide
  exact Nat.mod_eq_of_lt (by omega)

open HttpRangeCoordinator

theorem wp_issueNormalAssignment (sound : Sound c table)
    (attemptable : c.attemptable piece = true) (room : c.active.size < setup.config.split)
    (available : c.sourceAvailable piece source nowMs = true) :
    wp (issueNormalAssignment piece source)
      (fun poll after => Answers c table (.polled poll) after ∧ c.nextLease.val + 1 < 2 ^ 64 ∧
        ∃ assignment, poll = .assignment assignment)
      (fun _ after => Progresses c table after ∧ ¬c.nextLease.val + 1 < 2 ^ 64) c := by
  obtain ⟨pending, -⟩ : c.pieces piece = .pending ∧
      c.pieceAttempts piece < setup.config.maxTotalAttempts.val := by
    simpa [HttpRangeCoordinator.attemptable] using attemptable
  obtain ⟨-, -, -, below⟩ := sourceAvailable_iff.mp available
  have free := sound.free_of_pending pending
  simp only [issueNormalAssignment, nextLeaseId, wp_bind, wp_get, wp_orThrow, wp_set, wp_pure,
    wp_modify, setup.pieceSpanGlobal_eq]
  refine ⟨fun lease named => ⟨fun next succ => ⟨?_, fun none => by cases none⟩,
    fun last => ⟨sound.follows, not_lt.mpr (checkedSucc_eq_none.mp last)⟩⟩,
    fun zero => absurd (NonzeroId.new_eq_none.mp zero) sound.issued.nextLease_ne⟩
  rintro span ⟨⟩
  have named := NonzeroId.new_eq_some.mp named
  have advanced := lt_of_checkedSucc succ
  have unused := sound.issued.unused named
  refine ⟨⟨Sound.step free (.lease lease source) ?_ advanced.le le_rfl, ?_⟩,
    checkedSucc_eq_some.mp succ ▸ next.isLt, _, rfl⟩
  swap
  · rintro _ ⟨⟩
    exact ⟨⟨named.le, named ▸ advanced⟩, fun group none => (by cases none), piece,
      pieceId_val piece, rfl⟩
  refine ⟨sound.owned.lease source free unused, ?_, ?_, ?_⟩
  · exact sound.counted.insert unused ⟨source, piece, none, false⟩ rfl below room
  · exact sound.tallied.update (by simp [pending]) (by simp)
  · refine (sound.issued.advance advanced.le le_rfl).replace (fun race raced => by cases raced) ?_
    intro other range found
    exact OrderedMap.insert_rec found (named ▸ advanced) fun found =>
      lt_trans (sound.issued.lease_lt other range found) advanced

theorem wp_issueEndgameAssignment (sound : Sound c table) {original : LeaseId}
    {active : ActiveRange setup} (found : c.active[original]? = some active)
    (alone : active.overlapGroup = none) (indexed : active.pieceIndex = piece)
    (room : c.activeEndgameDuplicates < setup.config.endgameMaxDuplicates)
    (available : c.sourceAvailable piece source nowMs = true) :
    wp (issueEndgameAssignment original piece source) (fun poll => Answers c table (.polled poll))
      (fun _ => Progresses c table) c := by
  subst indexed
  obtain ⟨-, -, -, below⟩ := sourceAvailable_iff.mp available
  have holding : table active.pieceIndex = .held original active.sourceIndex := by
    rcases sound.owned.cases found with ⟨held, -⟩ | ⟨race, -, raced, -⟩
    · exact held
    · rw [alone] at raced
      cases raced
  have single : c.active[original]? = some ⟨active.sourceIndex, active.pieceIndex, none, false⟩ :=
    sound.owned.holder holding
  have state : c.pieces active.pieceIndex = .active ⟨original, none, none, none⟩ := by
    rw [sound.owned.pieces, holding]
    rfl
  simp only [issueEndgameAssignment, nextLeaseId, wp_bind, wp_get, wp_orThrow, wp_set, wp_pure,
    wp_modify, wp_throwIf, setup.pieceSpanGlobal_eq]
  refine ⟨fun group numbered => ⟨fun nextGroup grown => ?_, fun _ => sound.follows⟩,
    fun _ => sound.follows⟩
  have grown := lt_of_checkedSucc grown
  have moved : Sound { c with nextOverlapGroup := nextGroup } table :=
    { sound with issued := sound.issued.advance le_rfl grown.le }
  have failed : Progresses c table { c with nextOverlapGroup := nextGroup } :=
    ⟨table, .refl, moved, le_rfl, grown.le⟩
  refine ⟨fun lease named => ⟨fun next advanced => ⟨?_, fun none => by cases none⟩,
    fun _ => failed⟩, fun _ => failed⟩
  have named := NonzeroId.new_eq_some.mp named
  have numbered := NonzeroId.new_eq_some.mp numbered
  have advanced := lt_of_checkedSucc advanced
  have unused := sound.issued.unused named
  have distinct : original ≠ lease := by
    rintro rfl
    rw [unused] at found
    cases found
  simp only [occupyOrigin, recordAttempt, setPiece, state, single, PieceState.activePiece?,
    Option.some.injEq, forall_eq', reduceCtorEq, false_implies, and_true, ne_eq, not_true_eq_false,
    Option.isSome_none, Bool.false_eq_true, or_self, not_false_eq_true, true_implies, true_and]
  let race : Race setup :=
    ⟨original, lease, active.sourceIndex, source, group, none, distinct, fun _ none ↦ by cases none⟩
  refine ⟨Sound.step holding (.race race rfl) ?_ advanced.le grown.le, ?_⟩
  · refine ⟨sound.owned.race race holding unused, ?_, ?_, ?_⟩
    · have relabelled := sound.counted.relabel single
        ⟨active.sourceIndex, active.pieceIndex, some group, false⟩ rfl rfl
      have fresh : (c.active.insert original
          ⟨active.sourceIndex, active.pieceIndex, some group, false⟩)[lease]? = none := by
        rw [OrderedMap.getElem?_insert, if_neg distinct]
        exact unused
      exact relabelled.insert fresh ⟨source, active.pieceIndex, some group, true⟩ rfl below room
    · exact sound.tallied.update (by simp [state]) (by simp)
    · refine (sound.issued.advance advanced.le le_rfl).race race numbered grown ?_
      intro other range row
      refine OrderedMap.insert_rec row (named ▸ advanced) fun row => ?_
      exact lt_trans (OrderedMap.insert_rec row (sound.issued.lease_lt _ _ found)
        (sound.issued.lease_lt other range)) advanced
  · rintro _ ⟨⟩
    refine ⟨⟨named.le, named ▸ advanced⟩, ?_, active.pieceIndex, pieceId_val active.pieceIndex, rfl⟩
    rintro other ⟨⟩
    exact ⟨numbered.le, numbered ▸ grown⟩

end Ariax
