import Ariax.HttpRange.Run
import Ariax.Lib.Except

/-!
# What the coordinator guarantees its caller

The accounts of a coordinator without the table behind them: which leases a
piece has, what the counters say, and, over a whole run, that durable pieces
stay durable, that the work handed out for different pieces does not overlap
and that no identifier is handed out twice.
-/

namespace Ariax

open Holding

variable {setup : HttpRangeSetup}

namespace HttpRangeCoordinator

variable (c : HttpRangeCoordinator setup)

def Owns (piece : setup.Piece) (lease : LeaseId) : Prop :=
  ∃ state, c.pieces piece = .active state ∧
    (state.original = lease ∨ state.duplicate = some lease)

def pieceLeases (piece : setup.Piece) : Set LeaseId :=
  {lease | ∃ range, c.active[lease]? = some range ∧ range.pieceIndex = piece}

def groupLeases (group : OverlapGroupId) : Set LeaseId :=
  {lease | ∃ range, c.active[lease]? = some range ∧ range.overlapGroup = some group}

structure Accounted : Prop where
  owner : ∀ (lease : LeaseId) (range : ActiveRange setup), c.active[lease]? = some range →
    ∀ piece, c.Owns piece lease ↔ piece = range.pieceIndex
  active : ∀ piece state, c.pieces piece = .active state →
    (∃ lease, c.pieceLeases piece = {lease}) ∨
      ∃ original duplicate group, original ≠ duplicate ∧
        c.pieceLeases piece = {original, duplicate} ∧
        c.groupLeases group = {original, duplicate}
  idle : ∀ piece, c.pieces piece = .pending ∨ c.pieces piece = .durable →
    c.pieceLeases piece = ∅
  origins : ∀ origin, c.activeByOrigin[origin]? = counter (leasesOn c.active origin) ∧
    leasesOn c.active origin ≤ setup.config.maxConnectionsPerOrigin
  originals : leasesOf c.active false ≤ setup.config.split
  duplicates : c.activeEndgameDuplicates = leasesOf c.active true ∧
    c.activeEndgameDuplicates ≤ setup.config.endgameMaxDuplicates
  completedLength : c.completedLength =
    ∑ piece ∈ durablePieces c.pieces, (setup.span piece).len

end HttpRangeCoordinator

variable {c : HttpRangeCoordinator setup} {table : HoldingTable setup}

open HttpRangeCoordinator

namespace Sound

variable (sound : Sound c table)
include sound

variable {piece : setup.Piece} {lease : LeaseId}

theorem mem_pieceLeases :
    lease ∈ c.pieceLeases piece ↔ ((table piece).row piece lease).isSome = true := by
  constructor
  · rintro ⟨range, used, rfl⟩
    rw [(sound.owned.active lease range).mp used]
    rfl
  · intro present
    obtain ⟨range, row⟩ := Option.isSome_iff_exists.mp present
    exact ⟨range, sound.owned.getElem?_of_row piece row, pieceIndex_of_row row⟩

theorem owns_iff : c.Owns piece lease ↔ lease ∈ c.pieceLeases piece := by
  rw [sound.mem_pieceLeases, Owns, sound.owned.pieces]
  cases table piece with
  | free | durable => simp [state, row]
  | held =>
    simp only [state, row, PieceState.active.injEq, exists_eq_left']
    grind
  | raced =>
    simp only [state, row, PieceState.active.injEq, exists_eq_left', Option.some.injEq]
    grind

theorem groupLeases_eq {race : Race setup} (raced : table piece = .raced race) :
    c.groupLeases race.group = c.pieceLeases piece := by
  ext lease
  constructor
  · rintro ⟨range, used, grouped⟩
    refine ⟨range, used, ?_⟩
    rcases sound.owned.cases used with ⟨-, alone, -⟩ | ⟨other, otherRaced, group, -⟩
    · rw [grouped] at alone
      cases alone
    · rw [grouped] at group
      exact sound.issued.group_unique _ _ other race otherRaced raced (Option.some.inj group).symm
  · rintro ⟨range, used, rfl⟩
    refine ⟨range, used, ?_⟩
    rcases sound.owned.cases used with ⟨held, -⟩ | ⟨other, otherRaced, group, -⟩
    · rw [raced] at held
      cases held
    · rw [raced] at otherRaced
      rw [group, Holding.raced.inj otherRaced]

theorem accounted : c.Accounted where
  owner := by
    intro lease range used piece
    rw [sound.owns_iff]
    constructor
    · rintro ⟨other, found, rfl⟩
      rw [Option.some.inj (found.symm.trans used)]
    · rintro rfl
      exact ⟨range, used, rfl⟩
  active := by
    intro piece state active
    rw [sound.owned.pieces] at active
    cases holding : table piece with
    | free | durable => simp [holding, Holding.state] at active
    | held lease =>
      refine .inl ⟨lease, Set.ext fun other => ?_⟩
      simp [sound.mem_pieceLeases, holding, row]
    | raced race =>
      have both : c.pieceLeases piece = {race.original, race.duplicate} := by
        ext other
        rw [sound.mem_pieceLeases, holding, Set.mem_insert_iff, Set.mem_singleton_iff]
        simp only [row]
        grind
      exact .inr ⟨race.original, race.duplicate, race.group, race.distinct, both,
        (sound.groupLeases_eq holding).trans both⟩
  idle := by
    intro piece idle
    rw [Set.eq_empty_iff_forall_notMem]
    intro lease member
    obtain ⟨state, active, -⟩ := sound.owns_iff.mpr member
    rw [active] at idle
    simp at idle
  origins := fun origin => ⟨sound.counted.origins origin, sound.counted.origins_le origin⟩
  originals := sound.counted.originals_le
  duplicates := ⟨sound.counted.duplicates, sound.counted.duplicates ▸ sound.counted.duplicates_le⟩
  completedLength := sound.tallied.completedLength

end Sound

theorem newTransfer_eq_ok {config : HttpRangeCoordinatorConfig} {sources : List HttpRangeSource}
    {setup : HttpRangeSetup} {start : HttpRangeCoordinator setup}
    (accepted : newTransfer config sources = .ok ⟨setup, start⟩) :
    setup.config = config ∧ start = initial setup := by
  simp only [newTransfer] at accepted
  split at accepted
  · cases accepted
  split at accepted
  · cases accepted
  split at accepted
  · cases accepted
  split at accepted
  · cases accepted
  split at accepted
  · cases accepted
  · obtain ⟨rfl, same⟩ := Sigma.mk.inj (Except.ok.inj accepted)
    exact ⟨rfl, (eq_of_heq same).symm⟩

/-- After every sequence of calls on an accepted coordinator, whether they return or fail, its
accounts are exact, its durable pieces stayed durable, and the work it handed out is on the
spans of its pieces, which tile the transfer, under identifiers that were used once. -/
theorem httpRange_accounts {config : HttpRangeCoordinatorConfig}
    {sources : List HttpRangeSource} {setup : HttpRangeSetup} {start : HttpRangeCoordinator setup}
    (accepted : newTransfer config sources = .ok ⟨setup, start⟩)
    {history : List (Step (HttpRangeCoordinator setup) HttpRangeRequest
      (Except HttpRangeCoordinatorError HttpRangeReply))}
    {last : HttpRangeCoordinator setup}
    (run : (httpRangeMachine setup).Run start history last) :
    last.Accounted ∧
      (∀ step ∈ history, ∀ piece,
        step.before.pieces piece = .durable → step.after.pieces piece = .durable) ∧
      (∀ byte, (∃! piece, (setup.span piece).Covers byte) ↔ byte < config.totalLength.val) ∧
      (∀ assignment ∈ assignments history, ∃ piece : setup.Piece,
        assignment.piece.get.val = piece.val ∧ assignment.span = setup.span piece) ∧
      (∀ a ∈ assignments history, ∀ b ∈ assignments history, a.piece ≠ b.piece →
        ∀ byte, ¬(a.span.Covers byte ∧ b.span.Covers byte)) ∧
      ((assignments history).map HttpRangeAssignment.lease).Nodup ∧
      ((assignments history).filterMap HttpRangeAssignment.overlapGroup).Nodup := by
  obtain ⟨rfl, rfl⟩ := newTransfer_eq_ok accepted
  have traced := traced_of_run run
  obtain ⟨table, sound⟩ := traced.sound
  refine ⟨sound.accounted, traced.durable, setup.tiles, traced.span, ?_, traced.leases,
    traced.groups⟩
  intro a handedA b handedB distinct
  obtain ⟨first, named, spanned⟩ := traced.span a handedA
  obtain ⟨second, named', spanned'⟩ := traced.span b handedB
  rw [spanned, spanned']
  refine setup.disjoint fun same => distinct ?_
  have equal : a.piece.get = b.piece.get := Fin.ext (by rw [named, named', same])
  exact congrArg PieceId.mk equal

namespace MirrorPair

/-- Three pieces, leased from an ordinary mirror and an endgame-only one. -/
def config : HttpRangeCoordinatorConfig where
  totalLength := 10
  pieceLength := 4
  split := 3
  maxConnectionsPerOrigin := 2
  maxTotalAttempts := 5
  maxAttemptsPerSource := 3
  endgameMaxDuplicates := 1

def sources : List HttpRangeSource :=
  [⟨⟨0⟩, "https://a.example:443", true, false, true⟩,
    ⟨⟨1⟩, "https://b.example:443", false, false, true⟩]

def mirrors : HttpRangeSetup :=
  ⟨config, sources, by decide, by decide, by decide, by decide, by decide⟩

theorem newTransfer_eq : newTransfer config sources = .ok ⟨mirrors, initial mirrors⟩ := by
  rfl

end MirrorPair

/-- Two leases on three pieces, one of them failed and one of them completed. -/
theorem httpRange_accounts_pair : newTransfer MirrorPair.config MirrorPair.sources =
        .ok ⟨MirrorPair.mirrors, initial MirrorPair.mirrors⟩ ∧
      ∀ lease other : LeaseId, ((httpRangeMachine MirrorPair.mirrors).final
        (initial MirrorPair.mirrors) [.poll 0, .poll 0, .fail lease (.retryAt 100),
          .complete other]).Accounted :=
  ⟨MirrorPair.newTransfer_eq, fun _ _ =>
    (httpRange_accounts MirrorPair.newTransfer_eq (Machine.run_trace _ _)).1⟩

end Ariax
