import Ariax.HttpRange.Holding
import Mathlib.Algebra.BigOperators.Fin
import Mathlib.Algebra.Order.BigOperators.Group.Finset

/-!
# The accounts of the coordinator

The pieces of an accepted configuration tile the transfer: every byte lies
in exactly one of them, and their lengths add up to the total length. The
counters of the coordinator against what they count: the leases on each
origin and the endgame duplicates against the rows of the active leases, the
completed pieces and bytes against the durable pieces, and the identifiers
in use against the next ones to be handed out.
-/

namespace Ariax

/-! ## The pieces tile the transfer -/

namespace HttpRangeSetup

variable (setup : HttpRangeSetup)

def span (piece : setup.Piece) : GlobalSpan :=
  let offset := piece.val * setup.config.pieceLength.val
  ⟨offset, min setup.config.pieceLength.val (setup.config.totalLength.val - offset)⟩

theorem pieceLength_pos : 0 < setup.config.pieceLength.val := by
  have accepted := setup.accepted
  simp only [HttpRangeCoordinatorConfig.Rejected, not_or] at accepted
  exact Nat.pos_of_ne_zero fun zero => accepted.2.1 (Fin.ext zero)

variable (piece : setup.Piece)

theorem offset_lt : piece.val * setup.config.pieceLength.val < setup.config.totalLength.val := by
  have positive := setup.pieceLength_pos
  have within : piece.val < (setup.config.totalLength.val + (setup.config.pieceLength.val - 1)) /
    setup.config.pieceLength.val := piece.isLt
  rw [Nat.lt_div_iff_mul_lt positive] at within
  omega

theorem totalLength_le : setup.config.totalLength.val ≤
    setup.pieceCount * setup.config.pieceLength.val := by
  have positive := setup.pieceLength_pos
  have whole := Nat.div_add_mod
    (setup.config.totalLength.val + (setup.config.pieceLength.val - 1))
    setup.config.pieceLength.val
  have rest := Nat.mod_lt (setup.config.totalLength.val + (setup.config.pieceLength.val - 1))
    positive
  rw [pieceCount, HttpRangeCoordinatorConfig.pieceCount, mul_comm]
  omega

theorem pieceLength_eq : setup.pieceLength piece = some (setup.span piece).len := by
  have inside := setup.offset_lt piece
  exact if_pos ⟨by omega, by omega⟩

theorem pieceSpanGlobal_eq : setup.pieceSpanGlobal piece = some (setup.span piece) := by
  have inside := setup.offset_lt piece
  exact if_pos (by omega)

theorem sum_span_range (count : ℕ) : ∑ piece ∈ Finset.range count, min setup.config.pieceLength.val
        (setup.config.totalLength.val - piece * setup.config.pieceLength.val) =
      min (count * setup.config.pieceLength.val) setup.config.totalLength.val := by
  induction count with
  | zero => simp
  | succ count ih =>
    rw [Finset.sum_range_succ, ih, Nat.succ_mul]
    omega

theorem sum_span : ∑ piece, (setup.span piece).len = setup.config.totalLength.val := by
  have whole := setup.sum_span_range setup.pieceCount
  rw [Finset.sum_range, min_eq_right setup.totalLength_le] at whole
  exact whole

theorem sum_span_le (pieces : Finset setup.Piece) :
    ∑ piece ∈ pieces, (setup.span piece).len ≤ setup.config.totalLength.val := by
  rw [← setup.sum_span]
  exact Finset.sum_le_sum_of_subset (Finset.subset_univ pieces)

end HttpRangeSetup

def GlobalSpan.Covers (span : GlobalSpan) (byte : ℕ) : Prop :=
  span.offset ≤ byte ∧ byte < span.offset + span.len

namespace HttpRangeSetup

variable (setup : HttpRangeSetup)

theorem covers_iff (piece : setup.Piece) (byte : ℕ) : (setup.span piece).Covers byte ↔
      byte < setup.config.totalLength.val ∧ byte / setup.config.pieceLength.val = piece.val := by
  have positive := setup.pieceLength_pos
  rw [Nat.div_eq_iff positive]
  simp only [GlobalSpan.Covers, span]
  omega

theorem tiles (byte : ℕ) :
    (∃! piece, (setup.span piece).Covers byte) ↔ byte < setup.config.totalLength.val := by
  simp only [covers_iff]
  constructor
  · rintro ⟨piece, ⟨inside, -⟩, -⟩
    exact inside
  · intro inside
    have count : byte / setup.config.pieceLength.val < setup.pieceCount := by
      rw [Nat.div_lt_iff_lt_mul setup.pieceLength_pos]
      exact lt_of_lt_of_le inside setup.totalLength_le
    refine ⟨⟨_, count⟩, ⟨inside, rfl⟩, ?_⟩
    rintro other ⟨-, same⟩
    exact Fin.ext same.symm

theorem disjoint {a b : setup.Piece} (distinct : a ≠ b) (byte : ℕ) :
    ¬((setup.span a).Covers byte ∧ (setup.span b).Covers byte) := by
  rw [covers_iff, covers_iff]
  rintro ⟨⟨-, first⟩, -, second⟩
  exact distinct (Fin.ext (first.symm.trans second))

end HttpRangeSetup

open OrderedMap Function

variable {setup : HttpRangeSetup}

/-! ## Counting leases -/

section

variable (active : OrderedMap LeaseId (ActiveRange setup))

def leasesOn (origin : String) : ℕ :=
  (valuesInOrder active).countP fun range =>
    (setup.source range.sourceIndex).origin = origin

/-- The active leases that duplicate another one, or those that do not. -/
def leasesOf (duplicate : Bool) : ℕ :=
  (valuesInOrder active).countP fun range => range.duplicate == duplicate

end

/-- A number as a map of counters keeps it: there is no row for zero. -/
def counter (n : ℕ) : Option ℕ := if n = 0 then none else some n

@[simp] theorem counter_getD (n : ℕ) : (counter n).getD 0 = n := by
  unfold counter
  split <;> simp [*]

theorem size_eq_leasesOf (active : OrderedMap LeaseId (ActiveRange setup)) :
    active.size = leasesOf active false + leasesOf active true := by
  rw [← length_valuesInOrder, leasesOf, leasesOf,
    List.length_eq_countP_add_countP fun range : ActiveRange setup => range.duplicate == false]
  congr 2
  funext range
  cases range.duplicate <;> rfl

section Changes

variable {active : OrderedMap LeaseId (ActiveRange setup)} {lease : LeaseId}
  {range : ActiveRange setup}

theorem leasesOn_insert (unused : active[lease]? = none) (range : ActiveRange setup)
    (origin : String) :
    leasesOn (active.insert lease range) origin =
      leasesOn active origin + (decide ((setup.source range.sourceIndex).origin = origin)).toNat :=
  countP_insert_new _ unused

theorem leasesOn_erase (used : active[lease]? = some range) (origin : String) :
    leasesOn (active.erase lease) origin +
      (decide ((setup.source range.sourceIndex).origin = origin)).toNat =
        leasesOn active origin :=
  countP_erase _ used

theorem leasesOn_relabel (used : active[lease]? = some range) {range' : ActiveRange setup}
    (same : range'.sourceIndex = range.sourceIndex) (origin : String) :
    leasesOn (active.insert lease range') origin = leasesOn active origin := by
  have change : leasesOn (active.insert lease range') origin + _ = leasesOn active origin + _ :=
    countP_insert_used _ used
  rw [same] at change
  exact Nat.add_right_cancel change

theorem leasesOf_insert (unused : active[lease]? = none) (range : ActiveRange setup)
    (duplicate : Bool) :
    leasesOf (active.insert lease range) duplicate =
      leasesOf active duplicate + (range.duplicate == duplicate).toNat :=
  countP_insert_new _ unused

theorem leasesOf_erase (used : active[lease]? = some range) (duplicate : Bool) :
    leasesOf (active.erase lease) duplicate + (range.duplicate == duplicate).toNat =
      leasesOf active duplicate :=
  countP_erase _ used

theorem leasesOf_relabel (used : active[lease]? = some range) (range' : ActiveRange setup)
    (duplicate : Bool) :
    leasesOf (active.insert lease range') duplicate + (range.duplicate == duplicate).toNat =
      leasesOf active duplicate + (range'.duplicate == duplicate).toNat :=
  countP_insert_used _ used

end Changes

/-- The counters of active leases say how many there are, and no limit is exceeded. -/
structure Counted (active : OrderedMap LeaseId (ActiveRange setup))
    (activeByOrigin : OrderedMap String ℕ) (activeEndgameDuplicates : ℕ) : Prop where
  origins : ∀ origin, activeByOrigin[origin]? = counter (leasesOn active origin)
  duplicates : activeEndgameDuplicates = leasesOf active true
  origins_le : ∀ origin, leasesOn active origin ≤ setup.config.maxConnectionsPerOrigin
  originals_le : leasesOf active false ≤ setup.config.split
  duplicates_le : leasesOf active true ≤ setup.config.endgameMaxDuplicates

namespace Counted

variable {active : OrderedMap LeaseId (ActiveRange setup)} {byOrigin : OrderedMap String ℕ}
  {duplicates : ℕ} {lease : LeaseId} {range : ActiveRange setup}
  (counted : Counted active byOrigin duplicates)
include counted

theorem insert (unused : active[lease]? = none) (range : ActiveRange setup) {origin : String}
    (named : (setup.source range.sourceIndex).origin = origin)
    (below : byOrigin[origin]?.getD 0 < setup.config.maxConnectionsPerOrigin)
    (room : if range.duplicate then duplicates < setup.config.endgameMaxDuplicates else active.size
      < setup.config.split) :
    Counted (active.insert lease range) (byOrigin.insert origin (byOrigin[origin]?.getD 0 + 1))
      (duplicates + range.duplicate.toNat) := by
  have size := size_eq_leasesOf active
  have total := counted.duplicates
  have kept := counted.originals_le
  have raced := counted.duplicates_le
  rw [counted.origins, counter_getD] at below ⊢
  refine ⟨fun other => ?_, ?_, fun other => ?_, ?_, ?_⟩
  · rw [getElem?_insert, leasesOn_insert unused, counted.origins, named]
    by_cases same : origin = other
    · simp [same, counter]
    · simp [same]
  · rw [leasesOf_insert unused, counted.duplicates]
    simp
  · rw [leasesOn_insert unused, named]
    by_cases same : origin = other
    · subst same
      simp only [decide_true, Bool.toNat_true]
      exact below
    · simpa [same] using counted.origins_le other
  · rw [leasesOf_insert unused]
    cases kind : range.duplicate <;> simp [kind] at room ⊢ <;> omega
  · rw [leasesOf_insert unused]
    cases kind : range.duplicate <;> simp [kind] at room ⊢ <;> omega

variable (used : active[lease]? = some range)
include used

theorem erase {origin : String} (named : (setup.source range.sourceIndex).origin = origin) :
    Counted (active.erase lease)
      (if byOrigin[origin]?.getD 0 - 1 = 0 then byOrigin.erase origin
        else byOrigin.insert origin (byOrigin[origin]?.getD 0 - 1))
      (if range.duplicate then duplicates - 1 else duplicates) := by
  have fewer (origin : String) := leasesOn_erase used origin
  have kinds (kind : Bool) := leasesOf_erase used kind
  have raced := kinds true
  have kept := kinds false
  have total := counted.duplicates
  have rawLimit := counted.originals_le
  have racedLimit := counted.duplicates_le
  rw [counted.origins, counter_getD]
  refine ⟨fun other => ?_, ?_, fun other => ?_, by omega, by omega⟩
  · have here := fewer other
    rw [named] at here
    by_cases same : origin = other
    · subst same
      simp only [decide_true, Bool.toNat_true] at here
      have less : leasesOn active origin - 1 = leasesOn (active.erase lease) origin := by omega
      rw [less]
      split
      · rename_i none
        simp [none, counter]
      · rename_i some
        simp [some, counter]
    · simp only [same, decide_false, Bool.toNat_false, Nat.add_zero] at here
      rw [here, ← counted.origins]
      split
      · rw [getElem?_erase, if_neg same]
      · rw [getElem?_insert, if_neg same]
  · cases kind : range.duplicate <;> simp [kind] at raced ⊢ <;> omega
  · exact le_trans (Nat.le.intro (fewer other)) (counted.origins_le other)

theorem relabel (range' : ActiveRange setup) (source : range'.sourceIndex = range.sourceIndex)
    (kind : range'.duplicate = range.duplicate) :
    Counted (active.insert lease range') byOrigin duplicates := by
  have same (duplicate : Bool) :
      leasesOf (active.insert lease range') duplicate = leasesOf active duplicate := by
    have change := leasesOf_relabel used range' duplicate
    rw [kind] at change
    exact Nat.add_right_cancel change
  refine ⟨fun origin => ?_, ?_, fun origin => ?_, ?_, ?_⟩
  · rw [leasesOn_relabel used source, counted.origins]
  · rw [same, counted.duplicates]
  · rw [leasesOn_relabel used source]
    exact counted.origins_le origin
  · rw [same]
    exact counted.originals_le
  · rw [same]
    exact counted.duplicates_le

theorem promote (kind : range.duplicate = true) {range' : ActiveRange setup}
    (source : range'.sourceIndex = range.sourceIndex) (original : range'.duplicate = false)
    (room : leasesOf active false < setup.config.split) :
    Counted (active.insert lease range') byOrigin (duplicates - 1) := by
  have raced := leasesOf_relabel used range' true
  have kept := leasesOf_relabel used range' false
  simp only [kind, original, BEq.rfl, Bool.toNat_true, Bool.true_beq,
    Bool.not_true, Bool.toNat_false, Bool.false_beq, Nat.add_zero] at raced kept
  have total := counted.duplicates
  have limit := counted.duplicates_le
  refine ⟨fun origin => ?_, by omega, fun origin => ?_, by omega, by omega⟩
  · rw [leasesOn_relabel used source, counted.origins]
  · rw [leasesOn_relabel used source]
    exact counted.origins_le origin

end Counted

/-! ## Counting durable pieces -/

def durablePieces (pieces : setup.Piece → PieceState) : Finset setup.Piece :=
  Finset.univ.filter fun piece => pieces piece = .durable

@[simp] theorem mem_durablePieces {pieces : setup.Piece → PieceState} {piece : setup.Piece} :
    piece ∈ durablePieces pieces ↔ pieces piece = .durable := by
  simp [durablePieces]

/-- The counters of completed work say which pieces are durable. -/
structure Tallied (pieces : setup.Piece → PieceState) (completedPieces completedLength : ℕ) :
    Prop where
  completedPieces : completedPieces = (durablePieces pieces).card
  completedLength : completedLength = ∑ piece ∈ durablePieces pieces, (setup.span piece).len

namespace Tallied

variable {pieces : setup.Piece → PieceState} {completedPieces completedLength : ℕ}
  {piece : setup.Piece} (tallied : Tallied pieces completedPieces completedLength)
include tallied

/-- A piece that is not durable changes its state but does not become durable. -/
theorem update (before : pieces piece ≠ .durable) {state : PieceState} (after : state ≠ .durable) :
    Tallied (update pieces piece state) completedPieces completedLength := by
  have same : durablePieces (Function.update pieces piece state) = durablePieces pieces := by
    ext other
    rw [mem_durablePieces, mem_durablePieces]
    by_cases h : other = piece
    · subst h
      simp [before, after]
    · rw [update_of_ne h]
  constructor
  · rw [same, tallied.completedPieces]
  · rw [same, tallied.completedLength]

theorem complete (before : pieces piece ≠ .durable) :
    Tallied (Function.update pieces piece .durable) (completedPieces + 1)
      (saturatingAdd (2 ^ 64) completedLength (setup.span piece).len) := by
  have grown : durablePieces (Function.update pieces piece .durable) =
      insert piece (durablePieces pieces) := by
    ext other
    by_cases h : other = piece
    · subst h
      simp
    · simp [h]
  have absent : piece ∉ durablePieces pieces := by simpa using before
  have sum := Finset.sum_insert (f := fun piece => (setup.span piece).len) absent
  have bound := setup.sum_span_le (insert piece (durablePieces pieces))
  constructor
  · rw [grown, Finset.card_insert_of_notMem absent, tallied.completedPieces]
  · rw [grown, tallied.completedLength, saturatingAdd, sum]
    omega

theorem completedPieces_eq_iff :
    completedPieces = setup.pieceCount ↔ ∀ piece, pieces piece = .durable := by
  rw [tallied.completedPieces]
  constructor
  · intro all piece
    have whole : durablePieces pieces = Finset.univ :=
      Finset.card_eq_iff_eq_univ _ |>.mp (all.trans (Fintype.card_fin _).symm)
    exact mem_durablePieces.mp (whole ▸ Finset.mem_univ piece)
  · intro all
    have whole : durablePieces pieces = Finset.univ :=
      Finset.eq_univ_iff_forall.mpr fun piece => mem_durablePieces.mpr (all piece)
    rw [whole, Finset.card_univ, Fintype.card_fin]

end Tallied

/-! ## Identifiers in use -/

/-- The identifiers in use were handed out before, and a group has one piece. -/
structure Issued (active : OrderedMap LeaseId (ActiveRange setup)) (table : HoldingTable setup)
    (nextLease nextOverlapGroup : U64) : Prop where
  nextLease_ne : nextLease ≠ 0
  lease_lt : ∀ (lease : LeaseId) (range : ActiveRange setup),
    active[lease]? = some range → lease.get < nextLease
  group_lt : ∀ piece race, table piece = .raced race → race.group.get < nextOverlapGroup
  group_unique : ∀ a b first second, table a = .raced first → table b = .raced second →
    first.group = second.group → a = b

namespace Issued

variable {active rows : OrderedMap LeaseId (ActiveRange setup)} {table : HoldingTable setup}
  {nextLease nextOverlapGroup : U64} {piece : setup.Piece}
  (issued : Issued active table nextLease nextOverlapGroup)
include issued

theorem unused {lease : LeaseId} (next : nextLease = lease.get) : active[lease]? = none := by
  cases found : active[lease]? with
  | none => rfl
  | some range =>
    have old := issued.lease_lt lease range found
    rw [next] at old
    exact absurd old (lt_irrefl _)

theorem advance {lease group : U64} (leases : nextLease ≤ lease)
    (groups : nextOverlapGroup ≤ group) :
    Issued active table lease group := by
  refine ⟨?_, ?_, ?_, issued.group_unique⟩
  · exact fun zero => issued.nextLease_ne (Fin.le_zero_iff.mp (zero ▸ leases))
  · exact fun lease range found => lt_of_lt_of_le (issued.lease_lt lease range found) leases
  · exact fun piece race raced => lt_of_lt_of_le (issued.group_lt piece race raced) groups

theorem race (race : Race setup) (group : nextOverlapGroup = race.group.get) {next : U64}
    (advanced : nextOverlapGroup < next)
    (rows_lt : ∀ (lease : LeaseId) (range : ActiveRange setup), rows[lease]? = some range →
      lease.get < nextLease) :
    Issued rows (update table piece (.raced race)) nextLease next := by
  have old (other : setup.Piece) (distinct : other ≠ piece) (found : Race setup)
      (raced : update table piece (.raced race) other = .raced found) :
      found.group.get < race.group.get := by
    rw [update_of_ne distinct] at raced
    rw [← group]
    exact issued.group_lt other found raced
  have mine (found : Race setup)
      (raced : update table piece (.raced race) piece = .raced found) :
      race = found := by
    rw [update_self] at raced
    exact Holding.raced.inj raced
  refine ⟨issued.nextLease_ne, rows_lt, ?_, ?_⟩
  · intro other found raced
    by_cases same : other = piece
    · subst same
      rw [← mine found raced, ← group]
      exact advanced
    · exact lt_trans (old other same found raced) (group ▸ advanced)
  · intro a b first second firstRaced secondRaced same
    by_cases ha : a = piece
    · subst ha
      by_contra distinct
      have less := old b (Ne.symm distinct) second secondRaced
      rw [← same, ← mine first firstRaced] at less
      exact lt_irrefl _ less
    · by_cases hb : b = piece
      · subst hb
        have less := old a ha first firstRaced
        rw [same, ← mine second secondRaced] at less
        exact absurd less (lt_irrefl _)
      · rw [update_of_ne ha] at firstRaced
        rw [update_of_ne hb] at secondRaced
        exact issued.group_unique a b first second firstRaced secondRaced same

variable {holding : Holding setup} (groups : ∀ race, holding = .raced race → ∃ old,
  table piece = .raced old ∧ race.group = old.group)
include groups

theorem replace
    (rows_lt : ∀ (lease : LeaseId) (range : ActiveRange setup), rows[lease]? = some range →
      lease.get < nextLease) :
    Issued rows (update table piece holding) nextLease nextOverlapGroup := by
  have known (other : setup.Piece) (race : Race setup)
      (raced : update table piece holding other = .raced race) :
      ∃ old, table other = .raced old ∧ race.group = old.group := by
    by_cases same : other = piece
    · subst same
      rw [update_self] at raced
      exact groups race raced
    · rw [update_of_ne same] at raced
      exact ⟨race, raced, rfl⟩
  refine ⟨issued.nextLease_ne, rows_lt, ?_, ?_⟩
  · intro other race raced
    obtain ⟨old, was, same⟩ := known other race raced
    rw [same]
    exact issued.group_lt other old was
  · intro a b first second firstRaced secondRaced same
    obtain ⟨old, was, group⟩ := known a first firstRaced
    obtain ⟨old', was', group'⟩ := known b second secondRaced
    exact issued.group_unique a b old old' was was' (by rw [← group, ← group', same])

theorem settle
    (own : ∀ lease : LeaseId, rows[lease]?.isSome = true → active[lease]?.isSome = true) :
    Issued rows (update table piece holding) nextLease nextOverlapGroup := by
  refine issued.replace groups ?_
  intro lease range found
  obtain ⟨old, was⟩ := Option.isSome_iff_exists.mp (own lease (by rw [found]; rfl))
  exact issued.lease_lt lease old was

end Issued

end Ariax
