import Ariax.HttpRange.Calls

/-!
# Who holds a piece

The coordinator keeps the leases of a piece twice: in the state of the piece
and in the rows of the active leases. Both are views of one table that says
of every piece whether it is free, held by one lease, raced by the two
leases of an overlap group, or durable. The steps of such a table are the
life of a piece, in which `durable` is the last state.
-/

namespace Ariax

open Function Option OrderedMap

variable {setup : HttpRangeSetup}

structure Race (setup : HttpRangeSetup) where
  original : LeaseId
  duplicate : LeaseId
  originalSource : setup.Source
  duplicateSource : setup.Source
  group : OverlapGroupId
  candidate : Option LeaseId
  distinct : original ≠ duplicate
  candidate_mem : ∀ lease ∈ candidate, lease = original ∨ lease = duplicate

/-- The two leases of a race, in one order or the other. -/
def Race.Members (race : Race setup) (first second : LeaseId) : Prop :=
  (first = race.original ∧ second = race.duplicate) ∨
    (first = race.duplicate ∧ second = race.original)

theorem Race.Members.ne {race : Race setup} {first second : LeaseId}
    (members : race.Members first second) : first ≠ second := by
  rcases members with ⟨rfl, rfl⟩ | ⟨rfl, rfl⟩
  · exact race.distinct
  · exact race.distinct.symm

inductive Holding (setup : HttpRangeSetup) where
  | free
  | held (lease : LeaseId) (source : setup.Source)
  | raced (race : Race setup)
  | durable

namespace Holding

def state : Holding setup → PieceState
  | .free => .pending
  | .held lease _ => .active ⟨lease, none, none, none⟩
  | .raced race => .active ⟨race.original, some race.duplicate, some race.group, race.candidate⟩
  | .durable => .durable

def row (piece : setup.Piece) (holding : Holding setup) (lease : LeaseId) :
    Option (ActiveRange setup) :=
  match holding with
  | .free | .durable => none
  | .held holder source => if lease = holder then some ⟨source, piece, none, false⟩ else none
  | .raced race =>
    if lease = race.original then some ⟨race.originalSource, piece, some race.group, false⟩
    else if lease = race.duplicate then
      some ⟨race.duplicateSource, piece, some race.group, true⟩
    else none

variable {holding : Holding setup}

theorem pieceIndex_of_row {piece : setup.Piece} {lease : LeaseId} {range : ActiveRange setup}
    (h : holding.row piece lease = some range) : range.pieceIndex = piece := by
  cases holding with
  | free | durable => cases h
  | held =>
    simp only [row, ite_none_right_eq_some, some.injEq] at h
    rw [← h.2]
  | raced =>
    simp only [row] at h
    split at h
    · rw [← some.inj h]
    · simp only [ite_none_right_eq_some, some.injEq] at h
      rw [← h.2]

theorem state_eq_pending : holding.state = .pending ↔ holding = .free := by
  cases holding <;> simp [state]

theorem state_eq_durable : holding.state = .durable ↔ holding = .durable := by
  cases holding <;> simp [state]

inductive Step : Holding setup → Holding setup → Prop
  | lease (lease : LeaseId) (source : setup.Source) : Step .free (.held lease source)
  | race (race : Race setup) (fresh : race.candidate = none) :
      Step (.held race.original race.originalSource) (.raced race)
  | fence {race : Race setup} (lease : LeaseId)
      (member : ∀ l ∈ some lease, l = race.original ∨ l = race.duplicate) :
      Step (.raced race)
        (.raced { race with candidate := some lease, candidate_mem := member })
  | keepOriginal (race : Race setup) :
      Step (.raced race) (.held race.original race.originalSource)
  | keepDuplicate (race : Race setup) :
      Step (.raced race) (.held race.duplicate race.duplicateSource)
  | release (lease : LeaseId) (source : setup.Source) : Step (.held lease source) .free
  | rollback (race : Race setup) : Step (.raced race) .free
  | complete {holding : Holding setup} (unfinished : holding ≠ .durable) : Step holding .durable

theorem Step.ne_durable {next : Holding setup} (step : Step holding next) : holding ≠ .durable := by
  cases step with
  | complete h => exact h
  | _ => simp

end Holding

abbrev HoldingTable (setup : HttpRangeSetup) := setup.Piece → Holding setup

namespace HoldingTable

def Step (table next : HoldingTable setup) : Prop :=
  ∃ piece holding, (table piece).Step holding ∧ next = update table piece holding

theorem durable_of_steps {table next : HoldingTable setup}
    (steps : Relation.ReflTransGen Step table next) {piece : setup.Piece}
    (durable : table piece = .durable) : next piece = .durable := by
  induction steps with
  | refl => exact durable
  | tail _ last ih =>
    obtain ⟨moved, holding, step, rfl⟩ := last
    by_cases same : piece = moved
    · subst same
      exact absurd ih step.ne_durable
    · rw [update_of_ne same, ih]

end HoldingTable

/-! ## The two views of the table -/

/-- The states of the pieces and the rows of the active leases are views of one table. -/
structure Owned (pieces : setup.Piece → PieceState)
    (active : OrderedMap LeaseId (ActiveRange setup)) (table : HoldingTable setup) : Prop where
  pieces : ∀ piece, pieces piece = (table piece).state
  active : ∀ lease range,
    active[lease]? = some range ↔ (table range.pieceIndex).row range.pieceIndex lease = some range

namespace Owned

variable {pieces : setup.Piece → PieceState} {active : OrderedMap LeaseId (ActiveRange setup)}
  {table : HoldingTable setup}
  {rows : OrderedMap LeaseId (ActiveRange setup)} {range : ActiveRange setup}
  {source : setup.Source}

theorem getElem?_of_row (owned : Owned pieces active table) (piece : setup.Piece) {lease : LeaseId}
    (h : (table piece).row piece lease = some range) : active[lease]? = some range := by
  have same := Holding.pieceIndex_of_row h
  subst same
  exact (owned.active lease range).mpr h

theorem cases (owned : Owned pieces active table) {lease : LeaseId}
    (h : active[lease]? = some range) :
    (table range.pieceIndex = .held lease range.sourceIndex ∧ range.overlapGroup = none ∧
        range.duplicate = false) ∨
      ∃ race, table range.pieceIndex = .raced race ∧ range.overlapGroup = some race.group ∧
        ((lease = race.original ∧ range.sourceIndex = race.originalSource ∧
            range.duplicate = false) ∨
          (lease = race.duplicate ∧ range.sourceIndex = race.duplicateSource ∧
            range.duplicate = true)) := by
  have row := (owned.active lease range).mp h
  cases holding : table range.pieceIndex with
  | free | durable => simp [holding, Holding.row] at row
  | held =>
    simp only [holding, Holding.row, ite_none_right_eq_some, some.injEq] at row
    obtain ⟨rfl, row⟩ := row
    left
    rw [← row]
    exact ⟨rfl, rfl, rfl⟩
  | raced race =>
    right
    refine ⟨race, rfl, ?_⟩
    simp only [holding, Holding.row] at row
    split at row
    · rename_i same
      have row := some.inj row
      rw [← row]
      exact ⟨rfl, .inl ⟨same, rfl, rfl⟩⟩
    · simp only [ite_none_right_eq_some, some.injEq] at row
      obtain ⟨same, row⟩ := row
      rw [← row]
      exact ⟨rfl, .inr ⟨same, rfl, rfl⟩⟩

variable {piece : setup.Piece} (owned : Owned pieces active table)
include owned

theorem original {race : Race setup} (h : table piece = .raced race) :
    active[race.original]? = some ⟨race.originalSource, piece, some race.group, false⟩ :=
  owned.getElem?_of_row piece (by simp [h, Holding.row])

theorem duplicate {race : Race setup} (h : table piece = .raced race) :
    active[race.duplicate]? = some ⟨race.duplicateSource, piece, some race.group, true⟩ :=
  owned.getElem?_of_row piece (by simp [h, Holding.row, race.distinct.symm])

theorem holder {lease : LeaseId} (h : table piece = .held lease source) :
    active[lease]? = some ⟨source, piece, none, false⟩ :=
  owned.getElem?_of_row piece (by simp [h, Holding.row])

/-- One piece changes hands: its old rows are replaced by its new ones, whose leases were its
own or were not in use. -/
theorem replace (piece : setup.Piece) (holding : Holding setup) (replaced : ∀ lease, rows[lease]? =
      (holding.row piece lease).or (if ((table piece).row piece lease).isSome then none else
      active[lease]?))
    (own : ∀ lease, (holding.row piece lease).isSome = true →
      ((table piece).row piece lease).isSome = true ∨ active[lease]? = none) :
    Owned (update pieces piece holding.state) rows
      (update table piece holding) := by
  constructor
  · intro other
    by_cases same : other = piece
    · subst same
      simp
    · rw [update_of_ne same, update_of_ne same, owned.pieces]
  · intro lease range
    rw [replaced]
    by_cases same : range.pieceIndex = piece
    · subst same
      rw [update_self]
      constructor
      · intro found
        rcases or_eq_some_iff.mp found with found | ⟨-, found⟩
        · exact found
        · split at found
          · cases found
          · rename_i unheld
            simp [(owned.active lease range).mp found] at unheld
      · intro found
        rw [found, some_or]
    · rw [update_of_ne same, ← owned.active]
      have elsewhere (found : active[lease]? = some range) :
          (table piece).row piece lease = none := by
        cases row : (table piece).row piece lease with
        | none => rfl
        | some =>
          rw [owned.getElem?_of_row piece row] at found
          rw [← some.inj found] at same
          exact absurd (Holding.pieceIndex_of_row row) same
      constructor
      · intro found
        rcases or_eq_some_iff.mp found with found | ⟨-, found⟩
        · exact absurd (Holding.pieceIndex_of_row found) same
        · split at found
          · cases found
          · exact found
      · intro found
        have unheld := elsewhere found
        have absent : holding.row piece lease = none := by
          by_contra present
          rcases own lease (isSome_iff_ne_none.mpr present) with mine | none
          · simp [unheld] at mine
          · rw [none] at found
            cases found
        rw [absent, unheld]
        simpa using found

theorem lease {lease : LeaseId} (source : setup.Source) (free : table piece = .free)
    (unused : active[lease]? = none) :
    Owned (update pieces piece (Holding.held lease source).state)
      (active.insert lease ⟨source, piece, none, false⟩)
      (update table piece (.held lease source)) := by
  refine owned.replace piece _ ?_ ?_
  · intro other
    by_cases same : other = lease
    · subst same
      simp [Holding.row]
    · simp [getElem?_insert, Holding.row, free, same, Ne.symm same]
  · intro other present
    have same : other = lease := by simpa [Holding.row] using present
    exact .inr (same ▸ unused)

theorem race (race : Race setup) (held : table piece = .held race.original race.originalSource)
    (unused : active[race.duplicate]? = none) :
    Owned (update pieces piece (Holding.raced race).state)
      (((active.insert race.original
        ⟨race.originalSource, piece, some race.group, false⟩) : OrderedMap _ _).insert
        race.duplicate ⟨race.duplicateSource, piece, some race.group, true⟩)
      (update table piece (.raced race)) := by
  have distinct := race.distinct
  refine owned.replace piece _ ?_ ?_
  · intro other
    rw [getElem?_insert, getElem?_insert, held]
    by_cases first : other = race.original
    · subst first
      simp [Holding.row, distinct.symm]
    · by_cases second : other = race.duplicate
      · subst second
        simp [Holding.row, first]
      · simp [Holding.row, first, second, Ne.symm first, Ne.symm second]
  · intro other present
    by_cases first : other = race.original
    · simp [held, Holding.row, first]
    · have second : other = race.duplicate := by simpa [Holding.row, first] using present
      exact .inr (second ▸ unused)

theorem fence {race : Race setup} (raced : table piece = .raced race) (lease : LeaseId)
    (member : ∀ l ∈ some lease, l = race.original ∨ l = race.duplicate) :
    Owned (update pieces piece
        (.active ⟨race.original, some race.duplicate, some race.group, some lease⟩)) active
      (update table piece
        (.raced { race with candidate := some lease, candidate_mem := member })) := by
  refine owned.replace piece (.raced { race with candidate := some lease, candidate_mem := member })
    ?_ ?_
  · intro other
    by_cases first : other = race.original
    · simp [first, owned.original raced, Holding.row]
    · by_cases second : other = race.duplicate
      · simp [second, owned.duplicate raced, Holding.row, race.distinct.symm]
      · simp [raced, Holding.row, first, second]
  · intro other present
    rw [raced]
    exact .inl present

theorem vacate (holding : Holding setup) (vacant : ∀ lease, holding.row piece lease = none)
    (left : ∀ lease, rows[lease]? =
      if ((table piece).row piece lease).isSome then none else active[lease]?) :
    Owned (update pieces piece holding.state) rows
      (update table piece holding) := by
  refine owned.replace piece holding ?_ ?_
  · intro lease
    rw [vacant, none_or, left]
  · intro lease present
    simp [vacant] at present

theorem release {lease : LeaseId} (held : table piece = .held lease source)
    (holding : Holding setup) (vacant : ∀ lease, holding.row piece lease = none) :
    Owned (update pieces piece holding.state) (active.erase lease)
      (update table piece holding) := by
  refine owned.vacate holding vacant fun other => ?_
  by_cases same : other = lease
  · simp [same, held, Holding.row]
  · simp [getElem?_erase, held, Holding.row, same, Ne.symm same]

theorem rollback {race : Race setup} (raced : table piece = .raced race) {first second : LeaseId}
    (members : race.Members first second) (holding : Holding setup)
    (vacant : ∀ lease, holding.row piece lease = none) :
    Owned (update pieces piece holding.state)
      ((active.erase first : OrderedMap _ _).erase second)
      (update table piece holding) := by
  refine owned.vacate holding vacant fun other => ?_
  rw [getElem?_erase, getElem?_erase, raced]
  have both : second = other ∨ first = other ↔ other = race.original ∨ other = race.duplicate := by
    rcases members with ⟨rfl, rfl⟩ | ⟨rfl, rfl⟩ <;> grind
  by_cases mine : other = race.original ∨ other = race.duplicate
  · have gone := both.mpr mine
    simp only [Holding.row]
    grind
  · have kept := mt both.mp mine
    simp only [Holding.row]
    grind

/-- One lease of a raced piece is released and the other becomes its only one. -/
theorem keep {race : Race setup} (raced : table piece = .raced race) {gone kept : LeaseId}
    (source : setup.Source)
    (members : race.Members gone kept) :
    Owned (update pieces piece (Holding.held kept source).state)
      ((active.erase gone : OrderedMap _ _).insert kept ⟨source, piece, none, false⟩)
      (update table piece (.held kept source)) := by
  have distinct := race.distinct
  refine owned.replace piece _ ?_ ?_
  · intro other
    rw [getElem?_insert, getElem?_erase, raced]
    simp only [Holding.row]
    rcases members with ⟨rfl, rfl⟩ | ⟨rfl, rfl⟩ <;> grind
  · intro other present
    left
    rw [raced]
    simp only [Holding.row] at present ⊢
    rcases members with ⟨rfl, rfl⟩ | ⟨rfl, rfl⟩ <;> grind

end Owned

end Ariax
