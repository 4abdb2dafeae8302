import Ariax.Lib.Call
import Ariax.Lib.OrderedMap
import Ariax.Storage.Persisted
import Mathlib.Data.String.Basic

/-!
# The HTTP range coordinator

The coordination of parallel range workers of `http_range.rs`: which piece
is leased to which source, the endgame duplicates that race a slow lease,
and the retry accounting. A configuration and a source list that
`new_transfer` accepts are one value here, whose fields are the checks it
passed; pieces and sources are indices of it, so no index can be out of
range. A method that mutates the coordinator is a call that keeps what was
written before an error.
-/

namespace Ariax

open Function

def maxHttpRangePieces : ℕ := 1_048_576

def httpEndgameMinTailBytes : ℕ := 8 * 1024 * 1024

def maxHttpEndgameMaxDuplicates : ℕ := 8

structure HttpRangeCoordinatorConfig where
  totalLength : U64
  pieceLength : U64
  split : ℕ+
  maxConnectionsPerOrigin : ℕ+
  maxTotalAttempts : U32
  maxAttemptsPerSource : U32
  endgameMaxDuplicates : ℕ
  deriving DecidableEq

structure HttpRangeSource where
  id : UriId
  origin : String
  ordinaryAssignments : Bool
  sameSourceEndgame : Bool
  sharedIdentityEndgame : Bool
  deriving DecidableEq

structure HttpRangeAssignment where
  lease : LeaseId
  source : UriId
  piece : PieceId
  span : GlobalSpan
  overlapGroup : Option OverlapGroupId
  deriving DecidableEq

inductive HttpRangePoll where
  | assignment (assignment : HttpRangeAssignment)
  | endgame (assignment : HttpRangeAssignment) (original : LeaseId)
  | retryAt (deadline : U64)
  | saturated
  | complete
  | exhausted
  deriving DecidableEq

inductive HttpRangeFailure where
  | retryAt (retryAtMs : U64)
  | disableSource
  deriving DecidableEq

structure HttpOverlapFence where
  group : OverlapGroupId
  candidate : LeaseId
  competitor : LeaseId
  deriving DecidableEq

inductive HttpOverlapSettlement where
  | candidateCommitted
  | rolledBack
  deriving DecidableEq

structure ActivePiece where
  original : LeaseId
  duplicate : Option LeaseId
  overlapGroup : Option OverlapGroupId
  candidate : Option LeaseId
  deriving DecidableEq

inductive PieceState where
  | pending
  | active (state : ActivePiece)
  | durable
  deriving DecidableEq

def PieceState.activePiece? : PieceState → Option ActivePiece
  | .active state => some state
  | .pending | .durable => none

inductive HttpRangeCoordinatorError where
  | invalidConfig
  | invalidSource
  | noSources
  | tooManyPieces
  | duplicateSource
  | invalidOverlap
  | identifierExhausted
  | unknownLease

inductive UriSelector where
  | inOrder
  | feedback
  | adaptive
  deriving DecidableEq

/-- What is known of the throughput and the failures of one origin. -/
structure ServerFeedback where
  bytesPerSecond : U64
  samples : U32
  failures : U32
  deriving DecidableEq

namespace ServerFeedback

def default : ServerFeedback := ⟨0, 0, 0⟩

def score (feedback : ServerFeedback) (concurrent : ℕ) : ℕ :=
  (if feedback.samples = 0 then 1_048_576 else feedback.bytesPerSecond.val) /
    (feedback.failures.val + 1) / (concurrent + 1)

end ServerFeedback

/-! ## Accepted configurations -/

namespace HttpRangeCoordinatorConfig

variable (config : HttpRangeCoordinatorConfig)

/-- The checks of `new_transfer` on single fields. -/
def Rejected : Prop :=
  config.totalLength = 0 ∨ config.pieceLength = 0 ∨ 1024 < (config.split : ℕ) ∨
    1024 < (config.maxConnectionsPerOrigin : ℕ) ∨ config.maxTotalAttempts = 0 ∨
    config.maxAttemptsPerSource = 0 ∨ maxHttpEndgameMaxDuplicates < config.endgameMaxDuplicates

instance : Decidable config.Rejected := by
  unfold Rejected
  infer_instance

def pieceCount : ℕ :=
  (config.totalLength.val + (config.pieceLength.val - 1)) / config.pieceLength.val

end HttpRangeCoordinatorConfig

/-- A configuration and a source list that a coordinator can be made of. -/
structure HttpRangeSetup where
  config : HttpRangeCoordinatorConfig
  sources : List HttpRangeSource
  accepted : ¬config.Rejected
  unwrapped : config.totalLength.val + (config.pieceLength.val - 1) < 2 ^ 64
  bounded : ¬(config.pieceCount = 0 ∨ maxHttpRangePieces < config.pieceCount)
  distinct : (sources.map HttpRangeSource.id).Nodup
  nonempty : sources ≠ []

namespace HttpRangeSetup

variable (setup : HttpRangeSetup)

abbrev pieceCount : ℕ := setup.config.pieceCount

abbrev Piece := Fin setup.pieceCount

abbrev Source := Fin setup.sources.length

instance pieceCountNeZero : NeZero setup.pieceCount :=
  ⟨fun none => setup.bounded (.inl none)⟩

instance sourceCountNeZero : NeZero setup.sources.length :=
  ⟨fun none => setup.nonempty (List.length_eq_zero_iff.mp none)⟩

def source (index : setup.Source) : HttpRangeSource := setup.sources.get index

def pieceIndex (piece : PieceId) : Option setup.Piece :=
  if h : piece.get.val < setup.pieceCount then some ⟨piece.get.val, h⟩ else none

def sourceIndex (id : UriId) : Option setup.Source :=
  (List.finRange setup.sources.length).find? fun index => (setup.source index).id = id

def pieceLength (piece : setup.Piece) : Option ℕ :=
  let offset := piece.val * setup.config.pieceLength.val
  if offset < 2 ^ 64 ∧ offset ≤ setup.config.totalLength.val then
    some (min setup.config.pieceLength.val (setup.config.totalLength.val - offset))
  else
    none

/-- The bytes of one piece, or `none` if its offset does not fit in a `u64`. -/
def pieceSpanGlobal (piece : setup.Piece) : Option GlobalSpan :=
  let offset := piece.val * setup.config.pieceLength.val
  if offset < 2 ^ 64 then
    some ⟨offset, min setup.config.pieceLength.val (setup.config.totalLength.val - offset)⟩
  else
    none

end HttpRangeSetup

structure ActiveRange (setup : HttpRangeSetup) where
  sourceIndex : setup.Source
  pieceIndex : setup.Piece
  overlapGroup : Option OverlapGroupId
  duplicate : Bool
  deriving DecidableEq

structure HttpRangeCoordinator (setup : HttpRangeSetup) where
  disabled : setup.Source → Bool
  pieces : setup.Piece → PieceState
  pieceAttempts : setup.Piece → ℕ
  sourcePieceAttempts : setup.Piece → setup.Source → Option ℕ
  sourcePieceRetryAt : setup.Piece → setup.Source → Option U64
  active : OrderedMap LeaseId (ActiveRange setup)
  activeByOrigin : OrderedMap String ℕ
  nextLease : U64
  nextOverlapGroup : U64
  nextPiece : setup.Piece
  nextSource : setup.Source
  selector : Option UriSelector
  selectionFeedback : OrderedMap UriId (ℤ × ServerFeedback × ℕ)
  selections : ℕ
  completedLength : ℕ
  completedPieces : ℕ
  retryCount : ℕ
  activeEndgameDuplicates : ℕ

/-- A call on a coordinator; an error keeps what was written before it. -/
abbrev HttpRangeCall (setup : HttpRangeSetup) :=
  EStateM HttpRangeCoordinatorError (HttpRangeCoordinator setup)

def saturatingAdd (bound a b : ℕ) : ℕ := min (a + b) (bound - 1)

namespace HttpRangeCoordinator

def initial (setup : HttpRangeSetup) : HttpRangeCoordinator setup where
  disabled := fun _ => false
  pieces := fun _ => .pending
  pieceAttempts := fun _ => 0
  sourcePieceAttempts := fun _ _ => none
  sourcePieceRetryAt := fun _ _ => none
  active := ∅
  activeByOrigin := ∅
  nextLease := 1
  nextOverlapGroup := 1
  nextPiece := 0
  nextSource := 0
  selector := none
  selectionFeedback := ∅
  selections := 0
  completedLength := 0
  completedPieces := 0
  retryCount := 0
  activeEndgameDuplicates := 0

section

variable (config : HttpRangeCoordinatorConfig) (sources : List HttpRangeSource)

def newTransfer :
    Except HttpRangeCoordinatorError ((setup : HttpRangeSetup) × HttpRangeCoordinator setup) :=
  if rejected : config.Rejected then
    .error .invalidConfig
  else if wide : ¬config.totalLength.val + (config.pieceLength.val - 1) < 2 ^ 64 then
    .error .tooManyPieces
  else if count : config.pieceCount = 0 ∨ maxHttpRangePieces < config.pieceCount then
    .error .tooManyPieces
  else if repeated : ¬(sources.map HttpRangeSource.id).Nodup then
    .error .duplicateSource
  else if empty : sources = [] then
    .error .noSources
  else
    .ok ⟨⟨config, sources, rejected, not_not.mp wide, count, not_not.mp repeated, empty⟩, initial _⟩

/-- The constructor for HTTP proper, whose pieces are a power of two long. -/
def new :
    Except HttpRangeCoordinatorError ((setup : HttpRangeSetup) × HttpRangeCoordinator setup) :=
  if ¬config.pieceLength.val.isPowerOfTwo then .error .invalidConfig
  else newTransfer config sources

end

variable {setup : HttpRangeSetup}

/-! ## Reading the state -/

variable (c : HttpRangeCoordinator setup)

/-- The number of active leases on the origin of a source. -/
def concurrent (source : setup.Source) : ℕ :=
  c.activeByOrigin[(setup.source source).origin]?.getD 0

def sourceAvailable (piece : setup.Piece) (source : setup.Source) (nowMs : U64) : Bool :=
  !c.disabled source && (c.sourcePieceRetryAt piece source).getD 0 ≤ nowMs &&
    (c.sourcePieceAttempts piece source).getD 0 < setup.config.maxAttemptsPerSource.val &&
    c.concurrent source < setup.config.maxConnectionsPerOrigin

/-- What decides between the sources of an ordinary assignment, the first field first. -/
structure SelectionKey where
  assigned : ℕ
  penalty : ℕ
  priority : ℤ
  position : ℕ

def SelectionKey.before (a b : SelectionKey) : Bool :=
  a.assigned < b.assigned || a.assigned = b.assigned &&
    (a.penalty < b.penalty || a.penalty = b.penalty &&
      (a.priority < b.priority || a.priority = b.priority && a.position < b.position))

/-- The first element with the least key, as `min_by_key` finds it. -/
def firstLeast {α β : Type} (before : β → β → Bool) (key : α → β) : List α → Option α
  | [] => none
  | first :: rest =>
    some (rest.foldl (fun best other => if before (key other) (key best) then other else best)
      first)

theorem firstLeast_mem {α β : Type} {before : β → β → Bool} {key : α → β} {l : List α} {a : α}
    (least : firstLeast before key l = some a) : a ∈ l := by
  cases l with
  | nil => cases least
  | cons first rest =>
    obtain rfl := Option.some.inj least
    induction rest generalizing first with
    | nil => exact List.mem_singleton_self first
    | cons other rest ih =>
      rw [List.foldl_cons]
      split
      · exact List.mem_cons_of_mem _ (ih other rfl)
      · rcases List.mem_cons.mp (ih first rfl) with same | later
        · rw [same]
          exact List.mem_cons_self
        · exact List.mem_cons_of_mem _ (List.mem_cons_of_mem _ later)

theorem firstLeast_eq_none {α β : Type} {before : β → β → Bool} {key : α → β} {l : List α} :
    firstLeast before key l = none ↔ l = [] := by
  cases l <;> simp [firstLeast]

def selectionKey (index : setup.Source) : SelectionKey :=
  let (priority, feedback, assigned) :=
    c.selectionFeedback[(setup.source index).id]?.getD (0, .default, 0)
  let rotated := (index - c.nextSource).val
  match c.selector with
  | none => ⟨0, 0, 0, rotated⟩
  | some .inOrder => ⟨0, 0, priority, index.val⟩
  | some selector =>
    if selector = .adaptive ∧ c.selections % 8 = 0 then
      ⟨assigned, 0, priority, rotated⟩
    else
      ⟨0, 2 ^ 64 - 1 - feedback.score (c.concurrent index), priority, rotated⟩

def attemptable (piece : setup.Piece) : Bool :=
  c.pieces piece = .pending && c.pieceAttempts piece < setup.config.maxTotalAttempts.val

def findAssignment (nowMs : U64) : Option (setup.Piece × setup.Source) :=
  let pieces := (List.finRange setup.pieceCount).map (c.nextPiece + ·)
  let sources := (List.finRange setup.sources.length).map (c.nextSource + ·)
  (pieces.filter c.attemptable).findSome? fun piece =>
    let usable := sources.filter fun source =>
      (setup.source source).ordinaryAssignments && c.sourceAvailable piece source nowMs
    (firstLeast SelectionKey.before c.selectionKey usable).map fun source => (piece, source)

/-- The source that may race an active lease, another one of the same content before its own. -/
def duplicateSource (active : ActiveRange setup) (nowMs : U64) : Option setup.Source :=
  let source := setup.source active.sourceIndex
  let others := (List.finRange setup.sources.length).tail.map (active.sourceIndex + ·)
  let shared := if source.sharedIdentityEndgame then
      others.find? fun index => (setup.source index).sharedIdentityEndgame &&
        c.sourceAvailable active.pieceIndex index nowMs
    else
      none
  shared <|>
    if source.sameSourceEndgame && c.sourceAvailable active.pieceIndex active.sourceIndex nowMs
    then some active.sourceIndex
    else none

def endgameOf (nowMs : U64) (original : LeaseId) :
    Option (LeaseId × setup.Piece × setup.Source) := do
  let active ← c.active[original]?
  guard ¬(active.duplicate ∨ active.overlapGroup.isSome)
  let state ← (c.pieces active.pieceIndex).activePiece?
  guard (state.original = original)
  guard ¬(state.duplicate.isSome ∨ state.overlapGroup.isSome ∨ state.candidate.isSome ∨
    setup.config.maxTotalAttempts.val ≤ c.pieceAttempts active.pieceIndex)
  let source ← c.duplicateSource active nowMs
  return (original, active.pieceIndex, source)

def findEndgameAssignment (nowMs : U64) (eligibleOriginals : List LeaseId) :
    Option (LeaseId × setup.Piece × setup.Source) :=
  let config := setup.config
  if config.endgameMaxDuplicates = 0 ∨ config.endgameMaxDuplicates ≤ c.activeEndgameDuplicates ∨
      saturatingAdd (2 ^ 64) config.split config.endgameMaxDuplicates ≤ c.active.size ∨
      max httpEndgameMinTailBytes (min (config.pieceLength.val * 2) (2 ^ 64 - 1)) <
        config.totalLength.val - c.completedLength then
    none
  else
    eligibleOriginals.findSome? (c.endgameOf nowMs)

def nextRetryDeadline (nowMs : U64) : Option U64 :=
  (((List.finRange setup.pieceCount).filter c.attemptable).flatMap fun piece =>
    ((List.finRange setup.sources.length).filter fun source =>
      !c.disabled source && nowMs < (c.sourcePieceRetryAt piece source).getD 0 &&
        (c.sourcePieceAttempts piece source).getD 0 <
          setup.config.maxAttemptsPerSource.val).filterMap (c.sourcePieceRetryAt piece)).min?

/-! ## Writing the state -/

section

variable (piece : setup.Piece) (source : setup.Source)

def recordAttempt (duplicate : Bool) : HttpRangeCoordinator setup :=
  let attempts := c.pieceAttempts piece + 1
  { c with
    pieceAttempts := update c.pieceAttempts piece attempts
    sourcePieceAttempts := update c.sourcePieceAttempts piece
      (update (c.sourcePieceAttempts piece) source
        (some ((c.sourcePieceAttempts piece source).getD 0 + 1)))
    retryCount := if !duplicate && 1 < attempts then saturatingAdd (2 ^ 32) c.retryCount 1
      else c.retryCount }

def advanceCursor : HttpRangeCoordinator setup :=
  { c with nextPiece := piece + 1, nextSource := source + 1 }

end

def setPiece (piece : setup.Piece) (state : PieceState) : HttpRangeCoordinator setup :=
  { c with pieces := update c.pieces piece state }

def occupyOrigin (source : setup.Source) : HttpRangeCoordinator setup :=
  { c with
    activeByOrigin :=
      c.activeByOrigin.insert (setup.source source).origin (c.concurrent source + 1) }

/-- One active lease less on the origin of a source; a row that drops to zero is removed. -/
def vacateOrigin (source : setup.Source) : HttpRangeCoordinator setup :=
  let origin := (setup.source source).origin
  { c with
    activeByOrigin := if c.concurrent source - 1 = 0 then c.activeByOrigin.erase origin
      else c.activeByOrigin.insert origin (c.concurrent source - 1) }

def recordSelection (id : UriId) : HttpRangeCoordinator setup :=
  { c with
    selections := saturatingAdd (2 ^ 64) c.selections 1
    selectionFeedback := match c.selectionFeedback[id]? with
      | some (priority, feedback, assigned) =>
        c.selectionFeedback.insert id (priority, feedback, saturatingAdd (2 ^ 64) assigned 1)
      | none => c.selectionFeedback }

def markPieceDurable (piece : setup.Piece) : HttpRangeCoordinator setup :=
  { c with
    pieces := update c.pieces piece .durable
    sourcePieceAttempts := update c.sourcePieceAttempts piece fun _ => none
    sourcePieceRetryAt := update c.sourcePieceRetryAt piece fun _ => none
    completedPieces := c.completedPieces + 1
    -- an active piece has a length, so the default is never used
    completedLength := saturatingAdd (2 ^ 64) c.completedLength ((setup.pieceLength piece).getD 0) }

def applyFailure (piece : setup.Piece) (source : setup.Source) :
    HttpRangeFailure → HttpRangeCoordinator setup
  | .disableSource => { c with disabled := update c.disabled source true }
  | .retryAt retryAtMs =>
    { c with
      sourcePieceRetryAt := update c.sourcePieceRetryAt piece
        (update (c.sourcePieceRetryAt piece) source
          (some (max ((c.sourcePieceRetryAt piece source).getD 0) retryAtMs))) }

end HttpRangeCoordinator

end Ariax
