import Ariax.HttpRange.Coordinator
import Ariax.Lib.Machine

/-!
# The calls on an HTTP range coordinator

The mutating methods of `http_range.rs` and the machine they make: a run is
any sequence of calls on a coordinator that `new_transfer` returned, each of
which returns or fails.
-/

namespace Ariax

namespace HttpRangeCoordinator

variable {setup : HttpRangeSetup}

/-! ## Polling -/

def nextLeaseId : HttpRangeCall setup LeaseId := do
  let c ← get
  let lease ← orThrow (NonzeroId.new c.nextLease) .identifierExhausted
  let next ← orThrow (checkedSucc c.nextLease) .identifierExhausted
  set { c with nextLease := next }
  return lease

/-- The piece as it is named outside the coordinator. -/
def pieceId (piece : setup.Piece) : PieceId := ⟨Fin.ofNat (2 ^ 64) piece.val⟩

def issueNormalAssignment (piece : setup.Piece) (source : setup.Source) :
    HttpRangeCall setup HttpRangePoll := do
  let lease ← nextLeaseId
  let span ← orThrow (setup.pieceSpanGlobal piece) .invalidConfig
  let sourceId := (setup.source source).id
  modify fun c => c.recordAttempt piece source false
  modify fun c => c.recordSelection sourceId
  modify fun c => c.occupyOrigin source
  modify fun c => c.setPiece piece (.active ⟨lease, none, none, none⟩)
  modify fun c => { c with active := c.active.insert lease ⟨source, piece, none, false⟩ }
  modify fun c => c.advanceCursor piece source
  return .assignment ⟨lease, sourceId, pieceId piece, span, none⟩

def issueEndgameAssignment (original : LeaseId) (piece : setup.Piece) (source : setup.Source) :
    HttpRangeCall setup HttpRangePoll := do
  let c ← get
  let group ← orThrow (NonzeroId.new c.nextOverlapGroup) .identifierExhausted
  let next ← orThrow (checkedSucc c.nextOverlapGroup) .identifierExhausted
  modify fun c => { c with nextOverlapGroup := next }
  let lease ← nextLeaseId
  let span ← orThrow (setup.pieceSpanGlobal piece) .invalidConfig
  let sourceId := (setup.source source).id
  modify fun c => c.recordAttempt piece source true
  modify fun c => c.occupyOrigin source
  let c ← get
  let state ← orThrow (c.pieces piece).activePiece? .invalidOverlap
  throwIf (state.original ≠ original ∨ state.duplicate.isSome ∨ state.overlapGroup.isSome ∨
    state.candidate.isSome) .invalidOverlap
  modify fun c => c.setPiece piece
    (.active { state with duplicate := some lease, overlapGroup := some group })
  let c ← get
  let active ← orThrow c.active[original]? .unknownLease
  modify fun c => { c with
    active := (c.active.insert original { active with overlapGroup := some group }).insert lease
      ⟨source, piece, some group, true⟩
    activeEndgameDuplicates := c.activeEndgameDuplicates + 1 }
  modify fun c => c.advanceCursor piece source
  return .endgame ⟨lease, sourceId, pieceId piece, span, some group⟩ original

def pollWithEndgame (nowMs : U64) (eligibleOriginals : List LeaseId) :
    HttpRangeCall setup HttpRangePoll := do
  let c ← get
  if c.completedPieces = setup.pieceCount then
    return .complete
  else
    match if c.active.size < setup.config.split then c.findAssignment nowMs else none with
    | some (piece, source) => issueNormalAssignment piece source
    | none =>
      match c.findEndgameAssignment nowMs eligibleOriginals with
      | some (original, piece, source) => issueEndgameAssignment original piece source
      | none =>
        if c.active.size ≠ 0 then
          return .saturated
        else
          return (c.nextRetryDeadline nowMs).elim .exhausted .retryAt

def poll (nowMs : U64) : HttpRangeCall setup HttpRangePoll := pollWithEndgame nowMs []

def advanceLeaseFloor (next : U64) : HttpRangeCall setup Unit :=
  modify fun c => { c with nextLease := max c.nextLease next }

def configureSelector (selector : UriSelector) (feedback : List (UriId × ℤ × ServerFeedback)) :
    HttpRangeCall setup Unit :=
  modify fun c => { c with
    selector := some selector
    selectionFeedback := (feedback.filter fun row => (setup.sourceIndex row.1).isSome).foldl
      (fun rows row => rows.insert row.1 (row.2.1, row.2.2, 0)) ∅ }

def updateFeedback (source : UriId) (feedback : ServerFeedback) : HttpRangeCall setup Unit :=
  modify fun c => { c with
    selectionFeedback := match c.selectionFeedback[source]? with
      | some (priority, _, assigned) =>
        c.selectionFeedback.insert source (priority, feedback, assigned)
      | none => c.selectionFeedback }

/-! ## Restoring recovered work -/

/-- One iteration of `restore_durable`. -/
def restoreDurablePiece (piece : PieceId) : HttpRangeCall setup Unit := do
  let c ← get
  let index ← orThrow (setup.pieceIndex piece) .invalidConfig
  throwIf (c.pieces index ≠ .pending) .invalidConfig
  modify fun c => { c.setPiece index .durable with completedPieces := c.completedPieces + 1 }
  let length ← orThrow (setup.pieceLength index) .invalidConfig
  modify fun c => { c with completedLength := saturatingAdd (2 ^ 64) c.completedLength length }

def restoreDurable (pieces : List PieceId) : HttpRangeCall setup Unit :=
  forM pieces restoreDurablePiece

def restorePieceAttempts (piece : PieceId) (attempts : U32) : HttpRangeCall setup Unit := do
  let c ← get
  let index ← orThrow (setup.pieceIndex piece) .invalidConfig
  throwIf (attempts = 0 ∨ setup.config.maxTotalAttempts < attempts ∨
    c.pieces index ≠ .pending ∨ c.pieceAttempts index ≠ 0) .invalidConfig
  modify fun c => { c with
    pieceAttempts := Function.update c.pieceAttempts index attempts.val
    retryCount := saturatingAdd (2 ^ 32) c.retryCount (attempts.val - 1) }

def restoreSourcePieceRetry (piece : PieceId) (source : UriId) (attempts : U32)
    (retryAtMs : U64) : HttpRangeCall setup Unit := do
  let c ← get
  let sourceIndex ← orThrow (setup.sourceIndex source) .invalidSource
  let index ← orThrow (setup.pieceIndex piece) .invalidConfig
  throwIf (attempts = 0 ∨ setup.config.maxAttemptsPerSource < attempts ∨
    c.pieces index ≠ .pending ∨ c.pieceAttempts index < attempts.val ∨
    (c.sourcePieceAttempts index sourceIndex).isSome) .invalidConfig
  modify fun c => { c with
    sourcePieceAttempts := Function.update c.sourcePieceAttempts index
      (Function.update (c.sourcePieceAttempts index) sourceIndex (some attempts.val))
    sourcePieceRetryAt := Function.update c.sourcePieceRetryAt index
      (Function.update (c.sourcePieceRetryAt index) sourceIndex (some retryAtMs)) }

/-! ## Settling leases -/

def releaseActive (lease : LeaseId) : HttpRangeCall setup (ActiveRange setup) := do
  let c ← get
  let active ← orThrow c.active[lease]? .unknownLease
  modify fun c => { c with
    active := c.active.erase lease
    activeEndgameDuplicates :=
      if active.duplicate then c.activeEndgameDuplicates - 1 else c.activeEndgameDuplicates }
  modify fun c => c.vacateOrigin active.sourceIndex
  return active

def complete (lease : LeaseId) : HttpRangeCall setup Unit := do
  let c ← get
  let active ← orThrow c.active[lease]? .unknownLease
  let state ← orThrow (c.pieces active.pieceIndex).activePiece? .unknownLease
  throwIf (state.original ≠ lease ∨ state.duplicate.isSome ∨ state.overlapGroup.isSome ∨
    state.candidate.isSome) .unknownLease
  let _ ← releaseActive lease
  modify fun c => c.markPieceDurable active.pieceIndex

/-- The other member of the overlap group a lease of a piece belongs to. -/
def competitor (state : ActivePiece) (lease : LeaseId) : Option LeaseId :=
  if state.original = lease then state.duplicate
  else if state.duplicate = some lease then some state.original
  else none

def beginOverlapCommit (lease : LeaseId) : HttpRangeCall setup HttpOverlapFence := do
  let c ← get
  let active ← orThrow c.active[lease]? .unknownLease
  let group ← orThrow active.overlapGroup .invalidOverlap
  let state ← orThrow (c.pieces active.pieceIndex).activePiece? .invalidOverlap
  throwIf (state.overlapGroup ≠ some group ∨ state.candidate.isSome) .invalidOverlap
  let competitor ← orThrow (competitor state lease) .invalidOverlap
  modify fun c => c.setPiece active.pieceIndex (.active { state with candidate := some lease })
  return ⟨group, lease, competitor⟩

def settleOverlap (group : OverlapGroupId) (candidate : LeaseId)
    (settlement : HttpOverlapSettlement) : HttpRangeCall setup Unit := do
  let c ← get
  let active ← orThrow c.active[candidate]? .unknownLease
  let state ← orThrow (c.pieces active.pieceIndex).activePiece? .invalidOverlap
  throwIf (state.overlapGroup ≠ some group ∨ state.candidate ≠ some candidate) .invalidOverlap
  let competitor ← orThrow (competitor state candidate) .invalidOverlap
  let competitorActive ← orThrow c.active[competitor]? .unknownLease
  throwIf (competitorActive.pieceIndex ≠ active.pieceIndex ∨
    competitorActive.overlapGroup ≠ some group) .invalidOverlap
  let _ ← releaseActive candidate
  let _ ← releaseActive competitor
  modify fun c => match settlement with
    | .candidateCommitted => c.markPieceDurable active.pieceIndex
    | .rolledBack => c.setPiece active.pieceIndex .pending

/-- The first piece raced by an overlap group. -/
def pieceOfGroup (c : HttpRangeCoordinator setup) (group : OverlapGroupId) :
    Option (setup.Piece × ActivePiece) :=
  (List.finRange setup.pieceCount).findSome? fun piece =>
    ((c.pieces piece).activePiece?.filter fun state => state.overlapGroup = some group).map
      fun state => (piece, state)

def rollbackOverlap (group : OverlapGroupId) : HttpRangeCall setup (LeaseId × LeaseId) := do
  let c ← get
  let (piece, state) ← orThrow (c.pieceOfGroup group) .invalidOverlap
  let duplicate ← orThrow state.duplicate .invalidOverlap
  let _ ← releaseActive state.original
  let _ ← releaseActive duplicate
  modify fun c => c.setPiece piece .pending
  return (state.original, duplicate)

/-- What is left of a piece after one of its leases failed and was released. -/
def releasePiece (piece : setup.Piece) (state : ActivePiece) (lease : LeaseId) :
    HttpRangeCall setup Unit :=
  match state.overlapGroup, state.duplicate with
  | some group, some duplicate => do
      let c ← get
      let remaining := if state.original = lease then duplicate else state.original
      let active ← orThrow c.active[remaining]? .unknownLease
      throwIf (active.overlapGroup ≠ some group) .invalidOverlap
      modify fun c => { c with
        activeEndgameDuplicates :=
          if active.duplicate then c.activeEndgameDuplicates - 1 else c.activeEndgameDuplicates
        active := c.active.insert remaining
          { active with duplicate := false, overlapGroup := none } }
      modify fun c => c.setPiece piece (.active ⟨remaining, none, none, none⟩)
  | _, _ => modify fun c => c.setPiece piece .pending

def fail (lease : LeaseId) (failure : HttpRangeFailure) : HttpRangeCall setup Unit := do
  let c ← get
  let active ← orThrow c.active[lease]? .unknownLease
  let state ← orThrow (c.pieces active.pieceIndex).activePiece? .unknownLease
  throwIf state.candidate.isSome .invalidOverlap
  throwIf (¬(state.original = lease ∨ state.duplicate = some lease)) .unknownLease
  let _ ← releaseActive lease
  releasePiece active.pieceIndex state lease
  modify fun c => c.applyFailure active.pieceIndex active.sourceIndex failure

def recordReleasedFailure (piece : PieceId) (source : UriId) (failure : HttpRangeFailure) :
    HttpRangeCall setup Unit := do
  let c ← get
  let index ← orThrow (setup.pieceIndex piece) .invalidOverlap
  throwIf (c.pieces index ≠ .pending) .invalidOverlap
  let sourceIndex ← orThrow (setup.sourceIndex source) .invalidSource
  modify fun c => c.applyFailure index sourceIndex failure

end HttpRangeCoordinator

/-! ## Runs -/

inductive HttpRangeRequest where
  | poll (nowMs : U64)
  | pollWithEndgame (nowMs : U64) (eligibleOriginals : List LeaseId)
  | complete (lease : LeaseId)
  | beginOverlapCommit (lease : LeaseId)
  | settleOverlap (group : OverlapGroupId) (candidate : LeaseId)
      (settlement : HttpOverlapSettlement)
  | rollbackOverlap (group : OverlapGroupId)
  | fail (lease : LeaseId) (failure : HttpRangeFailure)
  | recordReleasedFailure (piece : PieceId) (source : UriId) (failure : HttpRangeFailure)
  | restoreDurable (pieces : List PieceId)
  | restorePieceAttempts (piece : PieceId) (attempts : U32)
  | restoreSourcePieceRetry (piece : PieceId) (source : UriId) (attempts : U32) (retryAtMs : U64)
  | advanceLeaseFloor (next : U64)
  | configureSelector (selector : UriSelector) (feedback : List (UriId × ℤ × ServerFeedback))
  | updateFeedback (source : UriId) (feedback : ServerFeedback)

/-- What a call that returns tells its caller. -/
inductive HttpRangeReply where
  | polled (poll : HttpRangePoll)
  | fenced (fence : HttpOverlapFence)
  | rolledBack (leases : LeaseId × LeaseId)
  | done

def HttpRangeReply.assignment? : HttpRangeReply → Option HttpRangeAssignment
  | .polled (.assignment assignment) | .polled (.endgame assignment _) => some assignment
  | _ => none

open HttpRangeCoordinator in
def HttpRangeRequest.call {setup : HttpRangeSetup} :
    HttpRangeRequest → HttpRangeCall setup HttpRangeReply
  | .poll nowMs => .polled <$> HttpRangeCoordinator.poll nowMs
  | .pollWithEndgame nowMs eligible =>
    .polled <$> HttpRangeCoordinator.pollWithEndgame nowMs eligible
  | .complete lease => (fun _ => .done) <$> HttpRangeCoordinator.complete lease
  | .beginOverlapCommit lease => .fenced <$> HttpRangeCoordinator.beginOverlapCommit lease
  | .settleOverlap group candidate settlement =>
    (fun _ => .done) <$> HttpRangeCoordinator.settleOverlap group candidate settlement
  | .rollbackOverlap group => .rolledBack <$> HttpRangeCoordinator.rollbackOverlap group
  | .fail lease failure => (fun _ => .done) <$> HttpRangeCoordinator.fail lease failure
  | .recordReleasedFailure piece source failure =>
    (fun _ => .done) <$> HttpRangeCoordinator.recordReleasedFailure piece source failure
  | .restoreDurable pieces => (fun _ => .done) <$> HttpRangeCoordinator.restoreDurable pieces
  | .restorePieceAttempts piece attempts =>
    (fun _ => .done) <$> HttpRangeCoordinator.restorePieceAttempts piece attempts
  | .restoreSourcePieceRetry piece source attempts retryAtMs =>
    (fun _ => .done) <$>
      HttpRangeCoordinator.restoreSourcePieceRetry piece source attempts retryAtMs
  | .advanceLeaseFloor next => (fun _ => .done) <$> HttpRangeCoordinator.advanceLeaseFloor next
  | .configureSelector selector feedback =>
    (fun _ => .done) <$> HttpRangeCoordinator.configureSelector selector feedback
  | .updateFeedback source feedback =>
    (fun _ => .done) <$> HttpRangeCoordinator.updateFeedback source feedback

def httpRangeMachine (setup : HttpRangeSetup) : Machine (HttpRangeCoordinator setup)
    HttpRangeRequest (Except HttpRangeCoordinatorError HttpRangeReply) where
  initial := {HttpRangeCoordinator.initial setup}
  next c request :=
    match request.call c with
    | .ok reply c' => (.ok reply, c')
    | .error error c' => (.error error, c')

end Ariax
