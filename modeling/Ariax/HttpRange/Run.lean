import Ariax.HttpRange.Settlement

/-!
# Runs of the coordinator

The remaining calls keep the accounts as well, so every state of every run
is sound for some table of holdings. From this follow the ownership of
leases by pieces, the exact counters and their limits, that a durable piece
stays durable, and that no identifier is handed out twice.
-/

namespace Ariax

open Option

variable {setup : HttpRangeSetup} {c : HttpRangeCoordinator setup} {table : HoldingTable setup}

open HttpRangeCoordinator

/-! ## Polling -/

variable {source : setup.Source} {piece : setup.Piece} {nowMs : U64}

theorem findAssignment_eq_some (found : c.findAssignment nowMs = some (piece, source)) :
    c.attemptable piece = true ∧ (setup.source source).ordinaryAssignments = true ∧
      c.sourceAvailable piece source nowMs = true := by
  obtain ⟨other, member, found⟩ := List.exists_of_findSome?_eq_some found
  obtain ⟨chosen, least, same⟩ := map_eq_some_iff.mp found
  obtain ⟨rfl, rfl⟩ := Prod.mk.inj same
  have usable := (List.mem_filter.mp (firstLeast_mem least)).2
  exact ⟨(List.mem_filter.mp member).2, (Bool.and_eq_true_iff.mp usable).1,
    (Bool.and_eq_true_iff.mp usable).2⟩

theorem duplicateSource_available {active : ActiveRange setup}
    (found : c.duplicateSource active nowMs = some source) :
    c.sourceAvailable active.pieceIndex source nowMs = true := by
  simp only [duplicateSource, orElse_eq_orElse, orElse_eq_or, or_eq_some_iff] at found
  rcases found with shared | ⟨-, own⟩
  · split at shared
    · have usable := List.find?_some shared
      exact (Bool.and_eq_true_iff.mp usable).2
    · cases shared
  · split at own
    · rename_i usable
      obtain rfl := some.inj own
      exact (Bool.and_eq_true_iff.mp usable).2
    · cases own

theorem findEndgameAssignment_eq_some {eligible : List LeaseId} {original : LeaseId}
    (found : c.findEndgameAssignment nowMs eligible = some (original, piece, source)) :
    c.activeEndgameDuplicates < setup.config.endgameMaxDuplicates ∧
      ∃ active, c.active[original]? = some active ∧ active.overlapGroup = none ∧
        active.pieceIndex = piece ∧ c.sourceAvailable piece source nowMs = true := by
  simp only [findEndgameAssignment] at found
  split at found
  · cases found
  · refine ⟨by omega, ?_⟩
    obtain ⟨offered, -, found⟩ := List.exists_of_findSome?_eq_some found
    simp only [endgameOf, bind_eq_bind, bind_eq_some_iff, guard_eq_some', exists_const,
      pure_def, some.injEq, Prod.mk.injEq] at found
    obtain ⟨active, used, alone, state, -, -, -, chosen, usable, rfl, rfl, rfl⟩ := found
    refine ⟨active, used, ?_, rfl, duplicateSource_available usable⟩
    simp only [not_or, not_isSome_iff_eq_none] at alone
    exact alone.2

section

variable (sound : Sound c table)
include sound

theorem wp_pollWithEndgame (nowMs : U64) (eligible : List LeaseId) :
    wp (pollWithEndgame nowMs eligible) (fun poll => Answers c table (.polled poll))
      (fun _ => Progresses c table) c := by
  simp only [pollWithEndgame, wp_bind, wp_get]
  rw [wp_ite]
  refine ⟨fun _ => wp_pure.mpr ⟨sound.follows, fun _ none => by cases none⟩, fun _ => ?_⟩
  split
  · rename_i piece source found
    rw [ite_none_right_eq_some] at found
    obtain ⟨attemptable, -, available⟩ := findAssignment_eq_some found.2
    exact (wp_issueNormalAssignment sound attemptable found.1 available).mono (fun _ _ h => h.1)
      fun _ _ h => h.1
  · split
    · rename_i original piece source found
      obtain ⟨budget, active, used, alone, indexed, available⟩ :=
        findEndgameAssignment_eq_some found
      exact wp_issueEndgameAssignment sound used alone indexed budget available
    · rw [wp_ite]
      refine ⟨fun _ => wp_pure.mpr ⟨sound.follows, fun _ none => by cases none⟩, fun _ =>
        wp_pure.mpr ⟨sound.follows, ?_⟩⟩
      cases c.nextRetryDeadline nowMs <;> exact fun _ none => by cases none

/-! ## Restoring -/

variable (piece : PieceId)

theorem wp_restoreDurablePiece : wpEnds (restoreDurablePiece piece) (Progresses c table) c := by
  simp only [restoreDurablePiece, wp_bind, wp_get, wp_orThrow, wp_throwIf, wp_modify,
    setup.pieceLength_eq]
  refine ⟨fun index _ => ⟨fun _ => sound.follows, fun pending => ⟨?_, fun none => by cases none⟩⟩,
    fun _ => sound.follows⟩
  rintro _ ⟨⟩
  have free := sound.free_of_pending (not_not.mp pending)
  refine Sound.step free (.complete (by simp)) ⟨?_, sound.counted, ?_, ?_⟩ le_rfl le_rfl
  · refine sound.owned.vacate .durable (fun _ => rfl) fun lease => ?_
    rw [free]
    rfl
  · exact sound.tallied.complete (sound.not_durable (by simp [free]))
  · exact sound.issued.settle (fun _ none => by cases none) fun _ found => found

theorem wp_restoreDurable (pieces : List PieceId) :
    wpEnds (restoreDurable pieces) (Progresses c table) c := by
  refine wp_forM (fun piece middle followed => ?_) sound.follows
  obtain ⟨next, steps, kept, leases, groups⟩ := followed
  refine (wp_restoreDurablePiece kept piece).imp fun after followed => ?_
  obtain ⟨last, more, sound, moreLeases, moreGroups⟩ := followed
  exact ⟨last, steps.trans more, sound, leases.trans moreLeases, groups.trans moreGroups⟩

theorem wp_restorePieceAttempts (attempts : U32) :
    wpEnds (restorePieceAttempts piece attempts) (Progresses c table) c := by
  simp only [restorePieceAttempts, wp_bind, wp_get, wp_orThrow, wp_throwIf, wp_modify]
  refine ⟨fun index _ => ⟨fun _ => sound.follows, fun _ => ?_⟩, fun _ => sound.follows⟩
  exact ⟨table, .refl, { sound with }, le_rfl, le_rfl⟩

variable (source : UriId)

theorem wp_restoreSourcePieceRetry (attempts : U32) (retryAtMs : U64) :
    wpEnds (restoreSourcePieceRetry piece source attempts retryAtMs) (Progresses c table) c := by
  simp only [restoreSourcePieceRetry, wp_bind, wp_get, wp_orThrow, wp_throwIf, wp_modify]
  refine ⟨fun sourceIndex _ => ⟨fun index _ => ⟨fun _ => sound.follows, fun _ => ?_⟩,
    fun _ => sound.follows⟩, fun _ => sound.follows⟩
  exact ⟨table, .refl, { sound with }, le_rfl, le_rfl⟩

theorem wp_recordReleasedFailure (failure : HttpRangeFailure) :
    wpEnds (recordReleasedFailure piece source failure) (Progresses c table) c := by
  simp only [recordReleasedFailure, wp_bind, wp_get, wp_orThrow, wp_throwIf, wp_modify]
  refine ⟨fun index _ => ⟨fun _ => sound.follows, fun _ => ⟨fun sourceIndex _ => ?_,
    fun _ => sound.follows⟩⟩, fun _ => sound.follows⟩
  refine ⟨table, .refl, sound.applyFailure index sourceIndex failure, ?_, ?_⟩ <;>
    cases failure <;> exact le_rfl

theorem wp_advanceLeaseFloor (next : U64) :
    wpEnds (advanceLeaseFloor next) (Progresses c table) c :=
  wp_modify.mpr ⟨table, .refl,
    { sound with issued := sound.issued.advance (le_max_left _ _) le_rfl }, le_max_left _ _, le_rfl⟩

theorem wp_configureSelector (selector : UriSelector)
    (feedback : List (UriId × ℤ × ServerFeedback)) :
    wpEnds (configureSelector selector feedback) (Progresses c table) c :=
  wp_modify.mpr ⟨table, .refl, { sound with }, le_rfl, le_rfl⟩

theorem wp_updateFeedback (feedback : ServerFeedback) :
    wpEnds (updateFeedback source feedback) (Progresses c table) c :=
  wp_modify.mpr ⟨table, .refl, { sound with }, le_rfl, le_rfl⟩

end

/-! ## Every call -/

theorem wp_call (sound : Sound c table) (request : HttpRangeRequest) :
    wp request.call (Answers c table) (fun _ => Progresses c table) c := by
  -- only polls hand work out
  have silent {α : Type} {call : HttpRangeCall setup α} {reply : α → HttpRangeReply}
      (kept : wpEnds call (Progresses c table) c)
      (none : ∀ a, (reply a).assignment? = none) :
      wp (reply <$> call) (Answers c table) (fun _ => Progresses c table) c := by
    refine wp_map.mpr (kept.mono (fun a _ followed => ⟨followed, ?_⟩) fun _ _ h => h)
    rw [none a]
    rintro _ ⟨⟩
  cases request with
  | poll nowMs => exact wp_map.mpr (wp_pollWithEndgame sound nowMs [])
  | pollWithEndgame nowMs eligible => exact wp_map.mpr (wp_pollWithEndgame sound nowMs eligible)
  | complete lease => exact silent (wp_complete sound lease) fun _ => rfl
  | beginOverlapCommit lease => exact silent (wp_beginOverlapCommit sound lease) fun _ => rfl
  | settleOverlap group candidate settlement =>
    exact silent (wp_settleOverlap sound group candidate settlement) fun _ => rfl
  | rollbackOverlap group => exact silent (wp_rollbackOverlap sound group) fun _ => rfl
  | fail lease failure => exact silent (wp_fail sound lease failure) fun _ => rfl
  | recordReleasedFailure piece source failure =>
    exact silent (wp_recordReleasedFailure sound piece source failure) fun _ => rfl
  | restoreDurable pieces => exact silent (wp_restoreDurable sound pieces) fun _ => rfl
  | restorePieceAttempts piece attempts =>
    exact silent (wp_restorePieceAttempts sound piece attempts) fun _ => rfl
  | restoreSourcePieceRetry piece source attempts retryAtMs =>
    exact silent (wp_restoreSourcePieceRetry sound piece source attempts retryAtMs) fun _ => rfl
  | advanceLeaseFloor next => exact silent (wp_advanceLeaseFloor sound next) fun _ => rfl
  | configureSelector selector feedback =>
    exact silent (wp_configureSelector sound selector feedback) fun _ => rfl
  | updateFeedback source feedback =>
    exact silent (wp_updateFeedback sound source feedback) fun _ => rfl

def handedOut (output : Except HttpRangeCoordinatorError HttpRangeReply) :
    Option HttpRangeAssignment :=
  output.toOption.bind HttpRangeReply.assignment?

theorem Sound.next (sound : Sound c table) (request : HttpRangeRequest) :
    Progresses c table ((httpRangeMachine setup).next c request).2 ∧
      ∀ assignment ∈ handedOut ((httpRangeMachine setup).next c request).1,
        Hands c ((httpRangeMachine setup).next c request).2 assignment := by
  have kept := wp_call sound request
  simp only [httpRangeMachine]
  split
  · rename_i reply after called
    exact kept.1 reply after called
  · rename_i error after called
    refine ⟨kept.2 error after called, ?_⟩
    rintro _ ⟨⟩

/-! ## Every run -/

/-- The assignments of a history, oldest first. -/
def assignments (history : List (Step (HttpRangeCoordinator setup) HttpRangeRequest
    (Except HttpRangeCoordinatorError HttpRangeReply))) : List HttpRangeAssignment :=
  history.filterMap fun step => handedOut step.output

/-- What a run from the initial state says about its last state and its assignments. -/
structure Traced (history : List (Step (HttpRangeCoordinator setup) HttpRangeRequest
    (Except HttpRangeCoordinatorError HttpRangeReply))) (last : HttpRangeCoordinator setup) :
    Prop where
  sound : ∃ table, Sound last table
  durable : ∀ step ∈ history, ∀ piece,
    step.before.pieces piece = .durable → step.after.pieces piece = .durable
  lease_lt : ∀ assignment ∈ assignments history, assignment.lease.get < last.nextLease
  group_lt : ∀ assignment ∈ assignments history, ∀ group ∈ assignment.overlapGroup,
    group.get < last.nextOverlapGroup
  span : ∀ assignment ∈ assignments history, ∃ piece : setup.Piece,
    assignment.piece.get.val = piece.val ∧ assignment.span = setup.span piece
  leases : ((assignments history).map HttpRangeAssignment.lease).Nodup
  groups : ((assignments history).filterMap HttpRangeAssignment.overlapGroup).Nodup

theorem Progresses.durable {after : HttpRangeCoordinator setup} (sound : Sound c table)
    (followed : Progresses c table after) (durable : c.pieces piece = .durable) :
    after.pieces piece = .durable := by
  obtain ⟨next, steps, kept, -⟩ := followed
  rw [sound.owned.pieces, Holding.state_eq_durable] at durable
  rw [kept.owned.pieces, Holding.state_eq_durable]
  exact HoldingTable.durable_of_steps steps durable

/-- Identifiers from a bound on are not among those below it. -/
theorem nodup_append_of_lt {family : IdFamily} {old new : List (NonzeroId family)} (bound : U64)
    (distinct : old.Nodup) (fresh : new.Nodup) (below : ∀ id ∈ old, id.get < bound)
    (above : ∀ id ∈ new, bound ≤ id.get) : (old ++ new).Nodup :=
  distinct.append fresh fun id earlier later =>
    absurd (below id earlier) (not_lt.mpr (above id later))

theorem traced_of_run {history : List (Step (HttpRangeCoordinator setup) HttpRangeRequest
    (Except HttpRangeCoordinatorError HttpRangeReply))} {last : HttpRangeCoordinator setup}
    (run : (httpRangeMachine setup).Run (initial setup) history last) : Traced history last := by
  refine run.history (P := Traced) ?_ ?_
  · exact ⟨⟨_, Sound.initial setup⟩, by simp, by simp [assignments], by simp [assignments],
      by simp [assignments], by simp [assignments], by simp [assignments]⟩
  · intro history c request _ traced
    obtain ⟨table, sound⟩ := traced.sound
    obtain ⟨followed, hands⟩ := sound.next request
    have kept := followed
    obtain ⟨next, -, nextSound, leases, groups⟩ := kept
    have grown : assignments (history ++ [(httpRangeMachine setup).step c request]) =
        assignments history ++ (handedOut ((httpRangeMachine setup).next c request).1).toList := by
      cases new : handedOut ((httpRangeMachine setup).next c request).1 <;> simp [assignments, new]
    have every {P : HttpRangeAssignment → Prop} (earlier : ∀ a ∈ assignments history, P a)
        (new : ∀ a ∈ handedOut ((httpRangeMachine setup).next c request).1, P a) :
        ∀ a ∈ assignments (history ++ [(httpRangeMachine setup).step c request]), P a := by
      rw [grown]
      exact List.forall_mem_append.mpr ⟨earlier, fun a member => new a (mem_toList.mp member)⟩
    refine ⟨⟨next, nextSound⟩, ?_, ?_, ?_, ?_, ?_, ?_⟩
    · intro step taken
      rcases mem_snoc.mp taken with earlier | rfl
      · exact traced.durable step earlier
      · exact fun piece => followed.durable sound
    · exact every (fun a earlier => lt_of_lt_of_le (traced.lease_lt a earlier) leases)
        fun a new => (hands a new).lease.2
    · refine every (fun a earlier group grouped => ?_) fun a new group grouped => ?_
      · exact lt_of_lt_of_le (traced.group_lt a earlier group grouped) groups
      · exact ((hands a new).group group grouped).2
    · exact every traced.span fun a new => (hands a new).span
    · rw [grown, List.map_append]
      refine nodup_append_of_lt c.nextLease traced.leases ?_
        (List.forall_mem_map.mpr traced.lease_lt) ?_
      · cases handedOut ((httpRangeMachine setup).next c request).1 <;> simp
      · exact List.forall_mem_map.mpr fun latest new => (hands latest (mem_toList.mp new)).lease.1
    · rw [grown, List.filterMap_append]
      refine nodup_append_of_lt c.nextOverlapGroup traced.groups ?_ (fun group old => ?_)
        fun group issued => ?_
      · cases handedOut ((httpRangeMachine setup).next c request).1 with
        | none => simp
        | some latest => cases h : latest.overlapGroup <;> simp [h]
      · obtain ⟨assignment, earlier, grouped⟩ := List.mem_filterMap.mp old
        exact traced.group_lt assignment earlier group grouped
      · obtain ⟨latest, new, grouped⟩ := List.mem_filterMap.mp issued
        exact ((hands latest (mem_toList.mp new)).group group grouped).1

end Ariax
