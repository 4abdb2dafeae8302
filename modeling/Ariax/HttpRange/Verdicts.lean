import Ariax.HttpRange.Contract
import Mathlib.Algebra.Group.Fin.Basic

/-!
# What a poll says

The verdicts of `poll` against the state they are given in. A poll finds
ordinary work exactly when some piece and some ordinary source are ready. A
deadline it returns is the earliest of the live retry rows; these include
the rows of sources that take no ordinary work, for which nothing becomes
ready at the deadline.
-/

namespace Ariax

open List MirrorPair Option

variable {setup : HttpRangeSetup} {c : HttpRangeCoordinator setup} {table : HoldingTable setup}

namespace HttpRangeCoordinator

variable (c : HttpRangeCoordinator setup)

section

variable (nowMs : U64) (piece : setup.Piece) (source : setup.Source)

/-- A piece that an ordinary source may be given now. -/
def Ready : Prop :=
  c.attemptable piece = true ∧ (setup.source source).ordinaryAssignments = true ∧
    c.sourceAvailable piece source nowMs = true

def Waiting (deadline : U64) : Prop :=
  c.attemptable piece = true ∧ c.disabled source = false ∧
    (c.sourcePieceAttempts piece source).getD 0 < setup.config.maxAttemptsPerSource.val ∧
    c.sourcePieceRetryAt piece source = some deadline ∧ nowMs < deadline

end

/-- The verdicts of polls in one state, without other calls between them. -/
structure PollExact (nowMs : U64) : Prop where
  complete : (∃ after, poll nowMs c = .ok .complete after) ↔ ∀ piece, c.pieces piece = .durable
  exhausted : ∀ after, poll nowMs c = .ok .exhausted after →
    after = c ∧ c.active.size = 0 ∧ (∃ piece, c.pieces piece ≠ .durable) ∧
      ∀ later, nowMs ≤ later → ∀ assignment next,
        poll later after ≠ .ok (.assignment assignment) next
  retryAt : ∀ deadline after, poll nowMs c = .ok (.retryAt deadline) after →
    after = c ∧ nowMs < deadline ∧
      (∀ between, nowMs ≤ between → between < deadline → ∀ assignment next,
        poll between after ≠ .ok (.assignment assignment) next) ∧
      ∃ assignment next, poll deadline after = .ok (.assignment assignment) next

end HttpRangeCoordinator

open HttpRangeCoordinator

/-! ## The searches -/

theorem mem_map_add {n : ℕ} [NeZero n] (start : Fin n) (index : Fin n) :
    index ∈ (finRange n).map (start + ·) :=
  mem_map.mpr ⟨index - start, mem_finRange _, add_sub_cancel start index⟩

variable {nowMs : U64} {source : setup.Source}

theorem findAssignment_isSome :
    (c.findAssignment nowMs).isSome = true ↔ ∃ piece source, c.Ready nowMs piece source := by
  constructor
  · intro found
    obtain ⟨⟨piece, source⟩, found⟩ := isSome_iff_exists.mp found
    exact ⟨piece, source, findAssignment_eq_some found⟩
  · rintro ⟨piece, source, attemptable, ordinary, available⟩
    rw [findAssignment, findSome?_isSome_iff]
    refine ⟨piece, mem_filter.mpr ⟨mem_map_add c.nextPiece piece, attemptable⟩, ?_⟩
    rw [isSome_map, ← ne_none_iff_isSome, Ne, firstLeast_eq_none, filter_eq_nil_iff]
    intro none
    exact none source (mem_map_add c.nextSource source) (by rw [ordinary, available]; rfl)

variable {piece : setup.Piece} {deadline : U64}

theorem mem_deadlines :
    deadline ∈ (((finRange setup.pieceCount).filter c.attemptable).flatMap fun piece =>
      ((finRange setup.sources.length).filter fun source =>
        !c.disabled source && nowMs < (c.sourcePieceRetryAt piece source).getD 0 &&
          (c.sourcePieceAttempts piece source).getD 0 <
            setup.config.maxAttemptsPerSource.val).filterMap (c.sourcePieceRetryAt piece)) ↔
      ∃ piece source, c.Waiting nowMs piece source deadline := by
  simp only [mem_flatMap, mem_filter, mem_filterMap, mem_finRange, true_and,
    Bool.and_eq_true, Bool.not_eq_true', decide_eq_true_eq, Waiting]
  refine exists_congr fun piece => ?_
  constructor
  · rintro ⟨attemptable, source, ⟨⟨enabled, later⟩, spare⟩, row⟩
    rw [row, getD_some] at later
    exact ⟨source, attemptable, enabled, spare, row, later⟩
  · rintro ⟨source, attemptable, enabled, spare, row, later⟩
    refine ⟨attemptable, source, ⟨⟨enabled, ?_⟩, spare⟩, row⟩
    rwa [row, getD_some]

theorem nextRetryDeadline_eq_none : c.nextRetryDeadline nowMs = none ↔
      ∀ piece source deadline, ¬c.Waiting nowMs piece source deadline := by
  rw [nextRetryDeadline, min?_eq_none_iff, eq_nil_iff_forall_not_mem]
  simp only [mem_deadlines, not_exists]
  exact ⟨fun h piece source deadline => h deadline piece source, fun h deadline piece source =>
    h piece source deadline⟩

theorem nextRetryDeadline_eq_some : c.nextRetryDeadline nowMs = some deadline ↔
      (∃ piece source, c.Waiting nowMs piece source deadline) ∧
        ∀ piece source other, c.Waiting nowMs piece source other → deadline ≤ other := by
  rw [nextRetryDeadline, min?_eq_some_iff, mem_deadlines]
  refine and_congr_right fun _ => ?_
  simp only [mem_deadlines]
  exact ⟨fun h piece source other waiting => h other ⟨piece, source, waiting⟩,
    fun h other waiting => h _ _ other waiting.choose_spec.choose_spec⟩

/-! ## The cases of a poll -/

theorem poll_of_completed (completed : c.completedPieces = setup.pieceCount) :
    poll nowMs c = .ok .complete c := by
  simp only [poll, pollWithEndgame, get_bind_run, if_pos completed]
  rfl

theorem poll_of_found (unfinished : c.completedPieces ≠ setup.pieceCount)
    (room : c.active.size < setup.config.split)
    (found : c.findAssignment nowMs = some (piece, source)) :
    poll nowMs c = issueNormalAssignment piece source c := by
  simp only [poll, pollWithEndgame, get_bind_run, if_neg unfinished, if_pos room, found]

/-- The poll of a coordinator that finds no ordinary work and offers no endgame. -/
theorem poll_of_none (unfinished : c.completedPieces ≠ setup.pieceCount)
    (none : c.active.size < setup.config.split → c.findAssignment nowMs = none) :
    poll nowMs c = if c.active.size ≠ 0 then .ok .saturated c
      else .ok ((c.nextRetryDeadline nowMs).elim .exhausted .retryAt) c := by
  have ordinary : (if c.active.size < setup.config.split then c.findAssignment nowMs
      else Option.none) = Option.none := by
    split
    · rename_i room
      exact none room
    · rfl
  have endgame : c.findEndgameAssignment nowMs [] = Option.none := by
    simp [findEndgameAssignment]
  simp only [poll, pollWithEndgame, get_bind_run, if_neg unfinished, ordinary, endgame]
  split <;> rfl

/-- Nothing is active and nothing is ready, but there are pieces left. -/
structure HttpRangeCoordinator.Idle (c : HttpRangeCoordinator setup) (nowMs : U64) : Prop where
  unfinished : c.completedPieces ≠ setup.pieceCount
  inactive : c.active.size = 0
  unready : ∀ piece source, ¬c.Ready nowMs piece source

/-- The verdicts of a poll, with what each of them was given for. -/
inductive HttpRangeCoordinator.Polled (c : HttpRangeCoordinator setup) (nowMs : U64) :
    HttpRangePoll → HttpRangeCoordinator setup → Prop
  | complete (completed : c.completedPieces = setup.pieceCount) : Polled c nowMs .complete c
  | assignment {assignment : HttpRangeAssignment} {after : HttpRangeCoordinator setup}
      (ready : ∃ piece source, c.Ready nowMs piece source)
      (room : c.active.size < setup.config.split) (spare : c.nextLease.val + 1 < 2 ^ 64) :
      Polled c nowMs (.assignment assignment) after
  | saturated : Polled c nowMs .saturated c
  | exhausted (idle : c.Idle nowMs) (calm : c.nextRetryDeadline nowMs = none) :
      Polled c nowMs .exhausted c
  | retryAt {deadline : U64} (idle : c.Idle nowMs)
      (first : c.nextRetryDeadline nowMs = some deadline) : Polled c nowMs (.retryAt deadline) c

section

variable (sound : Sound c table)
include sound

theorem unfinished_of_attemptable (attemptable : c.attemptable piece = true) :
    c.completedPieces ≠ setup.pieceCount := by
  intro completed
  have durable := sound.tallied.completedPieces_eq_iff.mp completed piece
  simp [HttpRangeCoordinator.attemptable, durable] at attemptable

theorem polled_of_poll {verdict : HttpRangePoll} {after : HttpRangeCoordinator setup}
    (polled : poll nowMs c = .ok verdict after) : c.Polled nowMs verdict after := by
  by_cases completed : c.completedPieces = setup.pieceCount
  · rw [poll_of_completed completed] at polled
    cases polled
    exact .complete completed
  by_cases found : c.active.size < setup.config.split ∧ (c.findAssignment nowMs).isSome = true
  · obtain ⟨room, found⟩ := found
    have ready := findAssignment_isSome.mp found
    obtain ⟨⟨piece, source⟩, found⟩ := isSome_iff_exists.mp found
    obtain ⟨attemptable, -, available⟩ := findAssignment_eq_some found
    rw [poll_of_found completed room found] at polled
    obtain ⟨-, spare, assignment, rfl⟩ :=
      (wp_issueNormalAssignment sound attemptable room available).1 verdict after polled
    exact .assignment ready room spare
  rw [poll_of_none completed fun room => by simpa [room] using found] at polled
  split at polled
  · cases polled
    exact .saturated
  · rename_i none
    have size : c.active.size = 0 := not_not.mp none
    have idle : c.Idle nowMs := by
      refine ⟨completed, size, fun piece source ready => found ⟨?_, ?_⟩⟩
      · rw [size]
        exact setup.config.split.pos
      · exact findAssignment_isSome.mpr ⟨piece, source, ready⟩
    cases first : c.nextRetryDeadline nowMs with
    | none =>
      rw [first] at polled
      cases polled
      exact .exhausted idle first
    | some =>
      rw [first] at polled
      cases polled
      exact .retryAt idle first

/-- A poll returns ordinary work exactly when a piece and a source are ready, there is room for
another lease and an identifier for it. -/
theorem poll_eq_assignment :
    (∃ assignment after, poll nowMs c = .ok (.assignment assignment) after) ↔
      (∃ piece source, c.Ready nowMs piece source) ∧ c.active.size < setup.config.split ∧
        c.nextLease.val + 1 < 2 ^ 64 := by
  constructor
  · rintro ⟨assignment, after, polled⟩
    cases polled_of_poll sound polled with
    | assignment ready room spare => exact ⟨ready, room, spare⟩
  · rintro ⟨⟨piece, source, ready⟩, room, spare⟩
    have found := findAssignment_isSome.mpr ⟨piece, source, ready⟩
    obtain ⟨⟨first, chosen⟩, found⟩ := isSome_iff_exists.mp found
    rw [poll_of_found (unfinished_of_attemptable sound ready.1) room found]
    obtain ⟨attemptable, -, available⟩ := findAssignment_eq_some found
    have outcome := wp_issueNormalAssignment sound attemptable room available
    cases issued : issueNormalAssignment first chosen c with
    | ok poll after =>
      obtain ⟨-, -, assignment, rfl⟩ := outcome.1 poll after issued
      exact ⟨assignment, after, rfl⟩
    | error error after => exact absurd spare (outcome.2 error after issued).2

theorem poll_eq_complete :
    (∃ after, poll nowMs c = .ok .complete after) ↔ ∀ piece, c.pieces piece = .durable := by
  rw [← sound.tallied.completedPieces_eq_iff]
  constructor
  · rintro ⟨after, polled⟩
    cases polled_of_poll sound polled with
    | complete completed => exact completed
  · intro completed
    exact ⟨c, poll_of_completed completed⟩

/-! ## Time passing -/

theorem concurrent_of_idle (idle : c.active.size = 0) (source : setup.Source) :
    c.concurrent source = 0 := by
  rw [concurrent, sound.counted.origins, counter_getD, leasesOn]
  rw [← OrderedMap.length_valuesInOrder, length_eq_zero_iff] at idle
  rw [idle, countP_nil]

end

theorem waiting_of_ready {later : U64} (ready : c.Ready later piece source)
    (unready : ¬c.Ready nowMs piece source) :
    ∃ deadline ≤ later, c.Waiting nowMs piece source deadline := by
  obtain ⟨attemptable, ordinary, available⟩ := ready
  obtain ⟨enabled, due, spare, below⟩ := sourceAvailable_iff.mp available
  have late : nowMs < (c.sourcePieceRetryAt piece source).getD 0 := by
    by_contra early
    exact unready ⟨attemptable, ordinary,
      sourceAvailable_iff.mpr ⟨enabled, not_lt.mp early, spare, below⟩⟩
  cases row : c.sourcePieceRetryAt piece source with
  | none =>
    rw [row] at late
    exact absurd late (Fin.not_lt_zero _)
  | some deadline =>
    rw [row, getD_some] at late due
    exact ⟨deadline, due, attemptable, enabled, spare, row, late⟩

/-- A waiting row of an ordinary source makes its piece ready when it comes due. -/
theorem ready_of_waiting (sound : Sound c table) {later : U64} (idle : c.active.size = 0)
    (waiting : c.Waiting nowMs piece source deadline)
    (ordinary : (setup.source source).ordinaryAssignments = true) (due : deadline ≤ later) :
    c.Ready later piece source := by
  obtain ⟨attemptable, enabled, spare, row, -⟩ := waiting
  refine ⟨attemptable, ordinary, sourceAvailable_iff.mpr ⟨enabled, ?_, spare, ?_⟩⟩
  · rwa [row, getD_some]
  · rw [concurrent_of_idle sound idle]
    exact setup.config.maxConnectionsPerOrigin.pos

/-- When nothing is active and nothing is ready, an ordinary source is among those whose retry
rows come due first, and there is an identifier for its lease. -/
def HttpRangeCoordinator.Prompt (c : HttpRangeCoordinator setup) (nowMs : U64) : Prop :=
  c.active.size = 0 → (∀ piece source, ¬c.Ready nowMs piece source) →
    ∀ piece source deadline, c.Waiting nowMs piece source deadline →
      (∃ other ordinary earlier, c.Waiting nowMs other ordinary earlier ∧
        (setup.source ordinary).ordinaryAssignments = true ∧ earlier ≤ deadline) ∧
      c.nextLease.val + 1 < 2 ^ 64

/-- The verdicts of polls are exact in a sound state that is prompt, and only there. -/
theorem Sound.pollExact_iff (sound : Sound c table) (nowMs : U64) :
    c.PollExact nowMs ↔ c.Prompt nowMs := by
  have room (idle : c.active.size = 0) : c.active.size < setup.config.split := by
    rw [idle]
    exact setup.config.split.pos
  constructor
  · intro exact idle unready piece source deadline waiting
    have unfinished := unfinished_of_attemptable sound waiting.1
    have none : c.findAssignment nowMs = none := by
      rw [← not_isSome_iff_eq_none, findAssignment_isSome]
      rintro ⟨piece, source, ready⟩
      exact unready piece source ready
    have polled := poll_of_none unfinished fun _ => none
    rw [if_neg (not_not.mpr idle)] at polled
    cases first : c.nextRetryDeadline nowMs with
    | none => exact absurd waiting (nextRetryDeadline_eq_none.mp first piece source deadline)
    | some earliest =>
      rw [first] at polled
      obtain ⟨-, -, -, assigned⟩ := exact.retryAt earliest c polled
      obtain ⟨⟨other, ordinary, ready⟩, -, spare⟩ := (poll_eq_assignment sound).mp assigned
      obtain ⟨earlier, due, row⟩ := waiting_of_ready ready (unready other ordinary)
      exact ⟨⟨other, ordinary, earlier, row, ready.2.1,
        due.trans ((nextRetryDeadline_eq_some.mp first).2 piece source deadline waiting)⟩, spare⟩
  · intro prompt
    refine ⟨poll_eq_complete sound, ?_, ?_⟩
    · intro after polled
      cases polled_of_poll sound polled with
      | exhausted idle calm =>
        obtain ⟨unfinished, idle, unready⟩ := idle
        refine ⟨rfl, idle, ?_, ?_⟩
        · by_contra durable
          push Not at durable
          exact unfinished (sound.tallied.completedPieces_eq_iff.mpr durable)
        · intro later _ assignment next assigned
          obtain ⟨⟨piece, source, ready⟩, -⟩ := (poll_eq_assignment sound).mp ⟨_, _, assigned⟩
          obtain ⟨deadline, -, row⟩ := waiting_of_ready ready (unready piece source)
          exact nextRetryDeadline_eq_none.mp calm piece source deadline row
    · intro deadline after polled
      obtain ⟨rfl, ⟨-, idle, unready⟩, first⟩ : after = c ∧ c.Idle nowMs ∧
          c.nextRetryDeadline nowMs = some deadline := by
        cases polled_of_poll sound polled with
        | retryAt idle first => exact ⟨rfl, idle, first⟩
      obtain ⟨⟨piece, source, row⟩, least⟩ := nextRetryDeadline_eq_some.mp first
      obtain ⟨⟨other, ordinary, earlier, otherRow, takes, early⟩, spare⟩ :=
        prompt idle unready piece source deadline row
      refine ⟨rfl, row.2.2.2.2, ?_, ?_⟩
      · intro between _ before assignment next assigned
        obtain ⟨⟨piece, source, ready⟩, -⟩ := (poll_eq_assignment sound).mp ⟨_, _, assigned⟩
        obtain ⟨sooner, due, row⟩ := waiting_of_ready ready (unready piece source)
        exact absurd (least piece source sooner row) (not_le.mpr (lt_of_le_of_lt due before))
      · refine (poll_eq_assignment sound).mpr ⟨⟨other, ordinary, ?_⟩, room idle, spare⟩
        exact ready_of_waiting sound idle otherRow takes early

/-- In every state a coordinator can be brought into, the verdicts of polls are exact if and
only if the state is prompt. -/
theorem httpRange_pollExact_iff {config : HttpRangeCoordinatorConfig}
    {sources : List HttpRangeSource} {setup : HttpRangeSetup} {start : HttpRangeCoordinator setup}
    (accepted : newTransfer config sources = .ok ⟨setup, start⟩)
    {history : List (Step (HttpRangeCoordinator setup) HttpRangeRequest
      (Except HttpRangeCoordinatorError HttpRangeReply))}
    {last : HttpRangeCoordinator setup}
    (run : (httpRangeMachine setup).Run start history last) (nowMs : U64) :
    last.PollExact nowMs ↔ last.Prompt nowMs := by
  obtain ⟨-, rfl⟩ := newTransfer_eq_ok accepted
  obtain ⟨table, sound⟩ := (traced_of_run run).sound
  exact sound.pollExact_iff nowMs

namespace MirrorPair

/-- The ordinary mirror is disabled and the other one is to be retried. -/
def requests : List HttpRangeRequest :=
  [.recordReleasedFailure ⟨0⟩ ⟨0⟩ .disableSource, .recordReleasedFailure ⟨0⟩ ⟨1⟩ (.retryAt 100)]

def state : HttpRangeCoordinator mirrors :=
  (httpRangeMachine mirrors).final (initial mirrors) requests

/-- The ordinary mirror is to be retried for every piece. -/
def ordinaryRequests : List HttpRangeRequest :=
  [.recordReleasedFailure ⟨0⟩ ⟨0⟩ (.retryAt 100), .recordReleasedFailure ⟨1⟩ ⟨0⟩ (.retryAt 200),
    .recordReleasedFailure ⟨2⟩ ⟨0⟩ (.retryAt 300)]

theorem ordinary_of_isSome : ∀ (piece : mirrors.Piece) (source : mirrors.Source),
    (((httpRangeMachine mirrors).final (initial mirrors) ordinaryRequests).sourcePieceRetryAt
      piece source).isSome = true → (mirrors.source source).ordinaryAssignments = true := by
  decide

end MirrorPair

/-- A poll names a deadline at which the next poll gives up: the retry row belongs to a source
that takes no ordinary work. -/
theorem httpRange_poll_endgameOnly : newTransfer config sources =
        .ok ⟨mirrors, initial mirrors⟩ ∧
      (httpRangeMachine mirrors).Run (initial mirrors)
        ((httpRangeMachine mirrors).trace (initial mirrors) requests)
        state ∧
      poll 0 state = .ok (.retryAt 100) state ∧
      poll 100 state = .ok .exhausted state ∧
      ¬state.PollExact 0 := by
  have first : poll 0 state = .ok (.retryAt 100) state := by rfl
  have second : poll 100 state = .ok .exhausted state := by rfl
  refine ⟨newTransfer_eq, Machine.run_trace _ _, first, second, fun exact => ?_⟩
  obtain ⟨-, -, -, assignment, next, assigned⟩ := exact.retryAt 100 _ first
  cases assigned

/-- A prompt state: the ordinary mirror itself is to be retried for every piece. -/
theorem httpRange_pollExact_ordinary : ((httpRangeMachine mirrors).final (initial mirrors)
      ordinaryRequests).PollExact 0 := by
  refine (httpRange_pollExact_iff newTransfer_eq (Machine.run_trace _ _) 0).mpr ?_
  intro _ _ piece source deadline waiting
  refine ⟨⟨piece, source, deadline, waiting, ?_, le_rfl⟩, by decide⟩
  have stored := isSome_iff_exists.mpr ⟨deadline, waiting.2.2.2.1⟩
  exact ordinary_of_isSome piece source stored

end Ariax
