import Ariax.Journal.Appender
import Ariax.Journal.SegmentLoop

/-!
# Crash consistency

The histories of a journal: records are appended, segments are rotated, and at
any time the last segment may be cut at a byte position and the journal opened
again from what is left. Whatever the history, replay returns the records whose
encodings lie before the cut, and the journal that is opened from them holds
just those.
-/

namespace Ariax

open Except List SegmentContent SegmentHeader

/-! ## Headers of new segments -/

section Headers

variable {header next : SegmentHeader} {lastSequence createdAtUnixMs : U64} {hash : SegmentHash}
  {startingGeneration : Generation}

theorem SegmentHeader.succeeds_of_successor
    (h : header.successor lastSequence hash startingGeneration createdAtUnixMs = .ok next) :
    header.firstSequence ≤ lastSequence ∧ next.Succeeds header lastSequence hash := by
  simp only [successor, bind_eq_ok, rejectIf_eq_ok, okOr_eq_ok, checkedSucc_eq_some,
    pure_eq, ok.injEq, not_lt] at h
  obtain ⟨-, nonempty, index, indexed, first, numbered, rfl⟩ := h
  exact ⟨nonempty, rfl, rfl, indexed, numbered, rfl, rfl⟩

theorem SegmentHeader.succeeds_of_recoverySuccessor
    (h : header.recoverySuccessor lastSequence hash startingGeneration createdAtUnixMs =
      .ok next) :
    next.Succeeds header lastSequence hash := by
  simp only [recoverySuccessor, bind_eq_ok, rejectIf_eq_ok, okOr_eq_ok,
    checkedSucc_eq_some, pure_eq, ok.injEq] at h
  obtain ⟨-, -, index, indexed, first, numbered, rfl⟩ := h
  exact ⟨rfl, rfl, indexed, numbered, rfl, rfl⟩

end Headers

/-! ## Writing -/

section Writing

variable (digests : Digests)

/-- A journal that holds a chain, the last segment of which is being written. -/
structure Journal.Holds (journal : Journal) (contents : List SegmentContent)
    (segment : SegmentContent) : Prop where
  linked : Linked digests (contents ++ [segment])
  installed : journal.installed = contents.map (·.bytes digests)
  header : journal.active.header = segment.header
  bytes : journal.active.bytes = segment.bytes digests
  next : journal.active.nextSequence.val = (recordsOf (contents ++ [segment])).length + 1

namespace Journal.Holds

theorem first (taskGid : Gid) (journalId : JournalId) (startingGeneration : Generation)
    (createdAtUnixMs : U64) :
    (Journal.first digests taskGid journalId startingGeneration createdAtUnixMs).Holds digests []
      ⟨.first taskGid journalId startingGeneration createdAtUnixMs, []⟩ := by
  refine ⟨.first digests taskGid journalId startingGeneration createdAtUnixMs, rfl, rfl, ?_, rfl⟩
  simp [Journal.first, SegmentEncoder.first, SegmentEncoder.fromHeader, SegmentContent.bytes]

variable {digests} {journal next : Journal} {contents : List SegmentContent}
  {segment : SegmentContent}

/-- A journal goes on with an empty segment under a header that succeeds its last one. -/
theorem succeed (nonzero : ∀ bytes, digests.sha256 bytes ≠ Vector.replicate 32 0)
    (linked : Linked digests (contents ++ [segment])) {header : SegmentHeader}
    {lastSequence : U64} (last : lastSequence.val = (recordsOf (contents ++ [segment])).length)
    (recorded : lastSequence ≠ 0)
    (succeeds : header.Succeeds segment.header lastSequence (hashSegment digests (segment.bytes
      digests))) :
    Journal.Holds digests
      ⟨(contents ++ [segment]).map (·.bytes digests), .fromHeader digests header⟩
      (contents ++ [segment]) ⟨header, []⟩ := by
  refine ⟨linked.succeed nonzero last recorded succeeds, rfl, rfl, ?_, ?_⟩
  · simp [SegmentEncoder.fromHeader, SegmentContent.bytes]
  · rw [recordsOf_snoc_empty, ← last]
    exact succeeds.first

variable (holds : journal.Holds digests contents segment)
include holds

theorem append {recordType : RecordType} {generation : Generation} {payload : Bytes}
    {sequence : U64}
    (h : journal.append digests recordType generation payload = .ok (sequence, next)) :
    next.Holds digests contents ⟨segment.header,
      segment.records ++ [⟨recordType, generation, sequence, payload⟩]⟩ := by
  simp only [Journal.append, SegmentEncoder.append, bind_eq_ok, rejectIf_eq_ok, okOr_eq_ok,
    pure_eq, ok.injEq, Prod.mk.injEq, Prod.exists, not_lt] at h
  obtain ⟨_, _, ⟨-, fresh, -, small, nextSequence, succeeds, bytes, encoded, rfl, rfl⟩, rfl, rfl⟩ :=
    h
  have fits : JournalRecord.Fits ⟨recordType, generation, journal.active.nextSequence, payload⟩
      segment.header.startingGeneration := ⟨small, holds.header ▸ fresh⟩
  rw [JournalRecord.encode_of_payload digests fits.small] at encoded
  obtain rfl := ok.inj encoded
  have continues := holds.linked.continues
  have counted := holds.next
  rw [recordsOf_snoc, length_append] at counted
  constructor
  case linked =>
    refine holds.linked.withRecords (numbered_append.mpr ⟨continues.numbered, ?_⟩) ?_
    · rw [numbered_singleton, counted]
      omega
    · exact forall_mem_append.mpr ⟨continues.fits, forall_mem_singleton.mpr fits⟩
  case installed => exact holds.installed
  case header => exact holds.header
  case bytes =>
    rw [bytes_snoc]
    exact congrArg (· ++ _) holds.bytes
  case next =>
    rw [checkedSucc_eq_some.mp succeeds, counted, recordsOf_snoc]
    simp only [length_append, length_singleton]
    omega

theorem lastSequence : (journal.active.finish digests).lastSequence.val =
      (recordsOf (contents ++ [segment])).length := by
  have positive : journal.active.nextSequence ≠ 0 := by
    rw [Ne, Fin.ext_iff, holds.next]
    exact Nat.succ_ne_zero _
  rw [SegmentEncoder.finish, Fin.val_sub_one_of_ne_zero positive, holds.next]
  omega

theorem rotate (nonzero : ∀ bytes, digests.sha256 bytes ≠ Vector.replicate 32 0)
    {startingGeneration : Generation} {createdAtUnixMs : U64}
    (h : journal.rotate digests startingGeneration createdAtUnixMs = .ok next) :
    ∃ header, next.Holds digests (contents ++ [segment]) ⟨header, []⟩ := by
  simp only [Journal.rotate, EncodedSegment.rotate, bind_eq_ok, pure_eq, ok.injEq] at h
  obtain ⟨_, ⟨header, successor, rfl⟩, rfl⟩ := h
  obtain ⟨nonempty, succeeds⟩ := succeeds_of_successor successor
  have recorded : (journal.active.finish digests).lastSequence ≠ 0 := by
    have started := holds.linked.continues.follows.first
    rw [Fin.le_def, show (journal.active.finish digests).header = _ from holds.header, started]
      at nonempty
    rw [Ne, Fin.ext_iff]
    exact (Nat.lt_of_lt_of_le (Nat.succ_pos _) nonempty).ne'
  have finished : (journal.active.finish digests).bytes = segment.bytes digests := holds.bytes
  have linkage : header.Succeeds segment.header (journal.active.finish digests).lastSequence
      (hashSegment digests (segment.bytes digests)) := by
    rw [← holds.header, ← holds.bytes]
    exact succeeds
  refine ⟨header, ?_⟩
  have continued := succeed nonzero holds.linked holds.lastSequence recorded linkage
  rw [finished, holds.installed]
  rwa [map_append, map_singleton] at continued

end Journal.Holds

end Writing

/-! ## Cutting -/

section Cutting

variable (digests : Digests)

/-- The records whose encodings lie wholly within the first bytes of their encodings. -/
def wholeBefore (room : ℕ) : List JournalRecord → List JournalRecord
  | [] => []
  | record :: records =>
    if (record.encoding digests).length ≤ room then
      record :: wholeBefore (room - (record.encoding digests).length) records
    else []

/-- A position among encoded records at which one of them ends, or the first begins. -/
def RecordBoundary (records : List JournalRecord) (room : ℕ) : Prop :=
  ∃ count, room = (encodings digests (records.take count)).length

/-- A position within the encoding of a record. -/
structure TornRecord (records kept : List JournalRecord) (room : ℕ) (record : JournalRecord)
    (length : ℕ) : Prop where
  follows : kept ++ [record] <+: records
  nonempty : 0 < length
  torn : length < (record.encoding digests).length
  room : room = (encodings digests kept).length + length

variable {digests} {records : List JournalRecord} {room : ℕ}

theorem wholeBefore_take (count : ℕ) :
    wholeBefore digests (encodings digests (records.take count)).length records =
      records.take count := by
  induction records generalizing count with
  | nil => rw [take_nil, wholeBefore]
  | cons record _ ih =>
    cases count with
    | zero =>
      have positive : ¬(record.encoding digests).length ≤ 0 := by
        rw [JournalRecord.length_encoding, recordOverhead]
        omega
      rw [take_zero, encodings_nil, length_nil, wholeBefore, if_neg positive]
    | succ =>
      rw [take_succ_cons, encodings_cons, length_append, wholeBefore,
        if_pos (Nat.le_add_right _ _), Nat.add_sub_cancel_left, ih]

/-- A position is the end of the records that lie before it, or it is within
the next record. -/
theorem wholeBefore_cases (inside : room ≤ (encodings digests records).length) :
    wholeBefore digests room records <+: records ∧
      (room = (encodings digests (wholeBefore digests room records)).length ∨
        ∃ record length,
          TornRecord digests records (wholeBefore digests room records) room record length) := by
  induction records generalizing room with
  | nil =>
    rw [encodings_nil, length_nil, Nat.le_zero] at inside
    exact ⟨prefix_rfl, .inl inside⟩
  | cons record records ih =>
    rw [encodings_cons, length_append] at inside
    rw [wholeBefore]
    split
    · obtain ⟨initial, boundary | ⟨next, length, torn⟩⟩ :=
        @ih (room - (record.encoding digests).length) (by omega)
      · refine ⟨(prefix_cons_inj _).mpr initial, .inl ?_⟩
        rw [encodings_cons, length_append, ← boundary]
        omega
      · refine ⟨(prefix_cons_inj _).mpr initial,
          .inr ⟨next, length, ?_, torn.nonempty, torn.torn, ?_⟩⟩
        · exact (prefix_cons_inj _).mpr torn.follows
        · rw [encodings_cons, length_append, Nat.add_assoc, ← torn.room]
          omega
    · rename_i torn
      refine .intro nil_prefix ?_
      rcases Nat.eq_zero_or_pos room with none | some
      · exact .inl none
      · refine .inr ⟨record, room, ?_, some, Nat.not_le.mp torn, (Nat.zero_add room).symm⟩
        exact ⟨records, rfl⟩

theorem recordBoundary_iff (inside : room ≤ (encodings digests records).length) :
    RecordBoundary digests records room ↔
      room = (encodings digests (wholeBefore digests room records)).length := by
  constructor
  · rintro ⟨count, rfl⟩
    rw [wholeBefore_take]
  · intro ends
    obtain ⟨initial, -⟩ := wholeBefore_cases inside
    refine ⟨(wholeBefore digests room records).length, ?_⟩
    rwa [← prefix_iff_eq_take.mp initial]

theorem take_encodings_of_boundary
    (ends : room = (encodings digests (wholeBefore digests room records)).length)
    (initial : wholeBefore digests room records <+: records) :
    (encodings digests records).take room =
      encodings digests (wholeBefore digests room records) := by
  obtain ⟨rest, whole⟩ := initial
  have split : encodings digests records =
      encodings digests (wholeBefore digests room records) ++ encodings digests rest := by
    rw [← encodings_append, whole]
  rw [split, take_left' ends.symm]

theorem TornRecord.take_encodings {kept : List JournalRecord} {record : JournalRecord} {length : ℕ}
    (torn : TornRecord digests records kept room record length) :
    (encodings digests records).take room =
      encodings digests kept ++ (record.encoding digests).take length := by
  obtain ⟨rest, rfl⟩ := torn.follows
  rw [torn.room, append_assoc, encodings_append, encodings_append, take_length_add_append,
    encodings_cons, encodings_nil, append_nil, take_append_of_le_length torn.torn.le]

end Cutting

section Replaying

variable {digests : Digests} {limits : ReplayLimits} {journal : Journal}
  {contents : List SegmentContent} {segment : SegmentContent} {kept : List JournalRecord}

theorem Linked.keep (linked : Linked digests (contents ++ [segment]))
    (initial : kept <+: segment.records) :
    Linked digests (contents ++ [⟨segment.header, kept⟩]) := by
  have continues := linked.continues
  obtain ⟨lost, whole⟩ := initial
  have numbered := continues.numbered
  rw [← whole, numbered_append] at numbered
  exact linked.withRecords numbered.1 fun record member =>
    continues.fits record (whole ▸ mem_append_left lost member)

theorem ReplayLimits.Admit.keep (admitted : limits.Admit (contents ++ [segment]))
    (initial : kept <+: segment.records) :
    limits.Admit (contents ++ [⟨segment.header, kept⟩]) := by
  refine admitted.mono (by simp) ?_
  rw [recordsOf_snoc, recordsOf_snoc]
  exact (prefix_append_right_inj _).mpr initial

theorem Journal.Holds.cutAt (holds : journal.Holds digests contents segment) {position : ℕ}
    (inside : segmentHeaderLen ≤ position) :
    journal.cutAt position = contents.map (·.bytes digests) ++ [segment.header.encode digests ++
      (encodings digests segment.records).take (position - segmentHeaderLen)] := by
  have header := segment.header.length_encode digests
  rw [Journal.cutAt, holds.installed, holds.bytes, SegmentContent.bytes, take_append, header,
    take_of_length_le (header.le.trans inside)]

/-- What is left of a journal whose last segment is cut, and where replay of it stops. -/
inductive CutReplay (digests : Digests) (contents : List SegmentContent) (segment : SegmentContent)
    (kept : List JournalRecord) (room : ℕ) (segments : List Bytes) (stop : ReplayStop) : Prop
  | boundary (ends : RecordBoundary digests segment.records room)
      (bytes : segments =
        (contents ++ [(⟨segment.header, kept⟩ : SegmentContent)]).map (·.bytes digests))
      (stopped : stop = chainEnd (contents.length + 1))
  | torn (within : ¬RecordBoundary digests segment.records room) {rest : Bytes}
      (nonempty : rest ≠ []) (bytes : segments = contents.map (·.bytes digests) ++
        [SegmentContent.bytes digests ⟨segment.header, kept⟩ ++ rest])
      {reason : RecordStopReason} (repairable : repairableRecoveryTail reason = true)
      (stopped : stop = .record segment.header.segmentIndex
        (SegmentContent.bytes digests ⟨segment.header, kept⟩).length reason)

theorem Journal.Holds.replay_cut (holds : journal.Holds digests contents segment)
    (admitted : limits.Admit (contents ++ [segment])) {position : ℕ}
    (inside : segmentHeaderLen ≤ position) (within : position ≤ journal.active.bytes.length) :
    let kept := wholeBefore digests (position - segmentHeaderLen) segment.records
    let replay := replayOrderedSegments digests limits (journal.cutAt position)
    replay.Holds digests limits (contents ++ [⟨segment.header, kept⟩]) ∧
      CutReplay digests contents segment kept (position - segmentHeaderLen)
        (journal.cutAt position) replay.stop := by
  intro kept replay
  have room : position - segmentHeaderLen ≤ (encodings digests segment.records).length := by
    rw [holds.bytes, length_bytes] at within
    omega
  have indexed : contents.length < 2 ^ 32 := by
    rw [← holds.linked.continues.follows.index]
    exact segment.header.segmentIndex.isLt
  obtain ⟨initial, cases⟩ := wholeBefore_cases room
  have linked := holds.linked.keep initial
  have admits := admitted.keep initial
  rcases cases with ends | ⟨record, length, torn⟩
  · have bytes : journal.cutAt position =
        (contents ++ [(⟨segment.header, kept⟩ : SegmentContent)]).map (·.bytes digests) := by
      rw [holds.cutAt inside, take_encodings_of_boundary ends initial, map_append]
      rfl
    have read := replayOrderedSegments_of_linked linked admits
    rw [← bytes] at read
    exact ⟨read.1, .boundary ((recordBoundary_iff room).mpr ends) bytes read.2⟩
  · have continues := holds.linked.continues
    obtain ⟨lost, whole⟩ := torn.follows
    have fits : record.Fits segment.header.startingGeneration :=
      continues.fits record (by rw [← whole]; simp)
    have number : record.sequence.val =
        (recordsOf (contents ++ [⟨segment.header, kept⟩])).length + 1 := by
      have numbered := continues.numbered
      rw [← whole, numbered_append, numbered_append, numbered_singleton] at numbered
      rw [recordsOf_snoc, length_append, numbered.1.2]
      dsimp only [kept]
      omega
    have spare : (recordsOf (contents ++ [⟨segment.header, kept⟩])).length <
        limits.maxRecords.val := by
      have records := admitted.records
      rw [recordsOf_snoc, ← whole] at records
      simp only [length_append, length_singleton] at records
      rw [recordsOf_snoc, length_append]
      dsimp only [kept]
      omega
    obtain ⟨reason, stopped, repairable⟩ := record.decodeRecord_torn digests fits torn.torn
    have nonempty : (record.encoding digests).take length ≠ [] := by
      rw [← length_pos_iff, length_take]
      exact lt_min torn.nonempty (torn.nonempty.trans torn.torn)
    have bytes : journal.cutAt position = contents.map (·.bytes digests) ++
        [SegmentContent.bytes digests ⟨segment.header, kept⟩ ++
          (record.encoding digests).take length] := by
      rw [holds.cutAt inside, torn.take_encodings, ← append_assoc]
      rfl
    have unaligned : ¬RecordBoundary digests segment.records (position - segmentHeaderLen) := by
      rw [recordBoundary_iff room]
      have here := torn.room
      have past := torn.nonempty
      omega
    have read := replayOrderedSegments_of_torn linked admits indexed spare nonempty number stopped
    rw [← bytes] at read
    exact ⟨read.1, .torn unaligned nonempty bytes repairable read.2⟩

end Replaying

/-! ## Reopening -/

variable {digests : Digests} {limits : ReplayLimits} {contents : List SegmentContent}
  {segment : SegmentContent} {prepared : PreparedJournalSet} {next : Journal}

theorem PreparedJournalSet.activeBytes_of_segments {earlier : List Bytes} {active : Bytes}
    (bytes : prepared.segmentBytes = earlier ++ [active]) : prepared.activeBytes = active := by
  rw [activeBytes, bytes, getLast?_concat, Option.getD_some]

variable (linked : Linked digests (contents ++ [segment]))
include linked

theorem Linked.decode_active (rest : Bytes) :
    decode digests (segment.bytes digests ++ rest) = .ok segment.header := by
  rw [bytes, append_assoc]
  exact decode_encode digests linked.continues.linked _

/-- The last header of a chain of segments follows at least one record, unless
it is the first. -/
theorem Linked.records_ne_nil (index : segment.header.segmentIndex ≠ 0) :
    (recordsOf contents).length ≠ 0 := by
  have continues := linked.continues
  have earlier : contents ≠ [] := by
    rintro rfl
    exact index (Fin.ext continues.follows.index)
  rw [← continues.follows.previousLast earlier]
  exact fun none => continues.linked.previousLast_ne_zero index (Fin.ext none)

/-- A chain with records is succeeded after a repair, unless it has the last index. -/
theorem Linked.recoverySuccessor {lastSequence : U64}
    (last : lastSequence.val = (recordsOf (contents ++ [segment])).length)
    (sequences : (recordsOf (contents ++ [segment])).length + 1 < 2 ^ 64)
    (indexed : contents.length + 1 < 2 ^ 32)
    (continued : ¬(segment.header.segmentIndex = 0 ∧ lastSequence = 0)) (hash : SegmentHash)
    (startingGeneration : Generation) (createdAtUnixMs : U64) :
    ∃ header, segment.header.recoverySuccessor lastSequence hash startingGeneration
      createdAtUnixMs = .ok header := by
  have follows := linked.continues.follows
  have counted := last
  rw [recordsOf_snoc, length_append] at counted
  have permitted : ¬(lastSequence < segment.header.firstSequence ∧
      (segment.header.segmentIndex = 0 ∨
        checkedSucc lastSequence ≠ some segment.header.firstSequence)) := by
    rintro ⟨empty, unlinked⟩
    rw [Fin.lt_def, follows.first, counted] at empty
    rcases unlinked with index | unlinked
    · have none : contents.length = 0 := by
        rw [← follows.index, index]
        rfl
      rw [length_eq_zero_iff] at none
      subst none
      refine continued ⟨index, Fin.ext ?_⟩
      rw [counted]
      simp only [recordsOf_nil, length_nil, Fin.val_zero] at empty ⊢
      omega
    · refine unlinked (checkedSucc_eq_some.mpr ?_)
      rw [follows.first, counted]
      omega
  obtain ⟨index, indexed⟩ := exists_checkedSucc (follows.index ▸ indexed)
  obtain ⟨first, numbered⟩ := exists_checkedSucc (last ▸ sequences)
  rw [SegmentHeader.recoverySuccessor, rejectIf_of_not permitted, indexed, numbered]
  exact ⟨_, rfl⟩

namespace PreparedJournalSet

theorem holds_of_openClean
    (bytes : prepared.segmentBytes = contents.map (·.bytes digests) ++ [segment.bytes digests])
    (last : prepared.replay.lastSequence.val = (recordsOf (contents ++ [segment])).length)
    (h : prepared.openClean digests = .ok next) : next.Holds digests contents segment := by
  have active := activeBytes_of_segments bytes
  have decoded := linked.decode_active []
  rw [append_nil] at decoded
  simp only [openClean, activeHeader, active, decoded, mapError_eq_ok, bind_eq_ok,
    okOr_eq_ok, pure_eq, ok.injEq] at h
  obtain ⟨_, rfl, _, -, sequence, succeeds, rfl⟩ := h
  refine ⟨linked, ?_, rfl, rfl, ?_⟩
  · rw [bytes, dropLast_concat]
  · rw [checkedSucc_eq_some.mp succeeds, last]

variable {torn : Bytes} (bytes : prepared.segmentBytes =
  contents.map (·.bytes digests) ++ [segment.bytes digests ++ torn])
include bytes

/-- A set with a torn tail is opened as the chain before the tear, or goes on
with a segment after it. -/
theorem holds_of_openRepaired (nonzero : ∀ bytes, digests.sha256 bytes ≠ Vector.replicate 32 0)
    (last : prepared.replay.lastSequence.val = (recordsOf (contents ++ [segment])).length)
    {startingGeneration : Generation} {createdAtUnixMs : U64}
    (h : prepared.openRepaired digests (segment.bytes digests).length startingGeneration
      createdAtUnixMs = .ok next) :
    ∃ contents' segment', next.Holds digests contents' segment' ∧
      recordsOf (contents' ++ [segment']) = recordsOf (contents ++ [segment]) := by
  have active := activeBytes_of_segments bytes
  have truncated : (prepared.truncate (segment.bytes digests).length).segmentBytes =
      contents.map (·.bytes digests) ++ [segment.bytes digests] := by
    rw [truncate, active, take_left, bytes, dropLast_concat]
  simp only [openRepaired, activeHeader, active, linked.decode_active, mapError_eq_ok,
    bind_eq_ok, rejectIf_eq_ok, take_left, ok.injEq] at h
  obtain ⟨_, -, _, rfl, h⟩ := h
  split at h
  · exact ⟨contents, segment, holds_of_openClean linked truncated last h, rfl⟩
  · rename_i continued
    simp only [bind_eq_ok, mapError_eq_ok, pure_eq, ok.injEq] at h
    obtain ⟨header, successor, rfl⟩ := h
    have recorded : prepared.replay.lastSequence ≠ 0 := by
      intro none
      have earlier := linked.records_ne_nil fun index => continued ⟨index, none⟩
      rw [none, Fin.val_zero, recordsOf_append, length_append] at last
      omega
    have succeeds := succeeds_of_recoverySuccessor successor
    have holds := Journal.Holds.succeed nonzero linked last recorded succeeds
    rw [map_append, map_singleton, ← truncated] at holds
    exact ⟨_, _, holds, recordsOf_snoc_empty _ header⟩

end PreparedJournalSet

end Ariax
