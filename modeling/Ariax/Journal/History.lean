import Ariax.Journal.Crash

/-!
# Histories of a journal

A journal is created, written, cut and opened again any number of times. Its
log, kept beside it, is what a reader should find: the records in the order
they were appended, without those that a cut has torn or lost. Every journal
of a history replays to its log.
-/

namespace Ariax

open Journal List PreparedJournalSet SegmentContent

namespace Journal

section

variable (journal : Journal) (log : List JournalRecord)

def earlierRecords : List JournalRecord :=
  log.take (journal.active.header.firstSequence.val - 1)

def activeRecords : List JournalRecord :=
  log.drop (journal.active.header.firstSequence.val - 1)

end

/-- The records whose encodings lie before a position of the last segment. -/
def survivors (digests : Digests) (journal : Journal) (log : List JournalRecord) (position : ℕ) :
    List JournalRecord :=
  journal.earlierRecords log ++
    wholeBefore digests (position - segmentHeaderLen) (journal.activeRecords log)

end Journal

/-- Limits large enough for a journal and its log. -/
structure ReplayLimits.Cover (limits : ReplayLimits) (journal : Journal)
    (log : List JournalRecord) : Prop where
  segments : journal.segments.length ≤ limits.maxSegments.val
  records : log.length ≤ limits.maxRecords.val
  payload : payloadTotal log ≤ limits.maxPayloadBytes.val

/-- The journal that is opened from a journal cut at a position. -/
def Journal.reopen (digests : Digests) (journal : Journal) (position : ℕ) (limits : ReplayLimits)
    (startingGeneration : Generation) (createdAtUnixMs : U64) :
    Except JournalAppenderError Journal :=
  openPrepared digests
    ⟨journal.active.header.taskGid, journal.active.header.journalId, journal.cutAt position,
      replayOrderedSegments digests limits (journal.cutAt position)⟩
    startingGeneration createdAtUnixMs

/-- The journals of a history, each with its log. -/
inductive History (digests : Digests) : Journal → List JournalRecord → Prop
  | first (taskGid : Gid) (journalId : JournalId) (startingGeneration : Generation)
      (createdAtUnixMs : U64) :
      History digests (.first digests taskGid journalId startingGeneration createdAtUnixMs) []
  | append {journal next : Journal} {log : List JournalRecord}
      (history : History digests journal log)
      {recordType : RecordType} {generation : Generation} {payload : Bytes} {sequence : U64}
      (appended : journal.append digests recordType generation payload = .ok (sequence, next)) :
      History digests next (log ++ [⟨recordType, generation, sequence, payload⟩])
  | rotate {journal next : Journal} {log : List JournalRecord}
      (history : History digests journal log)
      {startingGeneration : Generation} {createdAtUnixMs : U64}
      (rotated : journal.rotate digests startingGeneration createdAtUnixMs = .ok next) :
      History digests next log
  | reopen {journal next : Journal} {log : List JournalRecord}
      (history : History digests journal log)
      {position : ℕ} (inside : segmentHeaderLen ≤ position)
      (within : position ≤ journal.active.bytes.length) {limits : ReplayLimits}
      (large : limits.Cover journal log) {startingGeneration : Generation} {createdAtUnixMs : U64}
      (reopened : journal.reopen digests position limits startingGeneration createdAtUnixMs =
        .ok next) :
      History digests next (journal.survivors digests log position)

variable {log : List JournalRecord} {startingGeneration : Generation} {createdAtUnixMs : U64}
  {position : ℕ}

theorem History.openRecovered {digests : Digests} {journal next : Journal}
    (history : History digests journal log)
    (inside : segmentHeaderLen ≤ position) (within : position ≤ journal.active.bytes.length)
    {limits : ReplayLimits} (large : limits.Cover journal log) {taskGid : Gid}
    {journalId : JournalId}
    (opened : openRecovered digests (journal.cutAt position) taskGid journalId limits
      startingGeneration createdAtUnixMs = .ok next) :
    History digests next (journal.survivors digests log position) := by
  simp only [Ariax.openRecovered, prepareRecovered, Except.bind_eq_ok, Except.pure_eq,
    Except.ok.injEq] at opened
  obtain ⟨_, ⟨_, -, _, -, _, -, _, -, _, -, _, -, _, -, _, -, rfl⟩, opened⟩ := opened
  exact history.reopen inside within large opened

section Logs

variable {digests : Digests} {limits : ReplayLimits} {journal : Journal}
  {contents : List SegmentContent} {segment : SegmentContent}

namespace Journal.Holds

variable (holds : journal.Holds digests contents segment)
include holds

theorem segments : journal.segments = (contents ++ [segment]).map (·.bytes digests) := by
  rw [Journal.segments, holds.installed, holds.bytes, map_append, map_singleton]

theorem length_segments : journal.segments.length = contents.length + 1 := by
  rw [holds.segments, length_map, length_append, length_singleton]

theorem earlierRecords :
    journal.earlierRecords (recordsOf (contents ++ [segment])) = recordsOf contents := by
  rw [Journal.earlierRecords, holds.header, holds.linked.continues.follows.first,
    Nat.add_sub_cancel, recordsOf_append, take_left]

theorem activeRecords :
    journal.activeRecords (recordsOf (contents ++ [segment])) = segment.records := by
  rw [Journal.activeRecords, holds.header, holds.linked.continues.follows.first,
    Nat.add_sub_cancel, recordsOf_append, drop_left, recordsOf_singleton]

theorem survivors (position : ℕ) :
    journal.survivors digests (recordsOf (contents ++ [segment])) position =
      recordsOf (contents ++ [⟨segment.header,
        wholeBefore digests (position - segmentHeaderLen) segment.records⟩]) := by
  rw [Journal.survivors, holds.earlierRecords, holds.activeRecords, recordsOf_snoc]

variable (large : limits.Cover journal (recordsOf (contents ++ [segment])))
include large

theorem admitted : limits.Admit (contents ++ [segment]) := by
  refine ⟨?_, large.records, large.payload, holds.next ▸ journal.active.nextSequence.isLt⟩
  rw [length_append, length_singleton, ← holds.length_segments]
  exact large.segments

theorem reopen (nonzero : ∀ bytes, digests.sha256 bytes ≠ Vector.replicate 32 0)
    (inside : segmentHeaderLen ≤ position) (within : position ≤ journal.active.bytes.length)
    {next : Journal}
    (reopened : journal.reopen digests position limits startingGeneration createdAtUnixMs =
      .ok next) : ∃ contents' segment', next.Holds digests contents' segment' ∧
      recordsOf (contents' ++ [segment']) =
        journal.survivors digests (recordsOf (contents ++ [segment])) position := by
  rw [holds.survivors]
  obtain ⟨held, cut⟩ := holds.replay_cut (holds.admitted large) inside within
  unfold Journal.reopen openPrepared at reopened
  cases cut with
  | boundary _ bytes stopped =>
    rw [map_append, map_singleton] at bytes
    by_cases last : contents.length + 1 < 2 ^ 32
    · rw [stopped, chainEnd, if_pos last] at reopened
      exact ⟨_, _, holds_of_openClean held.linked bytes held.last reopened, rfl⟩
    · rw [stopped, chainEnd, if_neg last] at reopened
      cases reopened
  | torn _ _ bytes _ stopped =>
    rw [stopped] at reopened
    exact holds_of_openRepaired held.linked bytes nonzero held.last reopened

end Journal.Holds

theorem History.holds (nonzero : ∀ bytes, digests.sha256 bytes ≠ Vector.replicate 32 0)
    (history : History digests journal log) :
    ∃ contents segment, journal.Holds digests contents segment ∧
      log = recordsOf (contents ++ [segment]) := by
  induction history with
  | first => exact ⟨[], _, .first digests _ _ _ _, rfl⟩
  | append _ appended ih =>
    obtain ⟨contents, segment, holds, rfl⟩ := ih
    refine ⟨contents, _, holds.append appended, ?_⟩
    rw [recordsOf_snoc, recordsOf_snoc, append_assoc]
  | rotate _ rotated ih =>
    obtain ⟨contents, segment, holds, rfl⟩ := ih
    obtain ⟨header, rotated⟩ := holds.rotate nonzero rotated
    exact ⟨_, _, rotated, (recordsOf_snoc_empty _ header).symm⟩
  | reopen _ inside within large reopened ih =>
    obtain ⟨contents, segment, holds, rfl⟩ := ih
    obtain ⟨contents', segment', held, records⟩ := holds.reopen large nonzero inside within reopened
    exact ⟨contents', segment', held, records.symm⟩

end Logs

def ReplayLimits.largest : ReplayLimits := ⟨Fin.last _, Fin.last _, Fin.last _⟩

theorem le_largest {n : ℕ} (h : n ≤ 2 ^ 32) : n ≤ (Fin.last (2 ^ 64 - 1)).val := by
  rw [Fin.val_last]
  omega

/-- The largest limits cover every journal of a history whose payloads they admit. -/
theorem History.cover {digests : Digests}
    (nonzero : ∀ bytes, digests.sha256 bytes ≠ Vector.replicate 32 0) {journal : Journal}
    {log : List JournalRecord} (history : History digests journal log)
    (payload : payloadTotal log < 2 ^ 64) : ReplayLimits.largest.Cover journal log := by
  obtain ⟨contents, segment, holds, rfl⟩ := history.holds nonzero
  have index := holds.linked.continues.follows.index ▸ segment.header.segmentIndex.isLt
  have sequences := holds.next ▸ journal.active.nextSequence.isLt
  refine ⟨?_, ?_, Nat.le_pred_of_lt payload⟩
  · rw [holds.length_segments]
    exact le_largest index
  · exact Nat.le_pred_of_lt (Nat.lt_of_succ_lt sequences)

section Solo

variable {digests : Digests} {journal : Journal} {contents : List SegmentContent}
  {segment : SegmentContent} (holds : journal.Holds digests contents segment)
include holds

/-- A record that the segment accepts is appended while sequence numbers are left. -/
theorem Journal.Holds.append_ok
    {generation : Generation} {payload : Bytes} (recordType : RecordType)
    (fresh : segment.header.startingGeneration ≤ generation)
    (small : payload.length ≤ maxRecordPayload)
    (sequences : (recordsOf (contents ++ [segment])).length + 2 < 2 ^ 64) :
    ∃ sequence next,
      journal.append digests recordType generation payload = .ok (sequence, next) := by
  obtain ⟨sequence, succeeds⟩ := exists_checkedSucc (x := journal.active.nextSequence) (by
    rwa [holds.next])
  rw [Journal.append, SegmentEncoder.append, rejectIf_of_not (not_lt.mpr (holds.header ▸ fresh)),
    rejectIf_of_not (not_lt.mpr small)]
  dsimp only
  rw [succeeds, JournalRecord.encode_of_payload digests small]
  exact ⟨_, _, rfl⟩

theorem Journal.Holds.rotate_ok
    (nonempty : segment.records ≠ []) (indexed : contents.length + 1 < 2 ^ 32)
    (startingGeneration : Generation) (createdAtUnixMs : U64) :
    ∃ header, header.startingGeneration = startingGeneration ∧
      journal.rotate digests startingGeneration createdAtUnixMs =
        .ok ⟨journal.installed ++ [journal.active.bytes], .fromHeader digests header⟩ := by
  have last := holds.lastSequence
  have follows := holds.linked.continues.follows
  have next := holds.next ▸ journal.active.nextSequence.isLt
  have full : ¬(journal.active.finish digests).lastSequence <
      journal.active.header.firstSequence := by
    rw [Fin.lt_def, last, holds.header, follows.first, recordsOf_snoc, length_append]
    have := length_pos_iff.mpr nonempty
    omega
  obtain ⟨index, indexed⟩ := exists_checkedSucc (x := journal.active.header.segmentIndex) (by
    rwa [holds.header, follows.index])
  obtain ⟨first, numbered⟩ := exists_checkedSucc (last ▸ next)
  have successor : ∃ header, header.startingGeneration = startingGeneration ∧
      journal.active.header.successor (journal.active.finish digests).lastSequence
        (journal.active.finish digests).hash startingGeneration createdAtUnixMs = .ok header := by
    rw [SegmentHeader.successor, rejectIf_of_not full, numbered, indexed]
    exact ⟨_, rfl, rfl⟩
  obtain ⟨header, generation, successor⟩ := successor
  refine ⟨header, generation, ?_⟩
  rw [Journal.rotate, EncodedSegment.rotate,
    show (journal.active.finish digests).header = journal.active.header from rfl, successor]
  rfl

end Solo

/-- Constant digests, the hash of which is not zero. -/
def plainDigests : Digests := ⟨fun _ => 0, fun _ => Vector.replicate 32 1⟩

theorem nonzero (bytes : Bytes) : plainDigests.sha256 bytes ≠ Vector.replicate 32 0 := by
  dsimp only [plainDigests]
  decide

/-- A journal with one empty record in each of its segments, so many of which are finished. -/
def soloJournal : ℕ → Except JournalEncodeError Journal
  | 0 => record (.first plainDigests ⟨5, by decide⟩ ⟨Vector.replicate 16 1, by decide⟩ .initial 0)
  | count + 1 => do record (← (← soloJournal count).rotate plainDigests .initial 0)
where
  record (journal : Journal) : Except JournalEncodeError Journal :=
    (journal.append plainDigests .taskCreated .initial []).map Prod.snd

/-- Segments with one empty record each. -/
structure Solo (contents : List SegmentContent) : Prop where
  records : (recordsOf contents).length = contents.length
  payload : payloadTotal (recordsOf contents) = 0
  bytes : ((contents.map (·.bytes plainDigests)).map length).sum = 140 * contents.length

structure SoloJournal (count : ℕ) (journal : Journal) (contents : List SegmentContent)
    (segment : SegmentContent) : Prop where
  built : soloJournal count = .ok journal
  history : History plainDigests journal (recordsOf (contents ++ [segment]))
  holds : journal.Holds plainDigests contents segment
  earlier : contents.length = count
  solo : Solo (contents ++ [segment])
  nonempty : segment.records ≠ []

namespace SoloJournal

variable {contents : List SegmentContent} {journal : Journal} {segment : SegmentContent}
  {count : ℕ}

theorem append {header : SegmentHeader}
    (built : soloJournal contents.length = soloJournal.record journal)
    (history : History plainDigests journal (recordsOf contents))
    (holds : journal.Holds plainDigests contents ⟨header, []⟩)
    (generation : header.startingGeneration = .initial) (solo : Solo contents)
    (indexed : contents.length < 2 ^ 32) :
    ∃ journal segment, SoloJournal contents.length journal contents segment := by
  have sequences : (recordsOf (contents ++ [⟨header, []⟩])).length + 2 < 2 ^ 64 := by
    rw [recordsOf_snoc_empty, solo.records]
    omega
  have small : ([] : Bytes).length ≤ maxRecordPayload := Nat.zero_le _
  obtain ⟨sequence, next, appended⟩ := holds.append_ok .taskCreated generation.le small sequences
  have recorded := history.append appended
  refine ⟨next, _, ?_, recordsOf_snoc contents _ ▸ recorded, holds.append appended, rfl,
    ⟨?_, ?_, ?_⟩, by simp⟩
  · rw [built, soloJournal.record, appended]
    rfl
  · simp [solo.records]
  · simp [payloadTotal_append, solo.payload, payloadTotal_singleton]
  · simp only [map_append, sum_append, solo.bytes]
    simp [encodings, recordOverhead, segmentHeaderLen]
    omega

theorem exists_count (indexed : count < 2 ^ 32) :
    ∃ journal contents segment, SoloJournal count journal contents segment := by
  induction count with
  | zero =>
    obtain ⟨journal, segment, solo⟩ := @append [] _ _ rfl (.first _ _ .initial 0)
      (.first plainDigests _ _ _ _) rfl ⟨rfl, rfl, rfl⟩ indexed
    exact ⟨journal, [], segment, solo⟩
  | succ count ih =>
    obtain ⟨journal, contents, segment, solo⟩ := ih (by omega)
    obtain ⟨header, generation, rotated⟩ := solo.holds.rotate_ok solo.nonempty
      (by rw [solo.earlier]; omega) .initial 0
    obtain ⟨header', holds⟩ := solo.holds.rotate nonzero rotated
    obtain rfl : header = header' := holds.header
    have whole : (contents ++ [segment]).length = count + 1 := by
      rw [length_append, solo.earlier, length_singleton]
    obtain ⟨next, segment', solo'⟩ := append
      (by rw [whole, soloJournal, solo.built, Except.ok_bind, rotated, Except.ok_bind])
      (solo.history.rotate rotated) holds generation solo.solo (by rwa [whole])
    rw [whole] at solo'
    exact ⟨next, _, segment', solo'⟩

theorem cover (solo : SoloJournal count journal contents segment) :
    ReplayLimits.largest.Cover journal (recordsOf (contents ++ [segment])) :=
  solo.history.cover nonzero (by rw [solo.solo.payload]; decide)

end SoloJournal

theorem Journal.Holds.inside {digests : Digests} {journal : Journal}
    {contents : List SegmentContent} {segment : SegmentContent}
    (holds : journal.Holds digests contents segment) :
    segmentHeaderLen ≤ journal.active.bytes.length := by
  rw [holds.bytes, length_bytes]
  exact Nat.le_add_right _ _

end Ariax
