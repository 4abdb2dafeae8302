import Ariax.Journal.Header

/-!
# Replay of ordered segments

`replay_ordered_segments` of `journal.rs`: the segments are read in index
order and replay stops at the first byte that is not part of a valid journal.
The two loops of the source return early; here one turn of a loop either
hands on its variables or ends with the finished replay.
-/

namespace Ariax

/-- Replay resource caps, each a `usize`. -/
structure ReplayLimits where
  maxSegments : U64 := 1024
  maxRecords : U64 := 262144
  maxPayloadBytes : U64 := 64 * 1024 * 1024
  deriving DecidableEq

inductive ReplayResource where
  | segments
  | records
  | payloadBytes
  deriving DecidableEq

inductive ReplayStop where
  | cleanEnd
  | noSegments
  | header (inputIndex : ℕ) (error : HeaderDecodeError)
  | segmentIndex (expected actual : U32)
  | taskMismatch
  | journalMismatch
  | firstSequenceMismatch (expected actual : U64)
  | previousSequenceMismatch
  | previousHashMismatch
  | record (segmentIndex : U32) (offset : ℕ) (reason : RecordStopReason)
  | resourceLimit (resource : ReplayResource)
  deriving DecidableEq

structure JournalReplay where
  records : List JournalRecord
  lastSequence : U64
  validSegmentPrefixes : List ℕ
  payloadBytes : ℕ
  stop : ReplayStop
  deriving DecidableEq

/-- `"ariax/segment/v1\0"`. -/
def segmentHashDomain : Bytes := "ariax/segment/v1\x00".toUTF8.data.toList

def hashSegment (digests : Digests) (bytes : Bytes) : SegmentHash :=
  ⟨digests.sha256 (segmentHashDomain ++ leBytes 8 bytes.length ++ bytes)⟩

/-- The loop variables of a pass over the records of one segment. -/
structure RecordCursor where
  replay : JournalReplay
  expectedSequence : U64
  offset : ℕ

/-- The replay that ends in a segment valid up to an offset. -/
def JournalReplay.endAt (replay : JournalReplay) (offset : ℕ) (stop : ReplayStop) : JournalReplay :=
  { replay with
    validSegmentPrefixes := replay.validSegmentPrefixes ++ [offset]
    stop := stop }

def JournalReplay.count (replay : JournalReplay) (record : JournalRecord) : JournalReplay :=
  { replay with
    payloadBytes := replay.payloadBytes + record.payload.length
    lastSequence := record.sequence }

def RecordCursor.accept (cursor : RecordCursor) (decoded : DecodedRecord) (sequence : U64) :
    RecordCursor where
  replay :=
    { cursor.replay.count decoded.record with
      records := cursor.replay.records ++ [decoded.record] }
  expectedSequence := sequence
  offset := cursor.offset + decoded.consumed

section Records

variable (digests : Digests) (limits : ReplayLimits) (header : SegmentHeader) (bytes : Bytes)

def replayRecord (cursor : RecordCursor) : Except JournalReplay RecordCursor :=
  if limits.maxRecords.val ≤ cursor.replay.records.length then
    .error (cursor.replay.endAt cursor.offset (.resourceLimit .records))
  else
    match decodeRecord digests (bytes.drop cursor.offset) cursor.expectedSequence
        header.startingGeneration with
    | .error reason =>
      .error (cursor.replay.endAt cursor.offset
        (.record header.segmentIndex cursor.offset reason))
    | .ok decoded =>
      -- an overflowing total exceeds every limit, which is a `usize` itself
      if limits.maxPayloadBytes.val <
          cursor.replay.payloadBytes + decoded.record.payload.length then
        .error (cursor.replay.endAt cursor.offset (.resourceLimit .payloadBytes))
      else
        match checkedSucc cursor.expectedSequence with
        | none =>
          .error ((cursor.replay.count decoded.record).endAt
            (cursor.offset + decoded.consumed) (.resourceLimit .records))
        | some sequence => .ok (cursor.accept decoded sequence)

structure AcceptsRecord (cursor : RecordCursor) (decoded : DecodedRecord) (sequence : U64) :
    Prop where
  records : cursor.replay.records.length < limits.maxRecords.val
  read : decodeRecord digests (bytes.drop cursor.offset) cursor.expectedSequence
    header.startingGeneration = .ok decoded
  payload : cursor.replay.payloadBytes + decoded.record.payload.length ≤
    limits.maxPayloadBytes.val
  sequence : checkedSucc cursor.expectedSequence = some sequence

variable {digests limits header bytes} {cursor next : RecordCursor}

theorem replayRecord_eq_ok : replayRecord digests limits header bytes cursor = .ok next ↔
    ∃ decoded sequence, AcceptsRecord digests limits header bytes cursor decoded sequence ∧
      next = cursor.accept decoded sequence := by
  constructor
  · intro h
    unfold replayRecord at h
    split at h
    · cases h
    · rename_i records
      split at h
      · cases h
      · rename_i decoded read
        split at h
        · cases h
        · rename_i payload
          split at h
          · cases h
          · rename_i sequence succeeds
            exact ⟨decoded, sequence,
              ⟨Nat.not_le.mp records, read, Nat.not_lt.mp payload, succeeds⟩,
              (Except.ok.inj h).symm⟩
  · rintro ⟨decoded, sequence, accepts, rfl⟩
    rw [replayRecord, if_neg (Nat.not_le.mpr accepts.records), accepts.read]
    dsimp only
    rw [if_neg (Nat.not_lt.mpr accepts.payload), accepts.sequence]

variable {replay : JournalReplay}

/-- A turn that ends replay ends it at the cursor, unless the sequence
numbers are used up by the record it decoded. -/
theorem replayRecord_eq_error
    (h : replayRecord digests limits header bytes cursor = .error replay) :
    (∃ stop, replay = cursor.replay.endAt cursor.offset stop) ∨
      checkedSucc cursor.expectedSequence = none ∧
        ∃ decoded, decodeRecord digests (bytes.drop cursor.offset) cursor.expectedSequence
          header.startingGeneration = .ok decoded := by
  unfold replayRecord at h
  split at h
  · exact .inl ⟨_, (Except.error.inj h).symm⟩
  · split at h
    · exact .inl ⟨_, (Except.error.inj h).symm⟩
    · rename_i decoded read
      split at h
      · exact .inl ⟨_, (Except.error.inj h).symm⟩
      · split at h
        · rename_i exhausted
          exact .inr ⟨exhausted, decoded, read⟩
        · cases h

theorem lt_offset_of_replayRecord (h : replayRecord digests limits header bytes cursor = .ok next) :
    cursor.offset < next.offset := by
  obtain ⟨decoded, sequence, accepts, rfl⟩ := replayRecord_eq_ok.mp h
  obtain ⟨-, -, -, consumed⟩ := decodeRecord_eq_ok accepts.read
  rw [JournalRecord.length_encoding, recordOverhead] at consumed
  dsimp only [RecordCursor.accept]
  omega

variable (digests limits header bytes)

def replayRecords (cursor : RecordCursor) : Except JournalReplay RecordCursor :=
  if cursor.offset < bytes.length then
    match _turn : replayRecord digests limits header bytes cursor with
    | .error replay => .error replay
    | .ok next => replayRecords next
  else .ok cursor
termination_by bytes.length - cursor.offset
decreasing_by
  have advanced := lt_offset_of_replayRecord _turn
  omega

variable {digests limits header bytes}

theorem replayRecords_of_end (ended : ¬cursor.offset < bytes.length) :
    replayRecords digests limits header bytes cursor = .ok cursor := by
  rw [replayRecords, if_neg ended]

theorem replayRecords_of_ok (inside : cursor.offset < bytes.length)
    (turn : replayRecord digests limits header bytes cursor = .ok next) :
    replayRecords digests limits header bytes cursor =
      replayRecords digests limits header bytes next := by
  rw [replayRecords, if_pos inside]
  split
  · simp_all
  · simp_all

theorem replayRecords_of_error (inside : cursor.offset < bytes.length)
    (turn : replayRecord digests limits header bytes cursor = .error replay) :
    replayRecords digests limits header bytes cursor = .error replay := by
  rw [replayRecords, if_pos inside]
  split
  · simp_all
  · simp_all

end Records

/-- The loop variables of the pass over the segments. -/
structure ReplayCursor where
  replay : JournalReplay
  expectedGid : Option Gid
  expectedJournal : Option JournalId
  expectedIndex : U32
  expectedSequence : U64
  previousHash : SegmentHash

def ReplayCursor.initial : ReplayCursor where
  replay := ⟨[], 0, [], 0, .noSegments⟩
  expectedGid := none
  expectedJournal := none
  expectedIndex := 0
  expectedSequence := 1
  previousHash := .zero

/-- The checks that a decoded header continues the segments read before it. -/
def ReplayCursor.checkHeader (cursor : ReplayCursor) (header : SegmentHeader) :
    Except ReplayStop Unit := do
  rejectIf (header.segmentIndex ≠ cursor.expectedIndex)
    (.segmentIndex cursor.expectedIndex header.segmentIndex)
  rejectIf (∃ gid ∈ cursor.expectedGid, gid ≠ header.taskGid) .taskMismatch
  rejectIf (∃ journal ∈ cursor.expectedJournal, journal ≠ header.journalId) .journalMismatch
  rejectIf (header.firstSequence ≠ cursor.expectedSequence)
    (.firstSequenceMismatch cursor.expectedSequence header.firstSequence)
  rejectIf (0 < cursor.expectedIndex ∧
    header.previousSegmentLastSequence ≠ cursor.replay.lastSequence) .previousSequenceMismatch
  rejectIf (0 < cursor.expectedIndex ∧ header.previousSegmentHash ≠ cursor.previousHash)
    .previousHashMismatch

variable (digests : Digests) (limits : ReplayLimits)

def ReplayCursor.close (cursor : ReplayCursor) (header : SegmentHeader) (bytes : Bytes)
    (read : RecordCursor) : Except JournalReplay ReplayCursor := do
  let expectedIndex ← okOr (checkedSucc cursor.expectedIndex)
    (read.replay.endAt read.offset (.resourceLimit .segments))
  pure
    { replay := read.replay.endAt read.offset read.replay.stop
      expectedGid := cursor.expectedGid.or (some header.taskGid)
      expectedJournal := cursor.expectedJournal.or (some header.journalId)
      expectedIndex := expectedIndex
      expectedSequence := read.expectedSequence
      previousHash := hashSegment digests bytes }

theorem ReplayCursor.close_of_exhausted {cursor : ReplayCursor}
    (exhausted : checkedSucc cursor.expectedIndex = none) (header : SegmentHeader) (bytes : Bytes)
    (read : RecordCursor) : cursor.close digests header bytes read =
      .error (read.replay.endAt read.offset (.resourceLimit .segments)) := by
  rw [ReplayCursor.close, exhausted]
  rfl

def replaySegment (inputIndex : ℕ) (bytes : Bytes) (cursor : ReplayCursor) :
    Except JournalReplay ReplayCursor := do
  rejectIf (limits.maxSegments.val ≤ inputIndex)
    { cursor.replay with stop := .resourceLimit .segments }
  let header ← (SegmentHeader.decode digests bytes).mapError fun error =>
    { cursor.replay with stop := .header inputIndex error }
  (cursor.checkHeader header).mapError fun stop => { cursor.replay with stop := stop }
  let read ← replayRecords digests limits header bytes
    ⟨cursor.replay, cursor.expectedSequence, segmentHeaderLen⟩
  cursor.close digests header bytes read

def replaySegments : ℕ → List Bytes → ReplayCursor → JournalReplay
  | _, [], cursor => { cursor.replay with stop := .cleanEnd }
  | inputIndex, bytes :: rest, cursor =>
    match replaySegment digests limits inputIndex bytes cursor with
    | .error replay => replay
    | .ok next => replaySegments (inputIndex + 1) rest next

def replayOrderedSegments (segments : List Bytes) : JournalReplay :=
  if segments = [] then ReplayCursor.initial.replay
  else replaySegments digests limits 0 segments .initial

end Ariax
