import Ariax.Journal.Replay

/-!
# Writing and reopening a journal

The segment encoder of `journal.rs` and the part of `journal_appender.rs` that
reopens an installed set of segments: it is replayed, a torn last record is cut
off, and appending goes on in the last segment or in a new one. The segments
are byte strings here; the files, directories and locks around them are left
out, and so is the failure of an allocation.
-/

namespace Ariax

structure SegmentEncoder where
  header : SegmentHeader
  bytes : Bytes
  nextSequence : U64

structure EncodedSegment where
  header : SegmentHeader
  bytes : Bytes
  lastSequence : U64
  hash : SegmentHash
  deriving DecidableEq

section Encoder

variable (digests : Digests)

namespace SegmentEncoder

def fromHeader (header : SegmentHeader) : SegmentEncoder :=
  ⟨header, header.encode digests, header.firstSequence⟩

def first (taskGid : Gid) (journalId : JournalId) (startingGeneration : Generation)
    (createdAtUnixMs : U64) : SegmentEncoder :=
  fromHeader digests (.first taskGid journalId startingGeneration createdAtUnixMs)

/-- The sequence number of the appended record, with the encoder after it. -/
def append (encoder : SegmentEncoder) (recordType : RecordType) (generation : Generation)
    (payload : Bytes) : Except JournalEncodeError (U64 × SegmentEncoder) := do
  rejectIf (generation < encoder.header.startingGeneration) .generationBeforeSegment
  rejectIf (maxRecordPayload < payload.length) (.payloadTooLarge payload.length)
  let sequence := encoder.nextSequence
  let nextSequence ← okOr (checkedSucc sequence) .sequenceExhausted
  let record ← JournalRecord.encode digests ⟨recordType, generation, sequence, payload⟩
  pure (sequence, { encoder with bytes := encoder.bytes ++ record, nextSequence := nextSequence })

def finish (encoder : SegmentEncoder) : EncodedSegment :=
  ⟨encoder.header, encoder.bytes, encoder.nextSequence - 1, hashSegment digests encoder.bytes⟩

end SegmentEncoder

def EncodedSegment.rotate (segment : EncodedSegment) (startingGeneration : Generation)
    (createdAtUnixMs : U64) : Except JournalEncodeError SegmentEncoder := do
  let header ←
    segment.header.successor segment.lastSequence segment.hash startingGeneration createdAtUnixMs
  pure (.fromHeader digests header)

/-- An installed set of segments, the last of which is being written. -/
structure Journal where
  installed : List Bytes
  active : SegmentEncoder

namespace Journal

def segments (journal : Journal) : List Bytes := journal.installed ++ [journal.active.bytes]

def first (taskGid : Gid) (journalId : JournalId) (startingGeneration : Generation)
    (createdAtUnixMs : U64) : Journal :=
  ⟨[], .first digests taskGid journalId startingGeneration createdAtUnixMs⟩

def append (journal : Journal) (recordType : RecordType) (generation : Generation)
    (payload : Bytes) : Except JournalEncodeError (U64 × Journal) := do
  let (sequence, active) ← journal.active.append digests recordType generation payload
  pure (sequence, { journal with active := active })

def rotate (journal : Journal) (startingGeneration : Generation) (createdAtUnixMs : U64) :
    Except JournalEncodeError Journal := do
  let finished := journal.active.finish digests
  let active ← finished.rotate digests startingGeneration createdAtUnixMs
  pure ⟨journal.installed ++ [finished.bytes], active⟩

def cutAt (journal : Journal) (position : ℕ) : List Bytes :=
  journal.installed ++ [journal.active.bytes.take position]

end Journal

end Encoder

inductive JournalTailMismatch where
  | length
  | invalidTailRecord
  deriving DecidableEq

inductive JournalAppenderError where
  | journal (error : JournalEncodeError)
  | recoveryStopped (stop : ReplayStop)
  | recoveryInputBytesExceeded (limit : ℕ)
  | recoveryTaskMismatch (expected actual : Gid)
  | recoveryJournalMismatch (expected actual : JournalId)
  | tailMismatch (mismatch : JournalTailMismatch)
  deriving DecidableEq

structure PreparedJournalSet where
  taskGid : Gid
  journalId : JournalId
  segmentBytes : List Bytes
  replay : JournalReplay

/-- `recovery_encoded_byte_budget`; a step that overflows leaves a total that does. -/
def ReplayLimits.encodedByteBudget (limits : ReplayLimits) : Option ℕ :=
  let budget := limits.maxSegments.val * segmentHeaderLen +
    limits.maxRecords.val * recordOverhead + limits.maxPayloadBytes.val
  if budget < 2 ^ 64 then some budget else none

variable (digests : Digests)

/-- The stop that a segment set of a given size may be opened at: its clean
end, or a torn record of its last segment. -/
def JournalReplay.opens (replay : JournalReplay) (count : ℕ) : Bool :=
  match replay.stop with
  | .cleanEnd => true
  | .record segmentIndex _ reason =>
    segmentIndex.val + 1 = count ∧ replay.validSegmentPrefixes.length = count ∧
      repairableRecoveryTail reason
  | _ => false

/-- `prepare_recovered_in`, on the bytes of the installed segments. -/
def prepareRecovered (segments : List Bytes) (expectedTaskGid : Gid)
    (expectedJournalId : JournalId) (limits : ReplayLimits) :
    Except JournalAppenderError PreparedJournalSet := do
  let firstBytes ← okOr segments.head? (.recoveryStopped .noSegments)
  rejectIf (limits.maxSegments.val < segments.length)
    (.recoveryStopped (.resourceLimit .segments))
  let budget ← okOr limits.encodedByteBudget (.journal .allocationFailed)
  rejectIf (budget < (segments.map List.length).sum) (.recoveryInputBytesExceeded budget)
  let firstHeader ← (SegmentHeader.decode digests firstBytes).mapError fun error =>
    .recoveryStopped (.header 0 error)
  rejectIf (firstHeader.taskGid ≠ expectedTaskGid)
    (.recoveryTaskMismatch expectedTaskGid firstHeader.taskGid)
  rejectIf (firstHeader.journalId ≠ expectedJournalId)
    (.recoveryJournalMismatch expectedJournalId firstHeader.journalId)
  let replay := replayOrderedSegments digests limits segments
  rejectIf (replay.opens segments.length = false) (.recoveryStopped replay.stop)
  pure ⟨firstHeader.taskGid, firstHeader.journalId, segments, replay⟩

/-- `recovered_tail_record`: the offset and the length of the last record,
which has to end the active segment. -/
def recoveredTailRecord (activeBytes : Bytes) (header : SegmentHeader) (replay : JournalReplay) :
    Except JournalAppenderError (Option (ℕ × ℕ)) :=
  if replay.lastSequence < header.firstSequence then pure none
  else do
    let record ← okOr replay.records.getLast? (.tailMismatch .invalidTailRecord)
    rejectIf (record.sequence ≠ replay.lastSequence) (.tailMismatch .invalidTailRecord)
    let length := recordOverhead + record.payload.length
    rejectIf (activeBytes.length < length) (.tailMismatch .length)
    let offset := activeBytes.length - length
    rejectIf (offset < segmentHeaderLen) (.tailMismatch .invalidTailRecord)
    rejectIf ((decodeRecord digests (activeBytes.drop offset) replay.lastSequence
      header.startingGeneration).map (·.consumed) ≠ .ok length) (.tailMismatch .invalidTailRecord)
    pure (some (offset, length))

namespace PreparedJournalSet

variable (prepared : PreparedJournalSet)

/-- The bytes of the last segment; a prepared set has one. -/
def activeBytes : Bytes := prepared.segmentBytes.getLast?.getD []

def activeHeader : Except JournalAppenderError SegmentHeader :=
  (SegmentHeader.decode digests prepared.activeBytes).mapError fun error =>
    .recoveryStopped (.header (prepared.segmentBytes.length - 1) error)

/-- `open_clean_recovered_appender`: appending goes on in the last segment. -/
def openClean : Except JournalAppenderError Journal := do
  let header ← prepared.activeHeader digests
  let _tailRecord ← recoveredTailRecord digests prepared.activeBytes header prepared.replay
  let nextSequence ← okOr (checkedSucc prepared.replay.lastSequence) (.journal .sequenceExhausted)
  pure ⟨prepared.segmentBytes.dropLast, ⟨header, prepared.activeBytes, nextSequence⟩⟩

def truncate (length : ℕ) : PreparedJournalSet :=
  { prepared with
    segmentBytes := prepared.segmentBytes.dropLast ++ [prepared.activeBytes.take length] }

/-- `open_repaired_recovered_appender`: the torn record is cut off; appending
goes on in the first segment when no record is left, and in a new one else. -/
def openRepaired (validLength : ℕ) (recoveryStartingGeneration : Generation)
    (recoveryCreatedAtUnixMs : U64) : Except JournalAppenderError Journal := do
  rejectIf (prepared.replay.validSegmentPrefixes.getLast? ≠ some validLength ∨
      validLength < segmentHeaderLen ∨ prepared.activeBytes.length ≤ validLength)
    (.recoveryStopped prepared.replay.stop)
  let header ← prepared.activeHeader digests
  if header.segmentIndex = 0 ∧ prepared.replay.lastSequence = 0 then
    (prepared.truncate validLength).openClean digests
  else do
    let nextHeader ← (header.recoverySuccessor prepared.replay.lastSequence
      (hashSegment digests (prepared.activeBytes.take validLength)) recoveryStartingGeneration
      recoveryCreatedAtUnixMs).mapError JournalAppenderError.journal
    pure ⟨(prepared.truncate validLength).segmentBytes, .fromHeader digests nextHeader⟩

def openPrepared (recoveryStartingGeneration : Generation) (recoveryCreatedAtUnixMs : U64) :
    Except JournalAppenderError Journal :=
  match prepared.replay.stop with
  | .cleanEnd => prepared.openClean digests
  | .record _ offset _ =>
    prepared.openRepaired digests offset recoveryStartingGeneration recoveryCreatedAtUnixMs
  | stop => .error (.recoveryStopped stop)

end PreparedJournalSet

def openRecovered (segments : List Bytes) (expectedTaskGid : Gid) (expectedJournalId : JournalId)
    (limits : ReplayLimits) (recoveryStartingGeneration : Generation)
    (recoveryCreatedAtUnixMs : U64) : Except JournalAppenderError Journal := do
  let prepared ← prepareRecovered digests segments expectedTaskGid expectedJournalId limits
  prepared.openPrepared digests recoveryStartingGeneration recoveryCreatedAtUnixMs

end Ariax
