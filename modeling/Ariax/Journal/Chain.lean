import Ariax.Journal.Replay
import Mathlib.Data.List.Range

/-!
# Chains of segments

What a journal is, apart from its bytes: a list of segments, each a header
and its records, where every header continues the segments before it. The
record loop of replay is related to it here. From a cursor that has read some
records of a segment, the loop reads further records that the segment encodes
after them, and it hands on or ends with nothing else.
-/

namespace Ariax

open List

structure SegmentContent where
  header : SegmentHeader
  records : List JournalRecord

def recordsOf (contents : List SegmentContent) : List JournalRecord := contents.flatMap (·.records)

@[simp] theorem recordsOf_nil : recordsOf [] = [] := rfl

@[simp] theorem recordsOf_append (contents more : List SegmentContent) :
    recordsOf (contents ++ more) = recordsOf contents ++ recordsOf more :=
  flatMap_append

@[simp] theorem recordsOf_singleton (segment : SegmentContent) :
    recordsOf [segment] = segment.records := by
  simp [recordsOf]

theorem recordsOf_snoc (contents : List SegmentContent) (segment : SegmentContent) :
    recordsOf (contents ++ [segment]) = recordsOf contents ++ segment.records := by
  rw [recordsOf_append, recordsOf_singleton]

theorem recordsOf_snoc_empty (contents : List SegmentContent) (header : SegmentHeader) :
    recordsOf (contents ++ [⟨header, []⟩]) = recordsOf contents := by
  rw [recordsOf_snoc, append_nil]

def payloadTotal (records : List JournalRecord) : ℕ := (records.map (·.payload.length)).sum

@[simp] theorem payloadTotal_nil : payloadTotal [] = 0 := rfl

@[simp] theorem payloadTotal_append (records more : List JournalRecord) :
    payloadTotal (records ++ more) = payloadTotal records + payloadTotal more := by
  simp [payloadTotal]

@[simp] theorem payloadTotal_singleton (record : JournalRecord) :
    payloadTotal [record] = record.payload.length := by
  simp [payloadTotal]

def Numbered (start : ℕ) (records : List JournalRecord) : Prop :=
  records.map (·.sequence.val) = range' start records.length

@[simp] theorem numbered_nil (start : ℕ) : Numbered start [] := rfl

theorem numbered_append {start : ℕ} {records more : List JournalRecord} :
    Numbered start (records ++ more) ↔
      Numbered start records ∧ Numbered (start + records.length) more := by
  unfold Numbered
  rw [map_append, length_append, ← range'_append_1]
  constructor
  · intro h
    exact append_inj h (by simp)
  · rintro ⟨h, h'⟩
    rw [h, h']

@[simp] theorem numbered_singleton {start : ℕ} {record : JournalRecord} :
    Numbered start [record] ↔ record.sequence.val = start := by
  simp [Numbered]

section Digests

variable (digests : Digests)

def encodings (records : List JournalRecord) : Bytes := records.flatMap (·.encoding digests)

@[simp] theorem encodings_nil : encodings digests [] = [] := rfl

@[simp] theorem encodings_append (records more : List JournalRecord) :
    encodings digests (records ++ more) = encodings digests records ++ encodings digests more :=
  flatMap_append

@[simp] theorem encodings_cons (record : JournalRecord) (records : List JournalRecord) :
    encodings digests (record :: records) =
      record.encoding digests ++ encodings digests records :=
  flatMap_cons

theorem length_le_encodings (records : List JournalRecord) :
    recordOverhead * records.length ≤ (encodings digests records).length := by
  induction records with
  | nil => simp
  | cons =>
    rw [encodings_cons, length_append, JournalRecord.length_encoding, length_cons]
    rw [recordOverhead] at *
    omega

namespace SegmentContent

def bytes (segment : SegmentContent) : Bytes :=
  segment.header.encode digests ++ encodings digests segment.records

/-- The canonical header encoding followed by `encode_record` of the records. -/
def encode (segment : SegmentContent) : Except JournalEncodeError Bytes := do
  let chunks ← segment.records.mapM (·.encode digests)
  pure (segment.header.encode digests ++ chunks.flatten)

@[simp] theorem length_bytes (segment : SegmentContent) : (segment.bytes digests).length =
      segmentHeaderLen + (encodings digests segment.records).length := by
  rw [bytes, length_append, SegmentHeader.length_encode]

theorem bytes_snoc (header : SegmentHeader) (records : List JournalRecord)
    (record : JournalRecord) :
    bytes digests ⟨header, records ++ [record]⟩ =
      bytes digests ⟨header, records⟩ ++ record.encoding digests := by
  simp [bytes]

theorem encode_of_fits {segment : SegmentContent}
    (fits : ∀ record ∈ segment.records, record.Fits segment.header.startingGeneration) :
    segment.encode digests = .ok (segment.bytes digests) := by
  have chunks : segment.records.mapM (·.encode digests) =
      .ok (segment.records.map (·.encoding digests)) := by
    generalize segment.records = records at fits
    induction records with
    | nil => rfl
    | cons record _ ih =>
      rw [mapM_cons, JournalRecord.encode_of_payload digests (fits record (by simp)).small,
        ih fun record' member => fits record' (mem_cons_of_mem _ member)]
      rfl
  rw [encode, chunks]
  rfl

end SegmentContent

/-- A header that names the position, the records and the last bytes of the
segments before it. -/
structure SegmentHeader.Follows (header : SegmentHeader) (contents : List SegmentContent) :
    Prop where
  index : header.segmentIndex.val = contents.length
  gid : ∀ first ∈ contents.head?, first.header.taskGid = header.taskGid
  journal : ∀ first ∈ contents.head?, first.header.journalId = header.journalId
  first : header.firstSequence.val = (recordsOf contents).length + 1
  previousLast : contents ≠ [] →
    header.previousSegmentLastSequence.val = (recordsOf contents).length
  previousHash : ∀ last ∈ contents.getLast?,
    header.previousSegmentHash = hashSegment digests (last.bytes digests)

structure SegmentContent.Continues (segment : SegmentContent) (contents : List SegmentContent) :
    Prop where
  linked : segment.header.WellLinked
  follows : segment.header.Follows digests contents
  numbered : Numbered ((recordsOf contents).length + 1) segment.records
  fits : ∀ record ∈ segment.records, record.Fits segment.header.startingGeneration

inductive Linked : List SegmentContent → Prop
  | nil : Linked []
  | snoc {contents : List SegmentContent} {segment : SegmentContent} (linked : Linked contents)
      (continues : segment.Continues digests contents) : Linked (contents ++ [segment])

end Digests

section Chains

variable {digests : Digests} {contents more : List SegmentContent} {segment : SegmentContent}

theorem Linked.init (linked : Linked digests (contents ++ [segment])) :
    Linked digests contents := by
  generalize whole : contents ++ [segment] = chain at linked
  cases linked with
  | nil => simp at whole
  | snoc linked =>
    rw [(append_inj' whole rfl).1]
    exact linked

theorem Linked.continues (linked : Linked digests (contents ++ segment :: more)) :
    segment.Continues digests contents := by
  generalize whole : contents ++ segment :: more = chain at linked
  induction linked generalizing more with
  | nil => simp at whole
  | @snoc earlier last linked continues ih =>
    rcases eq_nil_or_concat' more with rfl | ⟨init, final, rfl⟩
    · obtain ⟨rfl, same⟩ := append_inj' whole rfl
      obtain rfl := singleton_inj.mp same
      exact continues
    · rw [← cons_append, ← append_assoc] at whole
      exact ih (append_inj' whole rfl).1

theorem Linked.numbered (linked : Linked digests contents) : Numbered 1 (recordsOf contents) := by
  induction linked with
  | nil => exact numbered_nil 1
  | snoc _ continues ih =>
    rw [recordsOf_snoc, numbered_append]
    exact ⟨ih, by rw [Nat.add_comm]; exact continues.numbered⟩

theorem Linked.first (digests : Digests) (taskGid : Gid) (journalId : JournalId)
    (startingGeneration : Generation) (createdAtUnixMs : U64) : Linked digests
      ([] ++ [⟨.first taskGid journalId startingGeneration createdAtUnixMs, []⟩]) := by
  refine .snoc .nil ⟨rfl, ⟨rfl, ?_, ?_, rfl, fun continued => absurd rfl continued, ?_⟩,
    numbered_nil _, ?_⟩
  all_goals simp

/-- A header that continues a segment after its last sequence number. -/
structure SegmentHeader.Succeeds (next header : SegmentHeader) (lastSequence : U64)
    (hash : SegmentHash) : Prop where
  gid : next.taskGid = header.taskGid
  journal : next.journalId = header.journalId
  index : next.segmentIndex.val = header.segmentIndex.val + 1
  first : next.firstSequence.val = lastSequence.val + 1
  previousLast : next.previousSegmentLastSequence = lastSequence
  previousHash : next.previousSegmentHash = hash

theorem SegmentContent.Continues.head (continues : segment.Continues digests contents)
    {first : SegmentContent} (h : first ∈ (contents ++ [segment]).head?) :
    first.header.taskGid = segment.header.taskGid ∧
      first.header.journalId = segment.header.journalId := by
  cases contents with
  | nil =>
    obtain rfl := Option.mem_some_iff.mp h
    exact ⟨rfl, rfl⟩
  | cons => exact ⟨continues.follows.gid first h, continues.follows.journal first h⟩

variable (linked : Linked digests (contents ++ [segment]))
include linked

theorem Linked.withRecords {records : List JournalRecord}
    (numbered : Numbered ((recordsOf contents).length + 1) records)
    (fits : ∀ record ∈ records, record.Fits segment.header.startingGeneration) :
    Linked digests (contents ++ [⟨segment.header, records⟩]) :=
  .snoc linked.init ⟨linked.continues.linked, linked.continues.follows, numbered, fits⟩

/-- A chain goes on with an empty segment under a header that succeeds its last one. -/
theorem Linked.succeed (nonzero : ∀ bytes, digests.sha256 bytes ≠ Vector.replicate 32 0)
    {next : SegmentHeader} {lastSequence : U64}
    (last : lastSequence.val = (recordsOf (contents ++ [segment])).length)
    (recorded : lastSequence ≠ 0)
    (succeeds : next.Succeeds segment.header lastSequence
      (hashSegment digests (segment.bytes digests))) :
    Linked digests (contents ++ [segment] ++ [⟨next, []⟩]) := by
  have continues := linked.continues
  have index : next.segmentIndex ≠ 0 := by
    rw [Ne, Fin.ext_iff, succeeds.index]
    exact Nat.succ_ne_zero _
  have wellLinked : next.WellLinked := by
    refine SegmentHeader.wellLinked_of_previous index ?_ ?_ ?_
    · rwa [succeeds.previousLast]
    · rw [succeeds.previousHash]
      exact fun none => nonzero _ (congrArg SegmentHash.asBytes none)
    · rw [succeeds.first, succeeds.previousLast]
  refine .snoc linked ⟨wellLinked, ⟨?_, ?_, ?_, ?_, ?_, ?_⟩, numbered_nil _, by simp⟩
  · rw [succeeds.index, continues.follows.index, length_append, length_singleton]
  · intro first member
    rw [(continues.head member).1, succeeds.gid]
  · intro first member
    rw [(continues.head member).2, succeeds.journal]
  · rw [succeeds.first, last]
  · intro _
    rw [succeeds.previousLast, last]
  · intro final member
    rw [getLast?_concat, Option.mem_some_iff] at member
    rw [succeeds.previousHash, member]

end Chains

/-! ## The record loop -/

variable (digests : Digests) (limits : ReplayLimits) (header : SegmentHeader) (bytes : Bytes)
  (before : JournalReplay)

/-- A cursor that has read some records of a segment, beyond those that replay
held before the segment. -/
structure RecordCursor.Reads (cursor : RecordCursor) (read : List JournalRecord) : Prop where
  records : cursor.replay.records = before.records ++ read
  payload : cursor.replay.payloadBytes = before.payloadBytes + payloadTotal read
  prefixes : cursor.replay.validSegmentPrefixes = before.validSegmentPrefixes
  last : cursor.replay.lastSequence.val = before.records.length + read.length
  sequence : cursor.expectedSequence.val = before.records.length + read.length + 1
  offset : cursor.offset = (SegmentContent.bytes digests ⟨header, read⟩).length
  canonical : SegmentContent.bytes digests ⟨header, read⟩ <+: bytes
  numbered : Numbered (before.records.length + 1) read
  fits : ∀ record ∈ read, record.Fits header.startingGeneration
  withinRecords : cursor.replay.records.length ≤ limits.maxRecords.val
  withinPayload : cursor.replay.payloadBytes ≤ limits.maxPayloadBytes.val

/-- Replay has room for the records of a segment. -/
structure JournalReplay.Admits (records : List JournalRecord) : Prop where
  numbered : Numbered (before.records.length + 1) records
  fits : ∀ record ∈ records, record.Fits header.startingGeneration
  withinRecords : before.records.length + records.length ≤ limits.maxRecords.val
  withinPayload : before.payloadBytes + payloadTotal records ≤ limits.maxPayloadBytes.val
  sequences : before.records.length + records.length + 1 < 2 ^ 64

variable {digests limits header bytes before} {cursor next : RecordCursor}
  {read : List JournalRecord}

namespace RecordCursor.Reads

variable (reads : cursor.Reads digests limits header bytes before read)
include reads

theorem drop_offset :
    SegmentContent.bytes digests ⟨header, read⟩ ++ bytes.drop cursor.offset = bytes := by
  obtain ⟨rest, rfl⟩ := reads.canonical
  rw [reads.offset, drop_left]

theorem accept {decoded : DecodedRecord} {sequence : U64}
    (accepts : AcceptsRecord digests limits header bytes cursor decoded sequence) :
    (cursor.accept decoded sequence).Reads digests limits header bytes before
      (read ++ [decoded.record]) := by
  obtain ⟨expected, fits, canonical, consumed⟩ := decodeRecord_eq_ok accepts.read
  have number : decoded.record.sequence.val = before.records.length + read.length + 1 := by
    rw [expected, reads.sequence]
  constructor
  case records => rw [RecordCursor.accept, reads.records, append_assoc]
  case payload =>
    rw [RecordCursor.accept, payloadTotal_append, payloadTotal_singleton, ← Nat.add_assoc,
      ← reads.payload]
    rfl
  case prefixes => exact reads.prefixes
  case last =>
    rw [length_append, length_singleton]
    exact number
  case sequence =>
    rw [length_append, length_singleton, RecordCursor.accept,
      checkedSucc_eq_some.mp accepts.sequence, reads.sequence]
    omega
  case offset =>
    rw [SegmentContent.bytes_snoc, length_append, ← consumed, ← reads.offset]
    rfl
  case canonical =>
    refine ⟨(bytes.drop cursor.offset).drop decoded.consumed, ?_⟩
    rw [SegmentContent.bytes_snoc, append_assoc, ← canonical, take_append_drop,
      reads.drop_offset]
  case numbered =>
    rw [numbered_append, numbered_singleton]
    refine ⟨reads.numbered, ?_⟩
    omega
  case fits =>
    exact forall_mem_append.mpr ⟨reads.fits, forall_mem_singleton.mpr fits⟩
  case withinRecords =>
    rw [RecordCursor.accept, length_append, length_singleton]
    exact accepts.records
  case withinPayload => exact accepts.payload

/-- A segment that replay can hold in memory together with its records does
not use up the sequence numbers. -/
theorem sequence_lt (addressable : before.records.length + bytes.length < 2 ^ 64) :
    cursor.expectedSequence.val + 1 < 2 ^ 64 := by
  have short := reads.canonical.length_le
  have counted := length_le_encodings digests read
  rw [SegmentContent.length_bytes, segmentHeaderLen] at short
  rw [recordOverhead] at counted
  rw [reads.sequence]
  dsimp only at short
  omega

/-- The record loop goes through cursors that have read records of the
segment, and ends replay at one of them or at the end of the segment. -/
theorem replayRecords (addressable : before.records.length + bytes.length < 2 ^ 64) :
    ∃ last more, last.Reads digests limits header bytes before more ∧
      (replayRecords digests limits header bytes cursor = .ok last ∧
          SegmentContent.bytes digests ⟨header, more⟩ = bytes ∨
        ∃ stop, replayRecords digests limits header bytes cursor =
          .error (last.replay.endAt last.offset stop)) := by
  induction size : bytes.length - cursor.offset using Nat.strong_induction_on
    generalizing cursor read with
  | _ size ih =>
    by_cases inside : cursor.offset < bytes.length
    · cases turn : replayRecord digests limits header bytes cursor with
      | error =>
        rcases replayRecord_eq_error turn with ⟨stop, rfl⟩ | ⟨exhausted, -⟩
        · exact ⟨cursor, read, reads, .inr ⟨stop, replayRecords_of_error inside turn⟩⟩
        · have := checkedSucc_eq_none.mp exhausted
          have := reads.sequence_lt addressable
          omega
      | ok =>
        obtain ⟨decoded, sequence, accepts, rfl⟩ := replayRecord_eq_ok.mp turn
        have advanced := lt_offset_of_replayRecord turn
        rw [replayRecords_of_ok inside turn]
        exact ih _ (by omega) (reads.accept accepts) rfl
    · refine ⟨cursor, read, reads, .inl ⟨replayRecords_of_end inside, ?_⟩⟩
      apply reads.canonical.eq_of_length_le
      rw [← reads.offset]
      exact Nat.not_lt.mp inside

theorem acceptsRecord {record : JournalRecord} {more : List JournalRecord} {rest : Bytes}
    (whole : bytes = SegmentContent.bytes digests ⟨header, read ++ record :: more⟩ ++ rest)
    (admits : JournalReplay.Admits limits header before (read ++ record :: more)) :
    ∃ sequence, AcceptsRecord digests limits header bytes cursor
      ⟨record, (record.encoding digests).length⟩ sequence := by
  have fits : record.Fits header.startingGeneration := admits.fits record (by simp)
  have number : record.sequence = cursor.expectedSequence := by
    have numbered := admits.numbered
    rw [← singleton_append, ← append_assoc, numbered_append, numbered_append,
      numbered_singleton] at numbered
    apply Fin.ext
    rw [numbered.1.2, reads.sequence]
    omega
  have remaining : bytes.drop cursor.offset =
      record.encoding digests ++ (encodings digests more ++ rest) := by
    have unread := reads.drop_offset
    rw [whole] at unread ⊢
    simp only [SegmentContent.bytes, encodings_append, encodings_cons, append_assoc,
      append_cancel_left_eq] at unread ⊢
    exact unread
  have withinRecords := admits.withinRecords
  have withinPayload := admits.withinPayload
  have sequences := admits.sequences
  simp only [length_append, length_cons] at withinRecords sequences
  rw [← singleton_append, payloadTotal_append, payloadTotal_append, payloadTotal_singleton]
    at withinPayload
  obtain ⟨sequence, succeeds⟩ := exists_checkedSucc (x := cursor.expectedSequence) (by
    rw [reads.sequence]
    omega)
  refine ⟨sequence, ?_, ?_, ?_, succeeds⟩
  · rw [reads.records, length_append]
    omega
  · rw [remaining, ← number]
    exact JournalRecord.decodeRecord_encoding digests fits _
  · rw [reads.payload]
    dsimp only
    omega

theorem replayRecords_follow {more : List JournalRecord} {rest : Bytes}
    (whole : bytes = SegmentContent.bytes digests ⟨header, read ++ more⟩ ++ rest)
    (admits : JournalReplay.Admits limits header before (read ++ more)) :
    ∃ last, last.Reads digests limits header bytes before (read ++ more) ∧
      Ariax.replayRecords digests limits header bytes cursor =
        Ariax.replayRecords digests limits header bytes last := by
  induction more generalizing cursor read with
  | nil => exact ⟨cursor, by rwa [append_nil], rfl⟩
  | cons _ _ ih =>
    obtain ⟨sequence, accepts⟩ := reads.acceptsRecord whole admits
    have turn := replayRecord_eq_ok.mpr ⟨_, sequence, accepts, rfl⟩
    have inside : cursor.offset < bytes.length := by
      rw [reads.offset, whole]
      simp only [SegmentContent.bytes, encodings_append, encodings_cons, length_append,
        JournalRecord.length_encoding, recordOverhead]
      omega
    rw [← singleton_append, ← append_assoc] at whole admits ⊢
    rw [replayRecords_of_ok inside turn]
    exact ih (reads.accept accepts) whole admits

end RecordCursor.Reads

end Ariax
