import Ariax.Core.Identity
import Ariax.Lib.Bytes
import Ariax.Lib.Except

/-!
# Journal records

The record framing of `journal.rs`: a fixed prefix, the payload, a CRC-32C
over both and a commit marker. The CRC and SHA-256 of the source are library
functions; they enter as parameters, so nothing below depends on what they
compute. An encoded record is read back whole, a proper initial part of it
stops replay with a torn-tail reason, and whatever is accepted is the encoding
of the record it was read as.
-/

namespace Ariax

section

variable (input : Bytes) (offset : ℕ)

def readU16 : U16 := ⟨readLe input offset 2, readLe_lt input offset 2⟩

def readU32 : U32 := ⟨readLe input offset 4, readLe_lt input offset 4⟩

def readU64 : U64 := ⟨readLe input offset 8, readLe_lt input offset 8⟩

end

variable {input : Bytes} {offset : ℕ} {value : U16}

theorem readU16_of_window (spelled : window input offset 2 = leBytes 2 value.val) :
    readU16 input offset = value :=
  Fin.ext (readLe_of_window value.isLt spelled)

theorem readU32_of_window {value : U32} (spelled : window input offset 4 = leBytes 4 value.val) :
    readU32 input offset = value :=
  Fin.ext (readLe_of_window value.isLt spelled)

theorem readU64_of_window {value : U64} (spelled : window input offset 8 = leBytes 8 value.val) :
    readU64 input offset = value :=
  Fin.ext (readLe_of_window value.isLt spelled)

/-- The checksum and the hash of the libraries `crc32c` and `sha2`. -/
structure Digests where
  crc32c : Bytes → U32
  sha256 : Bytes → Vector UInt8 32

/-- `b"ARXR"`. -/
def recordMagic : Bytes := [0x41, 0x52, 0x58, 0x52]

/-- `b"CMIT"`. -/
def commitMagic : Bytes := [0x43, 0x4d, 0x49, 0x54]

@[simp] theorem length_recordMagic : recordMagic.length = 4 := by decide

@[simp] theorem length_commitMagic : commitMagic.length = 4 := by decide

def recordPrefixLen : ℕ := 28

def recordOverhead : ℕ := 36

def maxRecordPayload : ℕ := 16 * 1024 * 1024

inductive RecordType where
  | taskCreated
  | optionsSnapshot
  | layoutCommitted
  | generationStarted
  | leaseStarted
  | pieceStarted
  | pieceWritten
  | leaseCommitted
  | leaseAborted
  | pieceVerified
  | pieceFailed
  | pieceDurable
  | retryState
  | taskPaused
  | taskComplete
  | taskError
  | taskRemoved
  | cleanShutdown
  | checkpointStart
  | checkpointEnd
  | layoutChunk
  | finalizeIntent
  | finalizeDone
  | pieceStateChunk
  | httpStrongValidator
  | httpRangeIdentity
  | verificationManifest
  | verificationManifestChunk
  | protocolValidator
  | wholeFileVerified
  | hostKeyState
  | metadataComplete
  deriving DecidableEq, Repr

namespace RecordType

def all : List RecordType :=
  [taskCreated, optionsSnapshot, layoutCommitted, generationStarted, leaseStarted, pieceStarted,
    pieceWritten, leaseCommitted, leaseAborted, pieceVerified, pieceFailed, pieceDurable,
    retryState, taskPaused, taskComplete, taskError, taskRemoved, cleanShutdown, checkpointStart,
    checkpointEnd, layoutChunk, finalizeIntent, finalizeDone, pieceStateChunk,
    httpStrongValidator, httpRangeIdentity, verificationManifest, verificationManifestChunk,
    protocolValidator, wholeFileVerified, hostKeyState, metadataComplete]

/-- The type number: the types are numbered from one in the order of `all`. -/
def number (recordType : RecordType) : U16 := Fin.ofNat _ (all.idxOf recordType + 1)

def tryFrom (value : U16) : Option RecordType :=
  all.find? fun recordType => recordType.number = value

@[simp] theorem tryFrom_number (recordType : RecordType) :
    tryFrom recordType.number = some recordType := by
  cases recordType <;> decide

theorem number_of_tryFrom {recordType : RecordType}
    (h : tryFrom value = some recordType) : recordType.number = value := by
  simpa using List.find?_some h

end RecordType

structure JournalRecord where
  recordType : RecordType
  generation : Generation
  sequence : U64
  payload : Bytes
  deriving DecidableEq

inductive JournalEncodeError where
  | generationBeforeSegment
  | payloadTooLarge (length : ℕ)
  | allocationFailed
  | sequenceExhausted
  | segmentIndexExhausted
  | cannotRotateEmptySegment
  deriving DecidableEq

namespace JournalRecord

def prefixFields (record : JournalRecord) : List Bytes :=
  [recordMagic, leBytes 4 record.payload.length, leBytes 2 record.recordType.number.val,
    leBytes 2 0, leBytes 8 record.generation.get.val, leBytes 8 record.sequence.val]

/-- The fixed part and the payload of an encoded record: what its CRC covers. -/
def framed (record : JournalRecord) : Bytes := record.prefixFields.flatten ++ record.payload

variable (digests : Digests)

def encoding (record : JournalRecord) : Bytes :=
  record.framed ++ (leBytes 4 (digests.crc32c record.framed).val ++ commitMagic)

/-- `encode_record`: the length field has to hold the payload length. -/
def encode (record : JournalRecord) : Except JournalEncodeError Bytes := do
  rejectIf (2 ^ 32 ≤ record.payload.length) (.payloadTooLarge record.payload.length)
  pure (record.encoding digests)

theorem encode_of_payload {record : JournalRecord}
    (small : record.payload.length ≤ maxRecordPayload) :
    record.encode digests = .ok (record.encoding digests) := by
  have fits : ¬2 ^ 32 ≤ record.payload.length := by
    unfold maxRecordPayload at small
    omega
  rw [encode, rejectIf_of_not fits]
  rfl

def prefixWidths : List ℕ := [4, 4, 2, 2, 8, 8]

variable (record : JournalRecord)
include record

@[simp] theorem map_length_prefixFields : record.prefixFields.map List.length = prefixWidths := by
  simp [prefixFields, prefixWidths]

theorem length_prefixFields : record.prefixFields.flatten.length = recordPrefixLen := by
  rfl

@[simp] theorem length_framed : record.framed.length = recordPrefixLen + record.payload.length := by
  rw [framed, List.length_append, length_prefixFields]

@[simp] theorem length_encoding :
    (record.encoding digests).length = recordOverhead + record.payload.length := by
  simp only [encoding, commitMagic, recordOverhead, recordPrefixLen, List.length_append,
    length_framed, List.length_cons, List.length_nil, length_leBytes]
  omega

end JournalRecord

inductive RecordStopReason where
  | truncatedFraming
  | invalidMagic
  | payloadTooLarge
  | unknownRecordType
  | unknownFlags
  | sequenceGap (expected actual : U64)
  | generationBeforeSegment
  | lengthOverflow
  | truncatedRecord
  | badCrc
  | missingCommit
  deriving DecidableEq

structure DecodedRecord where
  record : JournalRecord
  consumed : ℕ

/-- `decode_record`. The offsets are sums of a bounded length and small
constants, so the source's `LengthOverflow` cannot arise. -/
def decodeRecord (digests : Digests) (input : Bytes) (expectedSequence : U64)
    (startingGeneration : Generation) : Except RecordStopReason DecodedRecord := do
  rejectIf (input.length < recordPrefixLen) .truncatedFraming
  rejectIf (input.take 4 ≠ recordMagic) .invalidMagic
  let payloadLen := (readU32 input 4).val
  rejectIf (maxRecordPayload < payloadLen) .payloadTooLarge
  let recordType ← okOr (RecordType.tryFrom (readU16 input 8)) .unknownRecordType
  rejectIf (readU16 input 10 ≠ 0) .unknownFlags
  let generation : Generation := ⟨readU64 input 12⟩
  rejectIf (generation < startingGeneration) .generationBeforeSegment
  let sequence := readU64 input 20
  rejectIf (sequence ≠ expectedSequence) (.sequenceGap expectedSequence sequence)
  let crcOffset := recordPrefixLen + payloadLen
  let commitOffset := crcOffset + 4
  let total := commitOffset + 4
  rejectIf (input.length < commitOffset) .truncatedRecord
  rejectIf (input.length < total) .missingCommit
  rejectIf (digests.crc32c (input.take crcOffset) ≠ readU32 input crcOffset) .badCrc
  rejectIf (window input commitOffset 4 ≠ commitMagic) .missingCommit
  pure ⟨⟨recordType, generation, sequence, window input recordPrefixLen payloadLen⟩, total⟩

def repairableRecoveryTail : RecordStopReason → Bool
  | .truncatedFraming | .invalidMagic | .payloadTooLarge | .unknownRecordType | .unknownFlags
  | .lengthOverflow | .truncatedRecord | .badCrc | .missingCommit => true
  | .sequenceGap _ _ | .generationBeforeSegment => false

/-- What a segment of a given starting generation accepts as its next record. -/
structure JournalRecord.Fits (record : JournalRecord) (startingGeneration : Generation) : Prop where
  small : record.payload.length ≤ maxRecordPayload
  generation : startingGeneration ≤ record.generation

/-- The fields of a record prefix, read from an input that starts with it. -/
structure JournalRecord.Prefixes (record : JournalRecord) (input : Bytes) : Prop where
  length : recordPrefixLen ≤ input.length
  magic : input.take 4 = recordMagic
  payloadLen : (readU32 input 4).val = record.payload.length
  recordType : readU16 input 8 = record.recordType.number
  flags : readU16 input 10 = 0
  generation : (⟨readU64 input 12⟩ : Generation) = record.generation
  sequence : readU64 input 20 = record.sequence

namespace JournalRecord

variable {record : JournalRecord} {startingGeneration : Generation}

theorem prefixes_framed (small : record.payload.length ≤ maxRecordPayload) (rest : Bytes) :
    record.Prefixes (record.framed ++ rest) := by
  have fits : record.payload.length < 256 ^ 4 := by
    unfold maxRecordPayload at small
    omega
  have fields := fieldsAt_flatten [] record.prefixFields (record.payload ++ rest)
  rw [map_length_prefixFields, List.nil_append, List.length_nil, ← List.append_assoc] at fields
  simp only [prefixWidths, fieldsAt, prefixFields, List.cons.injEq, and_true, Nat.reduceAdd]
    at fields
  obtain ⟨magic, payloadLen, recordType, flags, generation, sequence⟩ := fields
  refine ⟨?_, magic, readLe_of_window fits payloadLen, readU16_of_window recordType,
    readU16_of_window flags, Generation.get_injective (readU64_of_window generation),
    readU64_of_window sequence⟩
  rw [List.length_append, length_framed]
  omega

theorem Prefixes.take {input : Bytes} {count : ℕ} (prefixes : record.Prefixes input)
    (enough : recordPrefixLen ≤ count) : record.Prefixes (input.take count) := by
  have long : 28 ≤ count := enough
  have windows {offset width : ℕ} (inside : offset + width ≤ 28) :
      readLe (input.take count) offset width = readLe input offset width := by
    rw [readLe, readLe, window_take (by omega)]
  refine ⟨?_, ?_, ?_, ?_, ?_, ?_, ?_⟩
  · rw [List.length_take]
    exact le_min enough prefixes.length
  · rw [List.take_take, Nat.min_eq_left (by omega), prefixes.magic]
  · exact (windows (by omega)).trans prefixes.payloadLen
  · exact (Fin.ext (windows (by omega))).trans prefixes.recordType
  · exact (Fin.ext (windows (by omega))).trans prefixes.flags
  · exact (congrArg Generation.mk (Fin.ext (windows (by omega)))).trans prefixes.generation
  · exact (Fin.ext (windows (by omega))).trans prefixes.sequence

variable (digests : Digests) (fits : record.Fits startingGeneration)
include fits

/-- An input that starts with the prefix of a fitting record is checked for
its length, its CRC and its commit marker. -/
theorem Prefixes.decodeRecord {input : Bytes} (prefixes : record.Prefixes input) :
    decodeRecord digests input record.sequence startingGeneration = (do
      rejectIf (input.length < recordPrefixLen + record.payload.length + 4) .truncatedRecord
      rejectIf (input.length < recordPrefixLen + record.payload.length + 4 + 4) .missingCommit
      rejectIf (digests.crc32c (input.take (recordPrefixLen + record.payload.length)) ≠
        readU32 input (recordPrefixLen + record.payload.length)) .badCrc
      rejectIf (window input (recordPrefixLen + record.payload.length + 4) 4 ≠ commitMagic)
        .missingCommit
      pure ⟨⟨record.recordType, record.generation, record.sequence,
        window input recordPrefixLen record.payload.length⟩,
        recordPrefixLen + record.payload.length + 4 + 4⟩) := by
  have long := Nat.not_lt.mpr prefixes.length
  have small := Nat.not_lt.mpr fits.small
  have fresh : ¬record.generation < startingGeneration := not_lt.mpr fits.generation
  simp only [Ariax.decodeRecord, prefixes.magic, prefixes.payloadLen, prefixes.recordType,
    prefixes.flags, prefixes.generation, prefixes.sequence, RecordType.tryFrom_number, okOr_some,
    rejectIf_of_not long, rejectIf_of_not small, rejectIf_of_not fresh, ne_eq, not_true_eq_false,
    not_false_eq_true, rejectIf_of_not, Except.ok_bind]

theorem decodeRecord_encoding (rest : Bytes) :
    Ariax.decodeRecord digests (record.encoding digests ++ rest) record.sequence
      startingGeneration = .ok ⟨record, (record.encoding digests).length⟩ := by
  have prefixes : record.Prefixes (record.encoding digests ++ rest) := by
    rw [encoding, List.append_assoc]
    exact prefixes_framed fits.small _
  have framedLength := record.length_framed
  have crcField : readU32 (record.encoding digests ++ rest)
      (recordPrefixLen + record.payload.length) = digests.crc32c record.framed := by
    apply readU32_of_window
    rw [encoding, List.append_assoc, window_skip framedLength.le, framedLength, Nat.sub_self,
      List.append_assoc, window_here (length_leBytes 4 _)]
  have commitField : window (record.encoding digests ++ rest)
      (recordPrefixLen + record.payload.length + 4) 4 = commitMagic := by
    simp only [encoding, List.append_assoc, window_skip, window_here, framedLength, le_refl,
      length_leBytes, length_commitMagic, Nat.sub_self, Nat.le_add_right, Nat.add_sub_cancel_left]
  have covered : (record.encoding digests ++ rest).take (recordPrefixLen + record.payload.length) =
      record.framed := by
    rw [encoding, List.append_assoc, List.take_left' framedLength]
  have payloadField : window (record.encoding digests ++ rest) recordPrefixLen
      record.payload.length = record.payload := by
    rw [encoding, framed, List.append_assoc, List.append_assoc,
      window_skip record.length_prefixFields.le, record.length_prefixFields, Nat.sub_self,
      window_here rfl]
  have total := record.length_encoding digests
  have whole : (record.encoding digests ++ rest).length =
      recordOverhead + record.payload.length + rest.length := by
    rw [List.length_append, total]
  have consumed : recordPrefixLen + record.payload.length + 4 + 4 =
      (record.encoding digests).length := by
    rw [total, recordPrefixLen, recordOverhead]
    omega
  have committed : ¬(record.encoding digests ++ rest).length <
      recordPrefixLen + record.payload.length + 4 + 4 := by
    omega
  have checked : ¬(record.encoding digests ++ rest).length <
      recordPrefixLen + record.payload.length + 4 := by omega
  simp only [prefixes.decodeRecord digests fits, rejectIf_of_not checked,
    rejectIf_of_not committed, covered, crcField, commitField, payloadField, ne_eq,
    not_true_eq_false, not_false_eq_true, rejectIf_of_not, Except.ok_bind, Except.pure_eq]
  rw [consumed]

/-- A proper initial part of an encoded record stops replay with a reason
that recovery repairs. -/
theorem decodeRecord_torn {count : ℕ} (torn : count < (record.encoding digests).length) :
    ∃ reason, Ariax.decodeRecord digests ((record.encoding digests).take count) record.sequence
      startingGeneration = .error reason ∧ repairableRecoveryTail reason = true := by
  have length : ((record.encoding digests).take count).length = count := by
    rw [List.length_take]
    omega
  rw [record.length_encoding digests] at torn
  by_cases short : count < recordPrefixLen
  · refine ⟨.truncatedFraming, ?_, rfl⟩
    rw [Ariax.decodeRecord, rejectIf_eq_error.mpr ⟨by rwa [length], rfl⟩]
    rfl
  have prefixes : record.Prefixes ((record.encoding digests).take count) :=
    (prefixes_framed fits.small _).take (Nat.not_lt.mp short)
  rw [prefixes.decodeRecord digests fits]
  by_cases unchecked : count < recordPrefixLen + record.payload.length + 4
  · refine ⟨.truncatedRecord, ?_, rfl⟩
    rw [rejectIf_eq_error.mpr ⟨by rwa [length], rfl⟩]
    rfl
  · refine ⟨.missingCommit, ?_, rfl⟩
    have uncommitted : count < recordPrefixLen + record.payload.length + 4 + 4 := by
      rw [recordOverhead] at torn
      rw [recordPrefixLen]
      omega
    rw [rejectIf_of_not (by rwa [length]), Except.ok_bind,
      rejectIf_eq_error.mpr ⟨by rwa [length], rfl⟩]
    rfl

end JournalRecord

/-- What an accepted record says about the input it was read from. -/
theorem decodeRecord_eq_ok {digests : Digests} {expectedSequence : U64}
    {startingGeneration : Generation} {decoded : DecodedRecord}
    (h : decodeRecord digests input expectedSequence startingGeneration = .ok decoded) :
    decoded.record.sequence = expectedSequence ∧ decoded.record.Fits startingGeneration ∧
      input.take decoded.consumed = decoded.record.encoding digests ∧
      decoded.consumed = (decoded.record.encoding digests).length := by
  simp only [decodeRecord, Except.bind_eq_ok, rejectIf_eq_ok, okOr_eq_ok, Except.pure_eq,
    Except.ok.injEq, not_not, not_lt] at h
  obtain ⟨-, long, -, magic, -, small, recordType, known, -, flags, -, fresh, -, sequence, -, -,
    -, inside, -, crc, -, commit, rfl⟩ := h
  have long : 28 ≤ input.length := long
  have payloadLength : (window input recordPrefixLen (readU32 input 4).val).length =
      (readU32 input 4).val := length_window (by omega)
  have framed : input.take (recordPrefixLen + (readU32 input 4).val) =
      JournalRecord.framed ⟨recordType, ⟨readU64 input 12⟩, readU64 input 20,
        window input recordPrefixLen (readU32 input 4).val⟩ := by
    have fields : input.take recordPrefixLen =
        (fieldsAt input 0 JournalRecord.prefixWidths).flatten := by
      rw [flatten_fieldsAt]
      rfl
    have noFlags : window input 10 2 = leBytes 2 0 := by
      rw [← leBytes_readLe (by omega)]
      exact congrArg (leBytes 2) (congrArg Fin.val flags)
    simp only [JournalRecord.prefixWidths, fieldsAt, window_zero, Nat.reduceAdd] at fields
    rw [take_add_window, fields, magic, noFlags, JournalRecord.framed,
      JournalRecord.prefixFields, payloadLength, RecordType.number_of_tryFrom known,
      ← leBytes_readLe (by omega : 4 + 4 ≤ input.length),
      ← leBytes_readLe (by omega : 8 + 2 ≤ input.length),
      ← leBytes_readLe (by omega : 12 + 8 ≤ input.length),
      ← leBytes_readLe (by omega : 20 + 8 ≤ input.length)]
    rfl
  refine ⟨sequence, ⟨by rwa [payloadLength], fresh⟩, ?_, ?_⟩
  · rw [JournalRecord.encoding, ← framed, crc, take_add_window, take_add_window, commit,
      ← leBytes_readLe (by omega), List.append_assoc]
    rfl
  · rw [JournalRecord.length_encoding, payloadLength]
    dsimp only [recordPrefixLen, recordOverhead]
    omega

/-- The records that are read are exactly those of the expected sequence that fit the segment,
each from its own encoding, all of it consumed, and whatever follows it. -/
theorem decodeRecord_iff_encoded {digests : Digests} {expectedSequence : U64}
    {startingGeneration : Generation} {record : JournalRecord} {consumed : ℕ} :
    decodeRecord digests input expectedSequence startingGeneration = .ok ⟨record, consumed⟩ ↔
      record.sequence = expectedSequence ∧ record.Fits startingGeneration ∧
        consumed = (record.encoding digests).length ∧ record.encoding digests <+: input := by
  constructor
  · intro decoded
    obtain ⟨sequence, fits, canonical, length⟩ := decodeRecord_eq_ok decoded
    exact ⟨sequence, fits, length, canonical ▸ List.take_prefix _ _⟩
  · rintro ⟨rfl, fits, rfl, rest, rfl⟩
    exact record.decodeRecord_encoding digests fits rest

end Ariax
