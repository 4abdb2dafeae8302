import Ariax.Journal.Record

/-!
# Segment headers

The fixed 104-byte header of a journal segment (`SegmentHeader` in
`journal.rs`), its canonical encoding and decoding, and the headers of the
segments that follow it after a rotation or a repair.
-/

namespace Ariax

/-- `b"ARXJ"`. -/
def headerMagic : Bytes := [0x41, 0x52, 0x58, 0x4a]

@[simp] theorem length_headerMagic : headerMagic.length = 4 := by decide

def journalFormatVersion : U16 := 1

def journalEndiannessAssertion : UInt8 := 1

def segmentHeaderLen : ℕ := 104

def headerCrcOffset : ℕ := segmentHeaderLen - 4

structure JournalId where
  asBytes : Vector UInt8 16
  nonzero : asBytes ≠ Vector.replicate 16 0
  deriving DecidableEq

def JournalId.new (bytes : Vector UInt8 16) : Option JournalId :=
  if h : bytes ≠ Vector.replicate 16 0 then some ⟨bytes, h⟩ else none

theorem JournalId.new_eq_some {bytes : Vector UInt8 16} {id : JournalId} :
    JournalId.new bytes = some id ↔ bytes = id.asBytes := by
  unfold JournalId.new
  obtain ⟨bytes', h'⟩ := id
  split
  · simp
  · rename_i h
    simp only [reduceCtorEq, false_iff]
    rintro rfl
    exact h h'

/-- SHA-256 over the domain-separated valid bytes of an immutable segment. -/
structure SegmentHash where
  asBytes : Vector UInt8 32
  deriving DecidableEq

def SegmentHash.zero : SegmentHash := ⟨Vector.replicate 32 0⟩

structure SegmentHeader where
  taskGid : Gid
  journalId : JournalId
  segmentIndex : U32
  firstSequence : U64
  startingGeneration : Generation
  previousSegmentLastSequence : U64
  previousSegmentHash : SegmentHash
  createdAtUnixMs : U64
  deriving DecidableEq

inductive HeaderDecodeError where
  | truncated
  | invalidMagic
  | badCrc
  | unsupportedVersion
  | invalidEndianness
  | unknownFlags
  | zeroGid
  | zeroJournalId
  | invalidFirstSequence
  | unexpectedPreviousLink
  | missingPreviousLink
  deriving DecidableEq

namespace SegmentHeader

def first (taskGid : Gid) (journalId : JournalId) (startingGeneration : Generation)
    (createdAtUnixMs : U64) : SegmentHeader where
  taskGid := taskGid
  journalId := journalId
  segmentIndex := 0
  firstSequence := 1
  startingGeneration := startingGeneration
  previousSegmentLastSequence := 0
  previousSegmentHash := .zero
  createdAtUnixMs := createdAtUnixMs

def fields (header : SegmentHeader) : List Bytes :=
  [headerMagic, leBytes 2 journalFormatVersion.val, [journalEndiannessAssertion], [0],
    leBytes 8 header.taskGid.get.val, header.journalId.asBytes.toList,
    leBytes 4 header.segmentIndex.val, leBytes 8 header.firstSequence.val,
    leBytes 8 header.startingGeneration.get.val,
    leBytes 8 header.previousSegmentLastSequence.val, header.previousSegmentHash.asBytes.toList,
    leBytes 8 header.createdAtUnixMs.val]

variable (digests : Digests)

def encode (header : SegmentHeader) : Bytes :=
  header.fields.flatten ++ leBytes 4 (digests.crc32c header.fields.flatten).val

/-- The link to the previous segment: none in the first segment, and the last
sequence and the hash of the predecessor in every other one. -/
def checkLink (header : SegmentHeader) : Except HeaderDecodeError Unit :=
  if header.segmentIndex = 0 then do
    rejectIf (header.firstSequence ≠ 1) .invalidFirstSequence
    rejectIf (header.previousSegmentLastSequence ≠ 0 ∨ header.previousSegmentHash ≠ .zero)
      .unexpectedPreviousLink
  else do
    rejectIf (header.previousSegmentLastSequence = 0 ∨ header.previousSegmentHash = .zero)
      .missingPreviousLink
    rejectIf (checkedSucc header.previousSegmentLastSequence ≠ some header.firstSequence)
      .invalidFirstSequence

def decode (input : Bytes) : Except HeaderDecodeError SegmentHeader := do
  rejectIf (input.length < segmentHeaderLen) .truncated
  rejectIf (input.take 4 ≠ headerMagic) .invalidMagic
  rejectIf (digests.crc32c (input.take headerCrcOffset) ≠ readU32 input headerCrcOffset) .badCrc
  rejectIf (readU16 input 4 ≠ journalFormatVersion) .unsupportedVersion
  rejectIf (window input 6 1 ≠ [journalEndiannessAssertion]) .invalidEndianness
  rejectIf (window input 7 1 ≠ [0]) .unknownFlags
  let taskGid ← okOr (NonzeroId.new (readU64 input 8)) .zeroGid
  let journalId ← okOr (JournalId.new (readArray 16 input 16)) .zeroJournalId
  let header : SegmentHeader :=
    { taskGid := taskGid
      journalId := journalId
      segmentIndex := readU32 input 32
      firstSequence := readU64 input 36
      startingGeneration := ⟨readU64 input 44⟩
      previousSegmentLastSequence := readU64 input 52
      previousSegmentHash := ⟨readArray 32 input 60⟩
      createdAtUnixMs := readU64 input 92 }
  header.checkLink
  pure header

section

variable (header : SegmentHeader) (previousSegmentLastSequence : U64)
  (previousSegmentHash : SegmentHash) (startingGeneration : Generation) (createdAtUnixMs : U64)

/-- The header of the segment after a rotation of this one. -/
def successor : Except JournalEncodeError SegmentHeader := do
  rejectIf (previousSegmentLastSequence < header.firstSequence) .cannotRotateEmptySegment
  let segmentIndex ← okOr (checkedSucc header.segmentIndex) .segmentIndexExhausted
  let firstSequence ← okOr (checkedSucc previousSegmentLastSequence) .sequenceExhausted
  pure
    { taskGid := header.taskGid
      journalId := header.journalId
      segmentIndex := segmentIndex
      firstSequence := firstSequence
      startingGeneration := startingGeneration
      previousSegmentLastSequence := previousSegmentLastSequence
      previousSegmentHash := previousSegmentHash
      createdAtUnixMs := createdAtUnixMs }

/-- The header of the segment after a repair of this one, which may have lost
all of its records. -/
def recoverySuccessor : Except JournalEncodeError SegmentHeader := do
  rejectIf (previousSegmentLastSequence < header.firstSequence ∧
    (header.segmentIndex = 0 ∨
      checkedSucc previousSegmentLastSequence ≠ some header.firstSequence))
    .cannotRotateEmptySegment
  let segmentIndex ← okOr (checkedSucc header.segmentIndex) .segmentIndexExhausted
  let firstSequence ← okOr (checkedSucc previousSegmentLastSequence) .sequenceExhausted
  pure
    { taskGid := header.taskGid
      journalId := header.journalId
      segmentIndex := segmentIndex
      firstSequence := firstSequence
      startingGeneration := startingGeneration
      previousSegmentLastSequence := previousSegmentLastSequence
      previousSegmentHash := previousSegmentHash
      createdAtUnixMs := createdAtUnixMs }

end

def WellLinked (header : SegmentHeader) : Prop := header.checkLink = .ok ()

variable {header : SegmentHeader}

theorem wellLinked_of_previous (index : header.segmentIndex ≠ 0)
    (last : header.previousSegmentLastSequence ≠ 0) (hash : header.previousSegmentHash ≠ .zero)
    (first : header.firstSequence.val = header.previousSegmentLastSequence.val + 1) :
    header.WellLinked := by
  have unlinked : ¬(header.previousSegmentLastSequence = 0 ∨ header.previousSegmentHash = .zero) :=
    not_or.mpr ⟨last, hash⟩
  have successor := checkedSucc_eq_some.mpr first
  rw [WellLinked, checkLink, if_neg index, rejectIf_of_not unlinked, Except.ok_bind,
    rejectIf_of_not (not_not.mpr successor)]

theorem WellLinked.previousLast_ne_zero (linked : header.WellLinked)
    (index : header.segmentIndex ≠ 0) : header.previousSegmentLastSequence ≠ 0 := by
  rw [WellLinked, checkLink, if_neg index, Except.bind_eq_ok] at linked
  obtain ⟨_, present, -⟩ := linked
  exact (not_or.mp (rejectIf_eq_ok.mp present)).1

def widths : List ℕ := [4, 2, 1, 1, 8, 16, 4, 8, 8, 8, 32, 8]

theorem map_length_fields (header : SegmentHeader) : header.fields.map List.length = widths := by
  simp [fields, widths]

theorem length_fields (header : SegmentHeader) :
    header.fields.flatten.length = headerCrcOffset := by
  rw [List.length_flatten, map_length_fields]
  rfl

@[simp] theorem length_encode (header : SegmentHeader) :
    (header.encode digests).length = segmentHeaderLen := by
  rw [encode, List.length_append, length_fields, length_leBytes]
  rfl

theorem decode_encode (linked : header.WellLinked) (rest : Bytes) :
    decode digests (header.encode digests ++ rest) = .ok header := by
  have long : ¬(header.encode digests ++ rest).length < segmentHeaderLen := by
    rw [List.length_append, length_encode]
    omega
  have covered : (header.encode digests ++ rest).take headerCrcOffset = header.fields.flatten := by
    rw [encode, List.append_assoc, List.take_left' header.length_fields]
  have crcField : readU32 (header.encode digests ++ rest) headerCrcOffset =
      digests.crc32c header.fields.flatten := by
    apply readU32_of_window
    rw [encode, List.append_assoc, window_skip header.length_fields.le, header.length_fields,
      Nat.sub_self, window_here (length_leBytes 4 _)]
  have spelled : fieldsAt (header.encode digests ++ rest) 0 widths = header.fields := by
    rw [encode, List.append_assoc]
    exact header.map_length_fields ▸ fieldsAt_flatten [] header.fields _
  generalize header.encode digests ++ rest = input at *
  have whole : 104 ≤ input.length := Nat.not_lt.mp long
  simp only [widths, fieldsAt, fields, List.cons.injEq, and_true, Nat.reduceAdd] at spelled
  obtain ⟨magic, version, endianness, flags, taskGid, journalId, segmentIndex, firstSequence,
    startingGeneration, previousLast, previousHash, createdAt⟩ := spelled
  have gid : NonzeroId.new (readU64 input 8) = some header.taskGid :=
    NonzeroId.new_eq_some.mpr (readU64_of_window taskGid)
  have journal : JournalId.new (readArray 16 input 16) = some header.journalId :=
    JournalId.new_eq_some.mpr (readArray_of_window (by omega) journalId)
  simp only [decode, rejectIf_of_not long, ← window_zero, magic, covered, crcField,
    readU16_of_window version, endianness, flags, gid, journal, okOr_some,
    readU32_of_window segmentIndex, readU64_of_window firstSequence,
    readU64_of_window startingGeneration, readU64_of_window previousLast,
    readArray_of_window (by omega) previousHash, readU64_of_window createdAt, ne_eq,
    not_true_eq_false, not_false_eq_true, rejectIf_of_not, Except.ok_bind]
  rw [show checkLink _ = .ok () from linked]
  rfl

/-- What an accepted header says about the segment it was read from. -/
theorem decode_eq_ok {input : Bytes} (h : decode digests input = .ok header) :
    header.WellLinked ∧ input.take segmentHeaderLen = header.encode digests := by
  simp only [decode, Except.bind_eq_ok, rejectIf_eq_ok, okOr_eq_ok, Except.pure_eq,
    Except.ok.injEq, not_not, not_lt] at h
  obtain ⟨-, long, -, magic, -, crc, -, version, -, endianness, -, flags, taskGid, gid, journalId,
    journal, ⟨⟩, linked, rfl⟩ := h
  have whole : 104 ≤ input.length := long
  refine ⟨linked, ?_⟩
  have gidField : window input 8 8 = leBytes 8 taskGid.get.val := by
    rw [← NonzeroId.new_eq_some.mp gid]
    exact (leBytes_readLe (by omega)).symm
  have journalField : window input 16 16 = journalId.asBytes.toList := by
    rw [← JournalId.new_eq_some.mp journal, toList_readArray (by omega)]
  have versionField : window input 4 2 = leBytes 2 journalFormatVersion.val := by
    rw [← version]
    exact (leBytes_readLe (by omega)).symm
  -- every field that was read spells the bytes it was read from
  have read : (fieldsAt input 0 widths).flatten = input.take headerCrcOffset := by
    rw [flatten_fieldsAt]
    rfl
  have hashField := toList_readArray (by omega : 60 + 32 ≤ input.length)
  simp only [widths, fieldsAt, window_zero, magic, Nat.reduceAdd, versionField, endianness, flags,
    gidField, journalField, ← leBytes_readLe (by omega : 32 + 4 ≤ input.length),
    ← leBytes_readLe (by omega : 36 + 8 ≤ input.length),
    ← leBytes_readLe (by omega : 44 + 8 ≤ input.length),
    ← leBytes_readLe (by omega : 52 + 8 ≤ input.length), ← hashField,
    ← leBytes_readLe (by omega : 92 + 8 ≤ input.length)] at read
  have total : segmentHeaderLen = headerCrcOffset + 4 := rfl
  rw [total, take_add_window, ← leBytes_readLe whole, encode]
  have checked := crc.symm.trans (congrArg digests.crc32c read.symm)
  exact congrArg₂ (· ++ leBytes 4 ·) read.symm (congrArg Fin.val checked)

/-- The headers that are read are exactly the well-linked ones, each from its own encoding and
whatever follows it. -/
theorem decode_iff_encoded {input : Bytes} :
    decode digests input = .ok header ↔ header.WellLinked ∧ header.encode digests <+: input := by
  constructor
  · intro decoded
    obtain ⟨linked, canonical⟩ := decode_eq_ok digests decoded
    exact ⟨linked, canonical ▸ List.take_prefix _ _⟩
  · rintro ⟨linked, rest, rfl⟩
    exact decode_encode digests linked rest

end SegmentHeader

end Ariax
