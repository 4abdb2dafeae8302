import Ariax.Journal.Chain

/-!
# The segment loop

The segment loop of replay against chains of segments. Whatever bytes replay
is given, what it holds in the end is a chain, and the valid prefixes of the
segments are the bytes of that chain; and the bytes of a chain that the limits
admitted are replayed to their end, or to the bytes that follow them.
-/

namespace Ariax

open Except List ReplayCursor

variable (digests : Digests) (limits : ReplayLimits)

/-- A chain within the limits, with a sequence number to spare. -/
structure ReplayLimits.Admit (contents : List SegmentContent) : Prop where
  segments : contents.length ≤ limits.maxSegments.val
  records : (recordsOf contents).length ≤ limits.maxRecords.val
  payload : payloadTotal (recordsOf contents) ≤ limits.maxPayloadBytes.val
  sequences : (recordsOf contents).length + 1 < 2 ^ 64

/-- A replay that holds the records of a chain within the limits. -/
structure JournalReplay.Holds (replay : JournalReplay) (contents : List SegmentContent) : Prop where
  linked : Linked digests contents
  admitted : limits.Admit contents
  records : replay.records = recordsOf contents
  last : replay.lastSequence.val = (recordsOf contents).length
  prefixes : replay.validSegmentPrefixes = contents.map fun segment =>
    (segment.bytes digests).length
  payload : replay.payloadBytes = payloadTotal (recordsOf contents)

/-- A cursor of the segment loop that has read a chain to its end. -/
structure ReplayCursor.Read (cursor : ReplayCursor) (contents : List SegmentContent) : Prop where
  holds : cursor.replay.Holds digests limits contents
  gid : cursor.expectedGid = contents.head?.map (·.header.taskGid)
  journal : cursor.expectedJournal = contents.head?.map (·.header.journalId)
  index : cursor.expectedIndex.val = contents.length
  sequence : cursor.expectedSequence.val = (recordsOf contents).length + 1
  hash : ∀ last ∈ contents.getLast?, cursor.previousHash = hashSegment digests (last.bytes digests)

variable {digests limits} {replay : JournalReplay} {cursor : ReplayCursor}
  {contents : List SegmentContent}

theorem JournalReplay.Holds.withStop (holds : replay.Holds digests limits contents)
    (stop : ReplayStop) : { replay with stop := stop }.Holds digests limits contents :=
  ⟨holds.linked, holds.admitted, holds.records, holds.last, holds.prefixes, holds.payload⟩

variable {more : List SegmentContent}

/-- Limits that admit a chain admit a shorter one that holds the first of its records. -/
theorem ReplayLimits.Admit.mono (admitted : limits.Admit contents)
    (shorter : more.length ≤ contents.length) (initial : recordsOf more <+: recordsOf contents) :
    limits.Admit more := by
  obtain ⟨segments, records, payload, sequences⟩ := admitted
  obtain ⟨lost, whole⟩ := initial
  rw [← whole, length_append] at records sequences
  rw [← whole, payloadTotal_append] at payload
  exact ⟨shorter.trans segments, by omega, by omega, by omega⟩

theorem ReplayLimits.Admit.of_append
    (admitted : limits.Admit (contents ++ more)) : limits.Admit contents :=
  admitted.mono (by simp) (by simp)

variable {segment : SegmentContent}

theorem ReplayLimits.Admit.within (admitted : limits.Admit (contents ++ [segment])) :
    contents.length < limits.maxSegments.val := by
  have segments := admitted.segments
  rwa [length_append, length_singleton] at segments

theorem JournalReplay.Holds.unique {other : JournalReplay}
    (holds : replay.Holds digests limits contents)
    (holds' : other.Holds digests limits contents) :
    { other with stop := replay.stop } = replay := by
  have records := holds'.records.trans holds.records.symm
  have last : other.lastSequence = replay.lastSequence :=
    Fin.ext (holds'.last.trans holds.last.symm)
  have prefixes := holds'.prefixes.trans holds.prefixes.symm
  have payload := holds'.payload.trans holds.payload.symm
  rw [records, last, prefixes, payload]

namespace ReplayCursor.Read

theorem initial : initial.Read digests limits [] := by
  have admitted : limits.Admit [] := ⟨Nat.zero_le _, Nat.zero_le _, Nat.zero_le _, by decide⟩
  exact ⟨⟨.nil, admitted, rfl, rfl, rfl, rfl⟩, rfl, rfl, rfl, rfl, by simp⟩

theorem expectedIndex_pos (read : cursor.Read digests limits contents) :
    0 < cursor.expectedIndex ↔ contents ≠ [] := by
  rw [Fin.lt_def, read.index, Ne, ← length_eq_zero_iff]
  exact Nat.pos_iff_ne_zero

theorem checkHeader (read : cursor.Read digests limits contents) (header : SegmentHeader) :
    cursor.checkHeader header = .ok () ↔ header.Follows digests contents := by
  have lastSequence := read.holds.last
  have expectedSequence := read.sequence
  simp only [ReplayCursor.checkHeader, bind_eq_ok, rejectIf_eq_ok, exists_const,
    read.expectedIndex_pos, read.gid, read.journal, not_not, not_and, not_exists,
    Option.mem_map, forall_exists_index, and_imp, forall_apply_eq_imp_iff₂]
  constructor
  · rintro ⟨index, gid, journal, first, previousLast, previousHash⟩
    refine ⟨by rw [index, read.index], gid, journal, by rw [first, expectedSequence], ?_, ?_⟩
    · intro continued
      rw [previousLast continued, lastSequence]
    · intro last member
      have continued : contents ≠ [] := by
        rintro rfl
        cases member
      rw [previousHash continued, read.hash last member]
  · intro follows
    refine ⟨Fin.ext ?_, follows.gid, follows.journal, Fin.ext ?_, ?_, ?_⟩
    · rw [follows.index, read.index]
    · rw [follows.first, expectedSequence]
    · intro continued
      apply Fin.ext
      rw [follows.previousLast continued, lastSequence]
    · intro continued
      obtain ⟨last, member⟩ : ∃ last, last ∈ contents.getLast? :=
        ⟨_, getLast?_eq_some_getLast continued⟩
      rw [follows.previousHash last member, read.hash last member]

variable {bytes : Bytes} {header : SegmentHeader} (read : cursor.Read digests limits contents)
include read

theorem reads (starts : header.encode digests <+: bytes) :
    RecordCursor.Reads digests limits header bytes cursor.replay
      ⟨cursor.replay, cursor.expectedSequence, segmentHeaderLen⟩ [] := by
  have held := read.holds.records
  have admitted := read.holds.admitted
  refine ⟨by simp, by simp, rfl, by simpa [held] using read.holds.last,
    by simpa [held] using read.sequence, by simp, by simpa [SegmentContent.bytes] using starts,
    numbered_nil _, by simp, ?_, ?_⟩
  · rw [held]
    exact admitted.records
  · rw [read.holds.payload]
    exact admitted.payload

section

variable {more : List JournalRecord} {last : RecordCursor} (linked : header.WellLinked)
  (follows : header.Follows digests contents) (within : contents.length < limits.maxSegments.val)
  (reads : last.Reads digests limits header bytes cursor.replay more)
include linked follows within reads

theorem endAt (stop : ReplayStop) :
    (last.replay.endAt last.offset stop).Holds digests limits (contents ++ [⟨header, more⟩]) := by
  have held := read.holds.records
  have records : last.replay.records = recordsOf (contents ++ [⟨header, more⟩]) := by
    rw [recordsOf_snoc, ← held, reads.records]
  have payload : last.replay.payloadBytes =
      payloadTotal (recordsOf (contents ++ [⟨header, more⟩])) := by
    rw [← records, reads.payload, reads.records, payloadTotal_append, read.holds.payload, held]
  have counted : last.expectedSequence.val =
      (recordsOf (contents ++ [⟨header, more⟩])).length + 1 := by
    rw [← records, reads.sequence, reads.records, length_append]
  constructor
  case linked =>
    refine .snoc read.holds.linked ⟨linked, follows, ?_, reads.fits⟩
    rw [← held]
    exact reads.numbered
  case admitted =>
    refine ⟨?_, ?_, ?_, counted ▸ last.expectedSequence.isLt⟩
    · rwa [length_append, length_singleton]
    · rw [← records]
      exact reads.withinRecords
    · rw [← payload]
      exact reads.withinPayload
  case records => exact records
  case last =>
    rw [← records, reads.records, length_append]
    exact reads.last
  case prefixes =>
    rw [map_append, ← read.holds.prefixes, ← reads.prefixes, map_singleton, ← reads.offset]
    rfl
  case payload => exact payload

theorem close (whole : SegmentContent.bytes digests ⟨header, more⟩ = bytes) {index : U32}
    (succeeds : checkedSucc cursor.expectedIndex = some index) :
    ∃ next, cursor.close digests header bytes last = .ok next ∧
      next.Read digests limits (contents ++ [⟨header, more⟩]) := by
  refine ⟨_, by rw [ReplayCursor.close, succeeds]; rfl,
    read.endAt linked follows within reads _, ?_, ?_,
    ?_, ?_, ?_⟩
  · rw [read.gid]
    cases contents <;> rfl
  · rw [read.journal]
    cases contents <;> rfl
  · rw [checkedSucc_eq_some.mp succeeds, read.index, length_append, length_singleton]
  · rw [reads.sequence, read.holds.records, recordsOf_snoc, length_append]
  · intro final member
    rw [getLast?_concat, Option.mem_some_iff] at member
    rw [← member, whole]

end

/-- A turn of the segment loop reads a whole segment of the chain, or it ends
with a chain whose last segment is an initial part of this one. -/
theorem replaySegment (addressable : cursor.replay.records.length + bytes.length < 2 ^ 64) :
    (∃ next segment, Ariax.replaySegment digests limits contents.length bytes cursor = .ok next ∧
        segment.bytes digests = bytes ∧ next.Read digests limits (contents ++ [segment])) ∨
      ∃ replay, Ariax.replaySegment digests limits contents.length bytes cursor = .error replay ∧
        (replay.Holds digests limits contents ∨
          ∃ segment, segment.bytes digests <+: bytes ∧
            replay.Holds digests limits (contents ++ [segment])) := by
  have ended (stop : ReplayStop) := read.holds.withStop stop
  unfold Ariax.replaySegment
  by_cases limited : limits.maxSegments.val ≤ contents.length
  · exact .inr ⟨_, by rw [rejectIf_eq_error.mpr ⟨limited, rfl⟩]; rfl, .inl (ended _)⟩
  have within := Nat.not_le.mp limited
  rw [rejectIf_of_not limited, Except.ok_bind]
  cases decoded : SegmentHeader.decode digests bytes with
  | error => exact .inr ⟨_, rfl, .inl (ended _)⟩
  | ok header =>
  cases checked : cursor.checkHeader header with
  | error stop =>
    refine .inr ⟨_, ?_, .inl (ended stop)⟩
    simp only [Except.mapError, checked, Except.ok_bind, Except.error_bind]
  | ok =>
  obtain ⟨linked, starts⟩ := (SegmentHeader.decode_iff_encoded digests).mp decoded
  have follows := (read.checkHeader header).mp checked
  obtain ⟨last, more, reads, loop⟩ := (read.reads starts).replayRecords addressable
  simp only [Except.mapError, checked, Except.ok_bind]
  rcases loop with ⟨loop, whole⟩ | ⟨stop, loop⟩
  · rw [loop, Except.ok_bind]
    cases succeeds : checkedSucc cursor.expectedIndex with
    | none =>
      exact .inr ⟨_, close_of_exhausted digests succeeds header bytes last,
        .inr ⟨_, reads.canonical, read.endAt linked follows within reads _⟩⟩
    | some =>
      obtain ⟨next, closed, held⟩ := read.close linked follows within reads whole succeeds
      exact .inl ⟨next, _, closed, whole, held⟩
  · rw [loop]
    exact .inr ⟨_, rfl, .inr ⟨_, reads.canonical, read.endAt linked follows within reads _⟩⟩

theorem replaySegment_enter {segment : SegmentContent}
    (continues : segment.Continues digests contents) {rest : Bytes}
    (whole : bytes = segment.bytes digests ++ rest)
    (admits : JournalReplay.Admits limits segment.header cursor.replay segment.records)
    {inputIndex : ℕ} (within : inputIndex < limits.maxSegments.val) :
    ∃ last, last.Reads digests limits segment.header bytes cursor.replay segment.records ∧
      Ariax.replaySegment digests limits inputIndex bytes cursor =
        (replayRecords digests limits segment.header bytes last >>=
          cursor.close digests segment.header bytes) := by
  have starts : bytes = segment.header.encode digests ++
      (encodings digests segment.records ++ rest) := by
    rw [whole, SegmentContent.bytes, append_assoc]
  have decoded : SegmentHeader.decode digests bytes = .ok segment.header := by
    rw [starts]
    exact SegmentHeader.decode_encode digests continues.linked _
  have checked := (read.checkHeader segment.header).mpr continues.follows
  obtain ⟨last, reads, loop⟩ := (read.reads ⟨_, starts.symm⟩).replayRecords_follow whole admits
  refine ⟨last, reads, ?_⟩
  rw [Ariax.replaySegment, rejectIf_of_not (Nat.not_le.mpr within), Except.ok_bind, decoded]
  simp only [Except.mapError, checked, Except.ok_bind, loop]

end ReplayCursor.Read

/-- The segments cut to valid prefixes, without those that have none. -/
def trimSegments (segments : List Bytes) (prefixes : List ℕ) : List Bytes :=
  zipWith (fun bytes length => bytes.take length) segments prefixes

namespace ReplayCursor.Read

variable (read : cursor.Read digests limits contents)
include read

/-- The segment loop ends with a chain that prolongs the one it has read, and
whose bytes are initial parts of the segments. -/
theorem replaySegments {segments : List Bytes}
    (addressable : cursor.replay.records.length + (segments.map length).sum < 2 ^ 64) :
    ∃ more, (replaySegments digests limits contents.length segments cursor).Holds digests limits
        (contents ++ more) ∧
      trimSegments segments (more.map fun segment => (segment.bytes digests).length) =
        more.map (·.bytes digests) := by
  induction segments generalizing cursor contents with
  | nil =>
    refine ⟨[], ?_, rfl⟩
    rw [append_nil]
    exact read.holds.withStop .cleanEnd
  | cons bytes _ ih =>
    rw [map_cons, sum_cons] at addressable
    have here : cursor.replay.records.length + bytes.length < 2 ^ 64 := by omega
    rw [Ariax.replaySegments]
    rcases read.replaySegment here with
      ⟨next, segment, turn, whole, held⟩ | ⟨replay, turn, held | ⟨segment, initial, held⟩⟩
    · have grown : next.replay.records.length ≤ cursor.replay.records.length + bytes.length := by
        have counted := length_le_encodings digests segment.records
        rw [recordOverhead] at counted
        rw [held.holds.records, read.holds.records, recordsOf_snoc,
          length_append, ← whole, SegmentContent.length_bytes]
        omega
      obtain ⟨more, result, trimmed⟩ := ih held (by omega)
      refine ⟨segment :: more, ?_, ?_⟩
      · rw [length_append, length_singleton, append_assoc] at result
        rw [turn]
        exact result
      · rw [trimSegments, map_cons, map_cons, zipWith_cons_cons, ← trimSegments,
          trimmed, ← whole, take_length]
    · refine ⟨[], ?_, by simp [trimSegments]⟩
      rwa [turn, append_nil]
    · refine ⟨[segment], by rwa [turn], ?_⟩
      rw [trimSegments, map_singleton, map_singleton, zipWith_cons_cons,
        zipWith_nil_right, ← prefix_iff_eq_take.mp initial]

theorem admits {segment : SegmentContent} (continues : segment.Continues digests contents)
    (admitted : limits.Admit (contents ++ [segment])) :
    JournalReplay.Admits limits segment.header cursor.replay segment.records := by
  obtain ⟨-, records, payload, sequences⟩ := admitted
  rw [recordsOf_snoc] at *
  rw [length_append] at records sequences
  rw [payloadTotal_append] at payload
  constructor
  case numbered =>
    rw [read.holds.records]
    exact continues.numbered
  case fits => exact continues.fits
  case withinRecords => rwa [read.holds.records]
  case withinPayload => rwa [read.holds.payload]
  case sequences => rwa [read.holds.records]

theorem replaySegments_follow
    (linked : Linked digests (contents ++ more)) (admitted : limits.Admit (contents ++ more))
    (indexed : (contents ++ more).length < 2 ^ 32) (rest : List Bytes) :
    ∃ next : ReplayCursor, next.Read digests limits (contents ++ more) ∧
      Ariax.replaySegments digests limits contents.length (more.map (·.bytes digests) ++ rest)
          cursor = Ariax.replaySegments digests limits (contents ++ more).length rest next := by
  induction more generalizing cursor contents with
  | nil => exact ⟨cursor, by rwa [append_nil], by rw [append_nil]; rfl⟩
  | cons segment _ ih =>
    have continues := linked.continues
    rw [← singleton_append, ← append_assoc] at linked admitted indexed ⊢
    have here := admitted.of_append
    obtain ⟨last, reads, entered⟩ := read.replaySegment_enter continues
      (append_nil _).symm (read.admits continues here) here.within
    have ended : ¬last.offset < (segment.bytes digests).length := by
      rw [reads.offset]
      exact lt_irrefl _
    obtain ⟨index, succeeds⟩ := exists_checkedSucc (x := cursor.expectedIndex) (by
      rw [length_append, length_append, length_singleton] at indexed
      rw [read.index]
      omega)
    obtain ⟨next, closed, held⟩ :=
      read.close continues.linked continues.follows here.within reads rfl succeeds
    obtain ⟨final, held', followed⟩ := ih held linked admitted indexed
    refine ⟨final, held', ?_⟩
    rw [← followed, map_append, map_singleton, append_assoc,
      singleton_append, Ariax.replaySegments, entered, replayRecords_of_end ended,
      ok_bind, closed, length_append, length_singleton]

end ReplayCursor.Read

/-- Where replay of a chain of so many segments stops: it advances the segment
index after the last of them too. -/
def chainEnd (count : ℕ) : ReplayStop :=
  if count < 2 ^ 32 then .cleanEnd else .resourceLimit .segments

theorem chainEnd_eq_cleanEnd {count : ℕ} : chainEnd count = .cleanEnd ↔ count < 2 ^ 32 := by
  unfold chainEnd
  split
  · next small => exact iff_of_true rfl small
  · next large => exact iff_of_false (by rintro ⟨⟩) large

section

variable (linked : Linked digests (contents ++ [segment]))
  (admitted : limits.Admit (contents ++ [segment]))
include linked admitted

theorem replayOrderedSegments_enter (indexed : contents.length < 2 ^ 32) {bytes rest : Bytes}
    (whole : bytes = segment.bytes digests ++ rest) :
    ∃ (cursor : ReplayCursor) (last : RecordCursor), cursor.Read digests limits contents ∧
      last.Reads digests limits segment.header bytes cursor.replay segment.records ∧
      ∀ replay, (replayRecords digests limits segment.header bytes last >>=
          cursor.close digests segment.header bytes) = .error replay →
        replayOrderedSegments digests limits (contents.map (·.bytes digests) ++ [bytes]) =
          replay := by
  have continues := linked.continues
  have start : initial.Read digests limits [] := .initial
  have earlier : Linked digests ([] ++ contents) := linked.init
  obtain ⟨cursor, read, followed⟩ :=
    start.replaySegments_follow earlier admitted.of_append indexed [bytes]
  obtain ⟨last, reads, entered⟩ :=
    read.replaySegment_enter continues whole (read.admits continues admitted) admitted.within
  refine ⟨cursor, last, read, reads, fun replay ended => ?_⟩
  have segments : contents.map (·.bytes digests) ++ [bytes] ≠ [] := by simp
  rw [length_nil, nil_append] at followed
  rw [replayOrderedSegments, if_neg segments, followed, replaySegments, entered, ended]

/-- A chain is read whole; if its last segment has the last index, replay
reports the segment budget as exhausted. -/
theorem replayOrderedSegments_of_linked :
    let replay := replayOrderedSegments digests limits
      ((contents ++ [segment]).map (·.bytes digests))
    replay.Holds digests limits (contents ++ [segment]) ∧
      replay.stop = chainEnd (contents.length + 1) := by
  have continues := linked.continues
  unfold chainEnd
  split
  · next indexed =>
    have start : initial.Read digests limits [] := .initial
    have whole : Linked digests ([] ++ (contents ++ [segment])) := linked
    obtain ⟨next, read, followed⟩ := start.replaySegments_follow whole admitted
      (by rwa [nil_append, length_append]) []
    have segments : (contents ++ [segment]).map (·.bytes digests) ≠ [] := by simp
    rw [append_nil, length_nil] at followed
    rw [replayOrderedSegments, if_neg segments, followed]
    exact ⟨read.holds.withStop .cleanEnd, rfl⟩
  · next full =>
    have indexed : contents.length < 2 ^ 32 := by
      rw [← continues.follows.index]
      exact segment.header.segmentIndex.isLt
    obtain ⟨cursor, last, read, reads, ends⟩ := replayOrderedSegments_enter linked admitted indexed
      (append_nil (segment.bytes digests)).symm
    have ended : ¬last.offset < (segment.bytes digests).length := by
      rw [reads.offset]
      exact lt_irrefl _
    have exhausted : checkedSucc cursor.expectedIndex = none := by
      rw [checkedSucc_eq_none, read.index]
      omega
    rw [map_append, map_singleton, ends _ (by
      rw [replayRecords_of_end ended, ok_bind, close_of_exhausted _ exhausted])]
    exact ⟨read.endAt continues.linked continues.follows admitted.within reads _, rfl⟩

/-- A chain whose last segment ends in bytes that are no record is read up to them. -/
theorem replayOrderedSegments_of_torn (indexed : contents.length < 2 ^ 32)
    (room : (recordsOf (contents ++ [segment])).length < limits.maxRecords.val) {torn : Bytes}
    (nonempty : torn ≠ []) {sequence : U64}
    (expected : sequence.val = (recordsOf (contents ++ [segment])).length + 1)
    {reason : RecordStopReason}
    (stopped : decodeRecord digests torn sequence segment.header.startingGeneration =
      .error reason) :
    let replay := replayOrderedSegments digests limits
      (contents.map (·.bytes digests) ++ [segment.bytes digests ++ torn])
    replay.Holds digests limits (contents ++ [segment]) ∧
      replay.stop =
        .record segment.header.segmentIndex (segment.bytes digests).length reason := by
  intro replay
  obtain ⟨cursor, last, read, reads, ends⟩ :=
    replayOrderedSegments_enter linked admitted indexed rfl
  have continues := linked.continues
  have counted : last.replay.records.length = (recordsOf (contents ++ [segment])).length := by
    rw [reads.records, read.holds.records, recordsOf_snoc]
  have next : last.expectedSequence = sequence := by
    apply Fin.ext
    rw [expected, reads.sequence, ← length_append, ← reads.records, counted]
  have inside : last.offset < (segment.bytes digests ++ torn).length := by
    rw [reads.offset, length_append]
    exact Nat.lt_add_of_pos_right (length_pos_iff.mpr nonempty)
  have remaining : (segment.bytes digests ++ torn).drop last.offset = torn := by
    rw [reads.offset]
    exact drop_left
  have turn : replayRecord digests limits segment.header (segment.bytes digests ++ torn) last =
      .error (last.replay.endAt last.offset
        (.record segment.header.segmentIndex last.offset reason)) := by
    rw [replayRecord, counted, if_neg (Nat.not_le.mpr room), remaining, next, stopped]
  have ended : replay = last.replay.endAt last.offset
      (.record segment.header.segmentIndex last.offset reason) :=
    ends _ (by rw [replayRecords_of_error inside turn, error_bind])
  rw [ended]
  refine ⟨read.endAt continues.linked continues.follows admitted.within reads _, ?_⟩
  rw [JournalReplay.endAt, reads.offset]

end

/-- Whatever the segments are, replay holds a chain, and the valid prefixes of
the segments are its bytes. -/
theorem replayOrderedSegments_holds {segments : List Bytes}
    (addressable : (segments.map length).sum < 2 ^ 64) :
    ∃ contents : List SegmentContent,
      (replayOrderedSegments digests limits segments).Holds digests limits contents ∧
      trimSegments segments (replayOrderedSegments digests limits segments).validSegmentPrefixes =
        contents.map (·.bytes digests) := by
  have start : initial.Read digests limits [] := .initial
  unfold replayOrderedSegments
  split
  · rename_i none
    exact ⟨[], start.holds, by simp [none, trimSegments]⟩
  · have bounded : initial.replay.records.length + (segments.map length).sum <
        2 ^ 64 := by
      rwa [show initial.replay.records = [] from rfl, length_nil, Nat.zero_add]
    obtain ⟨contents, holds, trimmed⟩ := start.replaySegments bounded
    rw [length_nil, nil_append] at holds
    refine ⟨contents, holds, ?_⟩
    rw [holds.prefixes]
    exact trimmed

end Ariax
