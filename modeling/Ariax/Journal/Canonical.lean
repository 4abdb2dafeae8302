import Ariax.Journal.History

/-!
# Replay trusts only canonical bytes

Replay of arbitrary segments accepts canonical encodings and nothing else, and
its accepted prefixes are a journal of their own, which replays to a clean end.
The one exception to the latter is a journal that uses the last segment index:
replay advances the index after the last segment too, and reports the segment
budget as exhausted.
-/

namespace Ariax

section Trimmed

variable {digests : Digests} {contents : List SegmentContent} {segment : SegmentContent}

theorem Linked.of_mem (linked : Linked digests contents)
    (member : segment ∈ contents) : segment.header.WellLinked ∧
      ∀ record ∈ segment.records, record.Fits segment.header.startingGeneration := by
  obtain ⟨before, after, rfl⟩ := List.mem_iff_append.mp member
  exact ⟨linked.continues.linked, linked.continues.fits⟩

/-- The initial part of a segment that is the bytes of one of a chain encodes
the header that the segment decodes to and the records after it. -/
theorem Linked.trimmed (linked : Linked digests contents) {segments : List Bytes}
    {prefixes : List ℕ} (trimmed : trimSegments segments prefixes = contents.map (·.bytes digests))
    {i : ℕ} (here : contents[i]? = some segment) :
    ∃ bytes length, segments[i]? = some bytes ∧ prefixes[i]? = some length ∧
      SegmentHeader.decode digests bytes = .ok segment.header ∧
      segment.encode digests = .ok (bytes.take length) := by
  have cut : (trimSegments segments prefixes)[i]? = some (segment.bytes digests) := by
    rw [trimmed, List.getElem?_map, here, Option.map_some]
  obtain ⟨bytes, length, found, recorded, same⟩ := List.getElem?_zipWith_eq_some.mp cut
  obtain ⟨wellLinked, fits⟩ := linked.of_mem (List.mem_of_getElem? here)
  refine ⟨bytes, length, found, recorded, ?_, ?_⟩
  · rw [← List.take_append_drop length bytes, same, SegmentContent.bytes, List.append_assoc]
    exact SegmentHeader.decode_encode digests wellLinked _
  · rw [same]
    exact SegmentContent.encode_of_fits digests fits

/-- The accepted prefixes are replayed to the same records and to the end of a chain. -/
theorem replayOrderedSegments_trimmed {limits : ReplayLimits} {segments : List Bytes}
    (addressable : (segments.map List.length).sum < 2 ^ 64)
    (recorded : (replayOrderedSegments digests limits segments).validSegmentPrefixes ≠ []) :
    let replay := replayOrderedSegments digests limits segments
    replayOrderedSegments digests limits (trimSegments segments replay.validSegmentPrefixes) =
      { replay with stop := chainEnd replay.validSegmentPrefixes.length } := by
  intro replay
  obtain ⟨contents, holds, trimmed⟩ := @replayOrderedSegments_holds digests limits _ addressable
  rcases List.eq_nil_or_concat' contents with rfl | ⟨init, last, rfl⟩
  · exact absurd holds.prefixes recorded
  · obtain ⟨again, stopped⟩ := replayOrderedSegments_of_linked holds.linked holds.admitted
    have counted : replay.validSegmentPrefixes.length = init.length + 1 := by
      rw [holds.prefixes, List.length_map, List.length_append, List.length_singleton]
    rw [trimmed, ← again.unique holds, stopped, counted]

end Trimmed

/-- For segments that fit a 64-bit address space, replay numbers its records
from one to its last sequence, keeps within its limits, and accepts of each
segment the canonical encoding of a header and of records. The accepted
prefixes are replayed to the same records and to the end of a chain. -/
theorem replayOrderedSegments_canonical (digests : Digests) (limits : ReplayLimits)
    (segments : List Bytes) (addressable : (segments.map List.length).sum < 2 ^ 64) :
    let replay := replayOrderedSegments digests limits segments
    replay.records.map (·.sequence.val) = List.range' 1 replay.lastSequence.val ∧
      (replay.records.length ≤ limits.maxRecords.val ∧
        replay.payloadBytes = payloadTotal replay.records ∧
        replay.payloadBytes ≤ limits.maxPayloadBytes.val) ∧
      (∃ contents : List SegmentContent, recordsOf contents = replay.records ∧
        contents.length = replay.validSegmentPrefixes.length ∧
        ∀ (i : ℕ) segment, contents[i]? = some segment →
          ∃ bytes length, segments[i]? = some bytes ∧
            replay.validSegmentPrefixes[i]? = some length ∧
            SegmentHeader.decode digests bytes = .ok segment.header ∧
            segment.encode digests = .ok (bytes.take length)) ∧
      (replay.validSegmentPrefixes ≠ [] →
        replayOrderedSegments digests limits
            (trimSegments segments replay.validSegmentPrefixes) =
          { replay with stop := chainEnd replay.validSegmentPrefixes.length }) := by
  intro replay
  have held : ∃ contents : List SegmentContent, replay.Holds digests limits contents ∧
      trimSegments segments replay.validSegmentPrefixes = contents.map (·.bytes digests) :=
    replayOrderedSegments_holds addressable
  obtain ⟨contents, holds, trimmed⟩ := held
  refine ⟨?_, ⟨?_, ?_, ?_⟩, ⟨contents, holds.records.symm, ?_, ?_⟩, ?_⟩
  · rw [holds.records, holds.last]
    exact holds.linked.numbered
  · rw [holds.records]
    exact holds.admitted.records
  · rw [holds.payload, holds.records]
  · rw [holds.payload]
    exact holds.admitted.payload
  · rw [holds.prefixes, List.length_map]
  · intro i segment here
    exact holds.linked.trimmed trimmed here
  · exact replayOrderedSegments_trimmed addressable

/-! ## The last segment index -/

theorem SoloJournal.accepted {count : ℕ} {journal : Journal} {contents : List SegmentContent}
    {segment : SegmentContent} (solo : SoloJournal count journal contents segment) :
    (journal.segments.map List.length).sum < 2 ^ 64 ∧
      (replayOrderedSegments plainDigests .largest
        journal.segments).validSegmentPrefixes.length = count + 1 := by
  have indexed : count < 2 ^ 32 := by
    rw [← solo.earlier, ← solo.holds.linked.continues.follows.index]
    exact segment.header.segmentIndex.isLt
  obtain ⟨held, -⟩ := replayOrderedSegments_of_linked solo.holds.linked
    (solo.holds.admitted solo.cover)
  rw [solo.holds.segments, solo.solo.bytes, held.prefixes, List.length_map, List.length_append,
    List.length_singleton, solo.earlier]
  omega

theorem replayOrderedSegments_canonical_solo : ∃ journal, soloJournal 1 = .ok journal ∧
    let segments := journal.segments
    let replay := replayOrderedSegments plainDigests .largest segments
    (segments.map List.length).sum < 2 ^ 64 ∧ replay.validSegmentPrefixes ≠ [] ∧
      replayOrderedSegments plainDigests .largest
          (trimSegments segments replay.validSegmentPrefixes) =
        { replay with stop := .cleanEnd } := by
  obtain ⟨journal, _, _, solo⟩ := SoloJournal.exists_count (show 1 < 2 ^ 32 by decide)
  obtain ⟨small, counted⟩ := solo.accepted
  have recorded := List.ne_nil_of_length_eq_add_one counted
  have trimmed :=
    (replayOrderedSegments_canonical plainDigests .largest journal.segments small).2.2.2 recorded
  refine ⟨journal, solo.built, small, recorded, trimmed.trans ?_⟩
  rw [counted]
  rfl

/-- A journal of `2 ^ 32` segments is accepted whole, but neither it nor its
accepted prefixes are replayed to a clean end. -/
theorem replayOrderedSegments_full_index : ∃ journal, soloJournal 4294967295 = .ok journal ∧
    let segments := journal.segments
    let replay := replayOrderedSegments plainDigests .largest segments
    (segments.map List.length).sum < 2 ^ 64 ∧ replay.validSegmentPrefixes ≠ [] ∧
      (replayOrderedSegments plainDigests .largest
        (trimSegments segments replay.validSegmentPrefixes)).stop ≠ .cleanEnd := by
  obtain ⟨journal, _, _, solo⟩ :=
    SoloJournal.exists_count (show 4294967295 < 2 ^ 32 by decide)
  obtain ⟨small, counted⟩ := solo.accepted
  have recorded := List.ne_nil_of_length_eq_add_one counted
  refine ⟨journal, solo.built, small, recorded, ?_⟩
  rw [replayOrderedSegments_trimmed small recorded, counted, Ne, chainEnd_eq_cleanEnd]
  decide

end Ariax
