import Ariax.Layout.Admission

/-!
# Spans and pieces of a layout

The files of a layout partition its bytes, empty files included, so a span
lies in the range of at most one file and the search of the mapper finds
it. The spans of the pieces partition the same bytes.
-/

namespace Ariax

/-! ## The ranges of the files -/

def FileEntry.Has (file : FileEntry) (byte : ℕ) : Prop :=
  file.globalStart.val ≤ byte ∧ byte < file.globalEnd.val

instance (file : FileEntry) (byte : ℕ) : Decidable (file.Has byte) :=
  inferInstanceAs (Decidable (_ ∧ _))

def FileEntry.Contains (file : FileEntry) (span : GlobalSpan) : Prop :=
  file.globalStart.val ≤ span.offset ∧ span.stop ≤ file.globalEnd.val

def FileEntry.Before (file other : FileEntry) : Prop :=
  file.id.get.val < other.id.get.val ∧ file.globalEnd.val ≤ other.globalStart.val

/-- Where files that follow one another from an offset on end. -/
def layoutEnd : ℕ → List FileEntry → ℕ
  | start, [] => start
  | _, file :: rest => layoutEnd file.globalEnd.val rest

theorem layoutEnd_eq {start : ℕ} {files : List FileEntry} :
    layoutEnd start files = (files.getLast?).elim start fun file => file.globalEnd.val := by
  induction files generalizing start with
  | nil => rfl
  | cons _ rest ih =>
    rw [layoutEnd, ih, List.getLast?_cons]
    cases rest.getLast? <;> rfl

namespace Contiguous

variable {index start byte : ℕ} {files : List FileEntry} {file other : FileEntry}
  (contiguous : Contiguous index start files)
include contiguous

theorem le_layoutEnd : start ≤ layoutEnd start files := by
  induction files generalizing index start with
  | nil => exact le_rfl
  | cons _ _ ih => exact contiguous.2.2.1.trans (ih contiguous.2.2.2)

theorem bounds (member : file ∈ files) : index ≤ file.id.get.val ∧ start ≤ file.globalStart.val ∧
      file.globalStart.val ≤ file.globalEnd.val ∧ file.globalEnd.val ≤ layoutEnd start files := by
  induction files generalizing index start with
  | nil => cases member
  | cons _ _ ih =>
    obtain ⟨number, begins, grows, contiguous⟩ := contiguous
    rcases List.mem_cons.mp member with rfl | member
    · exact ⟨number.ge, begins.ge, begins ▸ grows, contiguous.le_layoutEnd⟩
    · obtain ⟨later, after, upward, below⟩ := ih contiguous member
      exact ⟨(Nat.le_succ _).trans later, grows.trans after, upward, below⟩

theorem exists_has (after : start ≤ byte) (below : byte < layoutEnd start files) :
    ∃ file ∈ files, file.Has byte := by
  induction files generalizing index start with
  | nil => exact absurd below (not_lt.mpr after)
  | cons first _ ih =>
    obtain ⟨-, begins, -, contiguous⟩ := contiguous
    by_cases inside : byte < first.globalEnd.val
    · exact ⟨first, List.mem_cons_self, begins ▸ after, inside⟩
    · obtain ⟨file, member, has⟩ := ih contiguous (not_lt.mp inside) below
      exact ⟨file, List.mem_cons_of_mem _ member, has⟩

theorem pairwise_before : files.Pairwise FileEntry.Before := by
  induction files generalizing index start with
  | nil => exact .nil
  | cons _ _ ih =>
    obtain ⟨number, -, -, contiguous⟩ := contiguous
    refine .cons (fun file member => ?_) (ih contiguous)
    obtain ⟨later, after, -⟩ := contiguous.bounds member
    exact ⟨by omega, after⟩

variable (member : file ∈ files) (listed : other ∈ files)
include member listed

theorem ordered : file = other ∨ file.Before other ∨ other.Before file :=
  List.Pairwise.forall_of_forall_of_flip
    (R := fun file other => file = other ∨ file.Before other ∨ other.Before file)
    (fun _ _ => .inl rfl) (contiguous.pairwise_before.imp fun before => .inr (.inl before))
    (contiguous.pairwise_before.imp fun before => .inr (.inr before)) member listed

theorem eq_of_has (has : file.Has byte) (holds : other.Has byte) : file = other := by
  obtain ⟨_, _⟩ := has
  obtain ⟨_, _⟩ := holds
  rcases contiguous.ordered member listed with same | ⟨-, _⟩ | ⟨-, _⟩
  all_goals omega

theorem eq_of_id (same : file.id = other.id) : file = other := by
  rcases contiguous.ordered member listed with equal | ⟨less, -⟩ | ⟨less, -⟩
  · exact equal
  all_goals exact absurd less (by rw [same]; exact lt_irrefl _)

end Contiguous

/-! ## The mapper -/

namespace FileLayout

variable {layout : FileLayout} {total : U64} {file other : FileEntry} {span : GlobalSpan}

theorem layoutEnd_files (known : layout.totalLength = some total) :
    layoutEnd 0 layout.files = total.val := by
  have found := List.getLast?_eq_some_getLast layout.nonempty
  rw [layoutEnd_eq, found, Option.elim_some, layout.total total known _ found]

theorem has_offset (contains : file.Contains span) (nonempty : span.len ≠ 0) :
    file.Has span.offset :=
  ⟨contains.1, (Nat.lt_add_of_pos_right (Nat.pos_of_ne_zero nonempty)).trans_le contains.2⟩

theorem find?_has (member : file ∈ layout.files) (has : file.Has span.offset) :
    layout.files.find? (fun file => file.globalStart.val ≤ span.offset ∧
      span.offset < file.globalEnd.val) = some file := by
  generalize found : layout.files.find? _ = first
  cases first with
  | none => exact absurd (decide_eq_true has) (List.find?_eq_none.mp found file member)
  | some first =>
    have first_has : first.Has span.offset := of_decide_eq_true (List.find?_some found :)
    rw [layout.contiguous.eq_of_has (List.mem_of_find?_eq_some found) member first_has has]

theorem map_eq_ok (known : layout.totalLength = some total) {result : FileSpan} :
    layout.map span = .ok result ↔ span.len ≠ 0 ∧ span.stop ≤ total.val ∧ ∃ file ∈ layout.files,
      file.Contains span ∧ file.selected = true ∧
        result = ⟨file.id, span.offset - file.globalStart.val, span.len⟩ := by
  simp only [FileLayout.map, known, Except.ite_error_eq_ok]
  constructor
  · rintro ⟨nonempty, -, inside, mapped⟩
    refine ⟨nonempty, not_lt.mp inside, ?_⟩
    split at mapped
    · cases mapped
    · rename_i file found
      simp only [Except.ite_error_eq_ok, not_lt, Except.ok.injEq] at mapped
      obtain ⟨below, selected, rfl⟩ := mapped
      have begins : file.Has span.offset := of_decide_eq_true (List.find?_some found :)
      exact ⟨file, List.mem_of_find?_eq_some found, ⟨begins.1, below⟩, by simpa using selected, rfl⟩
  · rintro ⟨nonempty, inside, file, member, contains, selected, rfl⟩
    refine ⟨nonempty, by omega, not_lt.mpr inside, ?_⟩
    rw [find?_has member (has_offset contains nonempty)]
    simp [not_lt.mpr contains.2, selected]

end FileLayout

/-! ## Pieces -/

inductive JournalStateError where
  | spanOutsideLayout
  | pieceSpanMismatch
  | payload (error : PayloadCodecError)
  deriving DecidableEq

namespace FileLayout

/-- The span of a piece, as the replay of a journal expects it. -/
def expectedPieceSpan (layout : FileLayout) (piece : PieceId) :
    Except JournalStateError PersistedSpan := do
  let total ← okOr layout.totalLength .spanOutsideLayout
  let start := piece.get.val * layout.pieceLength.val
  rejectIf (2 ^ 64 ≤ start) .pieceSpanMismatch
  rejectIf (total.val ≤ start) .pieceSpanMismatch
  (PersistedSpan.new (Fin.ofNat _ start)
    (Fin.ofNat _ (min layout.pieceLength.val (total.val - start)))).mapError .payload

variable {layout : FileLayout} {total : U64} {piece : PieceId} {span : PersistedSpan}

theorem expectedPieceSpan_eq_ok (known : layout.totalLength = some total) :
    layout.expectedPieceSpan piece = .ok span ↔
      piece.get.val * layout.pieceLength.val < total.val ∧
        span.offset.val = piece.get.val * layout.pieceLength.val ∧
        span.stop =
          min (piece.get.val * layout.pieceLength.val + layout.pieceLength.val) total.val := by
  have positive := Nat.pos_of_ne_zero layout.pieceLength_ne_zero
  have bound := total.isLt
  simp only [expectedPieceSpan, known, okOr_some, Except.ok_bind, Except.bind_eq_ok, rejectIf_eq_ok,
    exists_const, Except.mapError_eq_ok, not_le]
  constructor
  · rintro ⟨-, inside, made⟩
    exact (PersistedSpan.new_clipped_eq_ok inside.le positive bound).mp made
  · rintro ⟨inside, geometry⟩
    refine ⟨by omega, inside, (PersistedSpan.new_clipped_eq_ok inside.le positive bound).mpr ?_⟩
    exact ⟨inside, geometry⟩

theorem exists_expectedPieceSpan (known : layout.totalLength = some total) :
    (∃ span, layout.expectedPieceSpan piece = .ok span) ↔
      piece.get.val * layout.pieceLength.val < total.val := by
  constructor
  · rintro ⟨span, made⟩
    exact ((expectedPieceSpan_eq_ok known).mp made).1
  · intro inside
    have positive := Nat.pos_of_ne_zero layout.pieceLength_ne_zero
    simp only [expectedPieceSpan_eq_ok known, inside, true_and, PersistedSpan.stop]
    revert inside
    generalize piece.get.val * layout.pieceLength.val = start
    intro inside
    refine ⟨⟨⟨start, by omega⟩, ⟨min layout.pieceLength.val (total.val - start), by omega⟩, ?_, ?_⟩,
      rfl, ?_⟩
    all_goals simp only; omega

/-- The files partition the bytes of a layout, the mapper finds the file of every span that lies
in one, and the pieces tile the same bytes. -/
structure Partitions (layout : FileLayout) (total : U64) : Prop where
  within : ∀ file ∈ layout.files,
    file.globalStart.val ≤ file.globalEnd.val ∧ file.globalEnd.val ≤ total.val
  covered : ∀ byte < total.val, ∃! file, file ∈ layout.files ∧ file.Has byte
  mapped : ∀ span result, layout.map span = .ok result ↔
    span.len ≠ 0 ∧ span.stop ≤ total.val ∧ ∃! file, file ∈ layout.files ∧ file.Contains span ∧
      file.selected = true ∧ result.file = file.id ∧
      result.fileOffset + file.globalStart.val = span.offset ∧ result.len = span.len
  apart : ∀ a b spanA spanB, layout.map a = .ok spanA → layout.map b = .ok spanB →
    a.stop ≤ b.offset ∨ b.stop ≤ a.offset → spanA.file = spanB.file →
      spanA.fileOffset + spanA.len ≤ spanB.fileOffset ∨
        spanB.fileOffset + spanB.len ≤ spanA.fileOffset
  pieces : ∀ piece, (∃ span, layout.expectedPieceSpan piece = .ok span) ↔
    piece.get.val < divCeil total.val layout.pieceLength.val
  placed : ∀ piece span, layout.expectedPieceSpan piece = .ok span →
    span.offset.val = piece.get.val * layout.pieceLength.val ∧ span.stop ≤ total.val
  tiled : ∀ byte < total.val, ∃! piece, ∃ span, layout.expectedPieceSpan piece = .ok span ∧
    span.offset.val ≤ byte ∧ byte < span.stop

theorem existsUnique_piece (known : layout.totalLength = some total) {byte : ℕ}
    (inside : byte < total.val) : ∃! piece, ∃ span, layout.expectedPieceSpan piece = .ok span ∧
      span.offset.val ≤ byte ∧ byte < span.stop := by
  have positive := Nat.pos_of_ne_zero layout.pieceLength_ne_zero
  have start := Nat.div_mul_le_self byte layout.pieceLength.val
  have stop : byte < _ := Nat.lt_div_mul_add positive
  have small : byte / layout.pieceLength.val < 2 ^ 64 :=
    (Nat.div_le_self ..).trans_lt (inside.trans total.isLt)
  refine ⟨⟨⟨_, small⟩⟩, ?_, ?_⟩
  · have known_piece : PieceId.get ⟨⟨_, small⟩⟩ * layout.pieceLength.val < total.val :=
      start.trans_lt inside
    obtain ⟨span, made⟩ := (exists_expectedPieceSpan known).mpr known_piece
    obtain ⟨-, begins, ends⟩ := (expectedPieceSpan_eq_ok known).mp made
    exact ⟨span, made, begins ▸ start, ends ▸ lt_min stop inside⟩
  · rintro piece ⟨span, made, after, below⟩
    obtain ⟨-, begins, ends⟩ := (expectedPieceSpan_eq_ok known).mp made
    rw [begins] at after
    rw [ends, lt_min_iff] at below
    have same : byte / layout.pieceLength.val = piece.get.val :=
      Nat.div_eq_of_lt_le after (by rw [Nat.succ_mul]; exact below.1)
    exact PieceId.get_injective (Fin.ext same.symm)

theorem existsUnique_contains (layout : FileLayout) {span : GlobalSpan} (nonempty : span.len ≠ 0)
    {P : FileEntry → Prop} : (∃ file ∈ layout.files, file.Contains span ∧ P file) ↔
      ∃! file, file ∈ layout.files ∧ file.Contains span ∧ P file := by
  constructor
  · rintro ⟨file, member, contains, holds⟩
    refine ⟨file, ⟨member, contains, holds⟩, ?_⟩
    rintro other ⟨listed, contains', -⟩
    exact layout.contiguous.eq_of_has listed member (has_offset contains' nonempty)
      (has_offset contains nonempty)
  · rintro ⟨file, ⟨member, contains, holds⟩, -⟩
    exact ⟨file, member, contains, holds⟩

section Admitted

variable {unicode : Unicode} {layoutHash : List FileRecord → Option U64 → U64 → JournalHash}
  {task : TaskId} {generation : Generation} {binding : RootBinding} {files : List FileRecord}
  {pieceLength : U64}

theorem admitted_layout_partitions (made : FileLayout.new unicode layoutHash task generation binding
    files (some total) pieceLength = .ok layout) : layout.Partitions total := by
  have known : layout.totalLength = some total := (FileLayout.of_new made).2
  have ends := layoutEnd_files known
  refine ⟨fun file member => ?_, fun byte inside => ?_, fun span result => ?_, ?_, fun piece => ?_,
    fun piece span placed => ?_, fun byte inside => existsUnique_piece known inside⟩
  · obtain ⟨-, -, upward, below⟩ := layout.contiguous.bounds member
    exact ⟨upward, ends ▸ below⟩
  · obtain ⟨file, member, has⟩ := layout.contiguous.exists_has (Nat.zero_le _) (ends ▸ inside)
    refine ⟨file, ⟨member, has⟩, ?_⟩
    rintro other ⟨listed, holds⟩
    exact layout.contiguous.eq_of_has listed member holds has
  · rw [map_eq_ok known]
    refine and_congr_right fun nonempty => and_congr_right fun _ => ?_
    rw [← existsUnique_contains layout nonempty]
    refine exists_congr fun file => and_congr_right fun _ => and_congr_right fun contains =>
      and_congr_right fun _ => ?_
    have := contains.1
    obtain ⟨number, offset, len⟩ := result
    simp only [FileSpan.mk.injEq]
    refine and_congr_right fun _ => and_congr_left fun _ => ?_
    omega
  · intro a b spanA spanB mapped mapped' apart same
    obtain ⟨-, -, file, member, contains, -, rfl⟩ := (map_eq_ok known).mp mapped
    obtain ⟨-, -, other, listed, contains', -, rfl⟩ := (map_eq_ok known).mp mapped'
    obtain rfl := layout.contiguous.eq_of_id member listed same
    have := contains.1
    have := contains'.1
    simp only [GlobalSpan.stop] at apart ⊢
    omega
  · rw [exists_expectedPieceSpan known,
      lt_divCeil_iff (Nat.pos_of_ne_zero layout.pieceLength_ne_zero)]
  · obtain ⟨-, begins, stops⟩ := (expectedPieceSpan_eq_ok known).mp placed
    exact ⟨begins, stops ▸ min_le_right ..⟩

end Admitted

theorem admitted_layout_partitions_pair : ∃ layout, LayoutSample.admitted 'c' = .ok layout ∧
    layout.Partitions 8 := by
  obtain ⟨layout, made⟩ := LayoutSample.exists_admitted 'c' (by decide)
  exact ⟨layout, made, admitted_layout_partitions made⟩

end FileLayout

end Ariax
