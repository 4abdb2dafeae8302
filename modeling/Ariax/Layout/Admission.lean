import Ariax.Layout.Path
import Ariax.Lib.OrderedMap
import Ariax.Storage.Persisted

/-!
# Admission of a file layout

`FileLayout::new` of `layout.rs`: one pass over the files checks their
numbers, that they follow one another, their paths against those before and
their identities against the root binding. A layout that is admitted is the
one that the storage engine reads. The paths of its files differ, but one
may be the directory that another needs.
-/

namespace Ariax

def maxLayoutEntries : ℕ := 262_144

def maxLayoutBytes : ℕ := 64 * 1024 * 1024

inductive LayoutError where
  | emptyLayout
  | tooManyFiles
  | zeroPieceLength
  | nonCanonicalFileId
  | nonContiguousFile
  | fileEndOverflow
  | fileEndMismatch
  | totalLengthMismatch
  | unknownLengthShape
  | selectedFileMissingIdentity
  | unselectedFileHasIdentity
  | rootBindingMismatch
  | pathCollision
  | canonicalLayoutTooLarge
  deriving DecidableEq

instance u32TransOrd : Std.TransOrd (Fin (2 ^ 32)) := inferInstance

structure FileIdentity where
  bytes : Bytes
  ne_nil : bytes ≠ []
  short : bytes.length ≤ 256
  deriving DecidableEq

/-- What a layout is checked against: the platform of the root and the identities of the files
that were opened. -/
structure RootBinding where
  platform : PathPlatform
  fileIdentities : OrderedMap U32 FileIdentity

/-- A file entry with what only the admission reads. -/
structure FileRecord extends FileEntry where
  safePath : SafeRelativePath
  identity : Option FileIdentity
  length : U64

structure LayoutScan where
  index : ℕ
  expectedStart : ℕ
  paths : List (List Char)
  selectedCount : ℕ

def RootBinding.checkIdentity (binding : RootBinding) (file : FileRecord) :
    Except LayoutError Unit :=
  match file.selected, file.identity with
  | true, some identity =>
    rejectIf (binding.fileIdentities[file.id.get]? ≠ some identity) .rootBindingMismatch
  | true, none => .error .selectedFileMissingIdentity
  | false, some _ => .error .unselectedFileHasIdentity
  | false, none => rejectIf (binding.fileIdentities.contains file.id.get) .rootBindingMismatch

section Admission

variable (unicode : Unicode) (binding : RootBinding)

/-- One iteration of the loop of `validate_layout`. -/
def scanFile (scan : LayoutScan) (file : FileRecord) : Except LayoutError LayoutScan := do
  rejectIf (file.id.get ≠ Fin.ofNat _ scan.index) .nonCanonicalFileId
  rejectIf (file.globalStart.val ≠ scan.expectedStart) .nonContiguousFile
  rejectIf (2 ^ 64 ≤ file.globalStart.val + file.length.val) .fileEndOverflow
  rejectIf (file.globalEnd.val ≠ file.globalStart.val + file.length.val) .fileEndMismatch
  let key := unicode.collisionKey binding.platform file.safePath
  rejectIf (key ∈ scan.paths) .pathCollision
  binding.checkIdentity file
  return ⟨scan.index + 1, file.globalEnd.val, key :: scan.paths,
    scan.selectedCount + if file.selected then 1 else 0⟩

/-- Whether a layout of unknown length is one selected file that is still empty. -/
def placeholder : List FileRecord → Bool
  | [file] => file.length.val = 0 && file.globalStart.val = 0 && file.globalEnd.val = 0 &&
      file.selected
  | _ => false

def validateLayout (files : List FileRecord) (totalLength : Option U64) (pieceLength : U64) :
    Except LayoutError Unit := do
  rejectIf (files = []) .emptyLayout
  rejectIf (maxLayoutEntries < files.length) .tooManyFiles
  rejectIf (pieceLength.val = 0) .zeroPieceLength
  rejectIf (totalLength = none ∧ placeholder files = false) .unknownLengthShape
  let scan ← files.foldlM (scanFile unicode binding) ⟨0, 0, [], 0⟩
  rejectIf (binding.fileIdentities.size ≠ scan.selectedCount) .rootBindingMismatch
  rejectIf ((totalLength.map Fin.val).any (· ≠ scan.expectedStart)) .totalLengthMismatch

def canonicalSize (files : List FileRecord) : ℕ :=
  (files.map fun file => 4 + 8 + 8 + 8 + 1 + 4 + file.safePath.encodedLen + 4 +
    file.identity.elim 0 fun identity => identity.bytes.length).sum

end Admission

/-! ## What the pass over the files establishes -/

section Scanned

variable {unicode : Unicode} {binding : RootBinding} {files : List FileRecord}
  {totalLength : Option U64} {pieceLength : U64}

theorem foldlM_scanFile {scan last : LayoutScan} (few : scan.index + files.length ≤ 2 ^ 32)
    (scanned : files.foldlM (scanFile unicode binding) scan = .ok last) :
    Contiguous scan.index scan.expectedStart (files.map FileRecord.toFileEntry) ∧
      last.expectedStart = ((files.map FileRecord.toFileEntry).getLast?).elim scan.expectedStart
        (fun file => file.globalEnd.val) ∧
      (files.map fun file => unicode.collisionKey binding.platform file.safePath).Nodup ∧
      ∀ file ∈ files, unicode.collisionKey binding.platform file.safePath ∉ scan.paths := by
  induction files generalizing scan with
  | nil =>
    obtain rfl := Except.ok.inj scanned
    exact ⟨trivial, rfl, List.nodup_nil, by simp⟩
  | cons file rest ih =>
    obtain ⟨next, step, scanned⟩ := Except.bind_eq_ok.mp scanned
    simp only [scanFile, Except.bind_eq_ok, rejectIf_eq_ok, exists_const, Except.pure_eq,
      Except.ok.injEq, not_not] at step
    obtain ⟨id, start, -, stop, fresh, -, -, rfl⟩ := step
    rw [List.length_cons] at few
    obtain ⟨contiguous, ends, distinct, apart⟩ := ih (by simp only; omega) scanned
    refine ⟨⟨?_, start, by omega, contiguous⟩, ?_, ?_, ?_⟩
    · rw [id, Fin.val_ofNat, Nat.mod_eq_of_lt (by omega)]
    · rw [ends, List.map_cons, List.getLast?_cons]
      cases (rest.map FileRecord.toFileEntry).getLast? <;> rfl
    · refine List.nodup_cons.mpr ⟨fun member => ?_, distinct⟩
      obtain ⟨other, listed, same⟩ := List.mem_map.mp member
      exact apart other listed (same ▸ List.mem_cons_self)
    · rintro other (_ | ⟨_, listed⟩)
      · exact fresh
      · exact fun member => apart other listed (List.mem_cons_of_mem _ member)

structure Validated (unicode : Unicode) (binding : RootBinding) (files : List FileRecord)
    (totalLength : Option U64) (pieceLength : U64) : Prop where
  ne_nil : files.map FileRecord.toFileEntry ≠ []
  pieceLength_ne_zero : pieceLength.val ≠ 0
  contiguous : Contiguous 0 0 (files.map FileRecord.toFileEntry)
  total : ∀ total ∈ totalLength, ∀ last ∈ (files.map FileRecord.toFileEntry).getLast?,
    last.globalEnd = total
  distinct : (files.map fun file => unicode.collisionKey binding.platform file.safePath).Nodup

theorem validated
    (accepted : validateLayout unicode binding files totalLength pieceLength = .ok ()) :
    Validated unicode binding files totalLength pieceLength := by
  simp only [validateLayout, Except.bind_eq_ok, rejectIf_eq_ok, exists_const, not_not] at accepted
  obtain ⟨ne_nil, few, piece, -, last, scanned, -, total⟩ := accepted
  have few : 0 + files.length ≤ 2 ^ 32 := by
    rw [maxLayoutEntries] at few
    omega
  obtain ⟨contiguous, ends, distinct, -⟩ := foldlM_scanFile few scanned
  refine ⟨by simpa using ne_nil, piece, contiguous, ?_, distinct⟩
  rintro length rfl file found
  rw [Option.mem_def.mp found, Option.elim_some] at ends
  rw [Option.map_some, Option.any_some, decide_eq_true_eq, not_not] at total
  exact Fin.ext (ends.symm.trans total.symm)

end Scanned

/-- The layout for files that pass every check, with the hash that the library computes. -/
def FileLayout.new (unicode : Unicode)
    (layoutHash : List FileRecord → Option U64 → U64 → JournalHash) (task : TaskId)
    (generation : Generation) (binding : RootBinding) (files : List FileRecord)
    (totalLength : Option U64) (pieceLength : U64) : Except LayoutError FileLayout :=
  match accepted : validateLayout unicode binding files totalLength pieceLength with
  | .error error => .error error
  | .ok () =>
    if maxLayoutBytes < canonicalSize files then .error .canonicalLayoutTooLarge
    else .ok ⟨task, generation, files.map FileRecord.toFileEntry, totalLength, pieceLength,
      layoutHash files totalLength pieceLength, (validated accepted).ne_nil,
      (validated accepted).pieceLength_ne_zero, (validated accepted).contiguous,
      (validated accepted).total⟩

section Admitted

variable {unicode : Unicode} {layoutHash : List FileRecord → Option U64 → U64 → JournalHash}
  {task : TaskId} {generation : Generation} {binding : RootBinding} {files : List FileRecord}
  {totalLength : Option U64} {pieceLength : U64} {layout : FileLayout}

theorem FileLayout.of_new (made : FileLayout.new unicode layoutHash task generation binding files
    totalLength pieceLength = .ok layout) :
    Validated unicode binding files totalLength pieceLength ∧ layout.totalLength = totalLength := by
  unfold FileLayout.new at made
  split at made
  · cases made
  · rename_i accepted
    rw [Except.ite_error_eq_ok] at made
    obtain rfl := Except.ok.inj made.2
    exact ⟨validated accepted, rfl⟩

/-! ## Files below one root -/

section

variable (unicode : Unicode) (platform : PathPlatform)

/-- The components of a path as a platform compares them. -/
def Unicode.compared (path : SafeRelativePath) : List (List Char) :=
  match platform with
  | .unix => path.components
  | .windows => path.components.map unicode.toLowercase

/-- A file stands where another needs a directory. -/
def Unicode.Obstructs (file other : FileRecord) : Prop :=
  unicode.compared platform file.safePath <+: unicode.compared platform other.safePath ∧
    unicode.compared platform file.safePath ≠ unicode.compared platform other.safePath

end

instance (unicode : Unicode) (platform : PathPlatform) (file other : FileRecord) :
    Decidable (unicode.Obstructs platform file other) :=
  inferInstanceAs (Decidable (_ ∧ _))

/-- All the files can exist at the same time. -/
structure JointlyCreatable (unicode : Unicode) (platform : PathPlatform)
    (files : List FileRecord) : Prop where
  distinct : files.Pairwise fun file other =>
    unicode.collisionKey platform file.safePath ≠ unicode.collisionKey platform other.safePath
  unobstructed : ∀ file ∈ files, ∀ other ∈ files, ¬unicode.Obstructs platform file other

/-- The check of whole paths leaves one way for the files to be in conflict. -/
theorem jointlyCreatable_iff_unobstructed (made : FileLayout.new unicode layoutHash task generation
    binding files totalLength pieceLength = .ok layout) :
    JointlyCreatable unicode binding.platform files ↔
      ∀ file ∈ files, ∀ other ∈ files, ¬unicode.Obstructs binding.platform file other := by
  constructor
  · intro creatable
    exact creatable.unobstructed
  · intro unobstructed
    have distinct := (FileLayout.of_new made).1.distinct
    rw [List.Nodup, List.pairwise_map] at distinct
    exact ⟨distinct, unobstructed⟩

end Admitted

namespace LayoutSample

theorem one_ne_nil : ([1] : Bytes) ≠ [] := List.cons_ne_nil _ _

theorem one_short : ([1] : Bytes).length ≤ 256 := by decide

def identity : FileIdentity := ⟨[1], one_ne_nil, one_short⟩

def binding : RootBinding := ⟨.unix, (∅ : OrderedMap U32 FileIdentity).insertMany
  [(0, identity), (1, identity)]⟩

def file (index : U32) (path : SafeRelativePath) : FileRecord :=
  ⟨⟨⟨index⟩, Fin.ofNat _ (4 * index.val), Fin.ofNat _ (4 * index.val + 4), true⟩, path,
    some identity, 4⟩

theorem hash_ne_zero : Vector.replicate 32 1 ≠ Vector.replicate 32 (0 : UInt8) := by decide

def layoutHash (_ : List FileRecord) (_ : Option U64) (_ : U64) : JournalHash :=
  ⟨Vector.replicate 32 1, hash_ne_zero⟩

theorem one_ne_zero : (1 : U64) ≠ 0 := by decide

def single (c : Char) : SafeRelativePath := ⟨[[c]], 1⟩

def nested : SafeRelativePath := ⟨[['a'], ['b']], 3⟩

def files (c : Char) : List FileRecord := [file 0 (single c), file 1 nested]

def admitted (c : Char) : Except LayoutError FileLayout :=
  FileLayout.new .ascii layoutHash ⟨1, one_ne_zero⟩ .initial binding (files c) (some 8) 4

theorem exists_admitted : ∀ c ∈ ['a', 'c'], ∃ layout, admitted c = .ok layout := by
  have accepted : ∀ c ∈ ['a', 'c'], (admitted c).toBool = true := List.all_eq_true.mp rfl
  intro c member
  cases made : admitted c with
  | error => cases made ▸ accepted c member
  | ok layout => exact ⟨layout, rfl⟩

end LayoutSample

open LayoutSample

theorem jointlyCreatable_apart : ∃ layout, admitted 'c' = .ok layout ∧
    JointlyCreatable .ascii binding.platform (files 'c') := by
  obtain ⟨layout, made⟩ := exists_admitted 'c' (by decide)
  refine ⟨layout, made, (jointlyCreatable_iff_unobstructed made).mpr ?_⟩
  simp [files, file, single, nested, Unicode.Obstructs, Unicode.compared, binding]

/-- A file and a file in a directory of its name. -/
theorem nested_files_admitted :
    Unicode.ascii.fromUserPath binding.platform ['a'] = .ok (single 'a') ∧
      Unicode.ascii.fromUserPath binding.platform ['a', '/', 'b'] = .ok nested ∧
      (∃ layout, admitted 'a' = .ok layout) ∧
      ¬JointlyCreatable .ascii binding.platform (files 'a') := by
  refine ⟨rfl, rfl, exists_admitted 'a' (by decide), fun creatable => ?_⟩
  have unobstructed := creatable.unobstructed _ List.mem_cons_self _
    (List.mem_cons_of_mem _ List.mem_cons_self)
  exact unobstructed (by decide)

end Ariax
