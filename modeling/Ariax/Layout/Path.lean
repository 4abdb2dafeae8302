import Ariax.Lib.Except
import Mathlib.Algebra.GroupWithZero.Nat
import Mathlib.Order.Basic

/-!
# Safe relative paths

The lexical validation of `path.rs`. Whatever the source of a path is, its
components are normalised one by one and checked after that, so what a path
consists of does not depend on how it was written. Normalisation by the
Unicode library and the two case mappings of the standard library are taken as
given.
-/

namespace Ariax

open List Except

def maxSafeRelativeBytes : ℕ := 64 * 1024

inductive PathPlatform where
  | unix
  | windows
  deriving DecidableEq

inductive PathValidationError where
  | emptyPath
  | absolutePath
  | windowsPrefix
  | nonUtf8Input
  | emptyComponent
  | dotComponent
  | separatorInComponent
  | colonInComponent
  | controlCharacter
  | bidirectionalControl
  | reservedWindowsName
  | trailingWindowsDotOrSpace
  | tooLong
  deriving DecidableEq

/-- The normalisation of the Unicode library and the case mappings of the standard library. -/
structure Unicode where
  nfc : List Char → List Char
  toLowercase : List Char → List Char
  toUppercase : List Char → List Char

structure SafeRelativePath where
  components : List (List Char)
  encodedLen : ℕ
  deriving DecidableEq

def utf8Len (text : List Char) : ℕ := (text.map Char.utf8Size).sum

def SafeRelativePath.canonicalString (path : SafeRelativePath) : List Char :=
  ['/'].intercalate path.components

def isSeparator (c : Char) : Bool := c = '/' || c = '\\'

def isControl (c : Char) : Bool := c.toNat < 0x20 || 0x7f ≤ c.toNat && c.toNat ≤ 0x9f

def isBidirectionalControl (c : Char) : Bool :=
  0x202a ≤ c.toNat && c.toNat ≤ 0x202e || 0x2066 ≤ c.toNat && c.toNat ≤ 0x2069

def numberedReservedName (stem family : List Char) : Bool :=
  family.isPrefixOf stem && "123456789¹²³".toList.any fun digit => stem.drop family.length = [digit]

namespace Unicode

variable (unicode : Unicode)

def collisionKey (platform : PathPlatform) (path : SafeRelativePath) : List Char :=
  match platform with
  | .unix => path.canonicalString
  | .windows => unicode.toLowercase path.canonicalString

def stem (component : List Char) : List Char :=
  unicode.toUppercase (component.takeWhile (· ≠ '.'))

def isReservedWindowsName (component : List Char) : Bool :=
  ["CON".toList, "PRN".toList, "AUX".toList, "NUL".toList].contains (unicode.stem component) ||
    numberedReservedName (unicode.stem component) "COM".toList ||
    numberedReservedName (unicode.stem component) "LPT".toList

variable (platform : PathPlatform)

def validateComponent (component : List Char) : Except PathValidationError Unit := do
  rejectIf (component = ['.'] ∨ component = ['.', '.']) .dotComponent
  rejectIf (component.any isSeparator) .separatorInComponent
  rejectIf (component.contains ':') .colonInComponent
  rejectIf (component.any isControl) .controlCharacter
  rejectIf (component.any isBidirectionalControl) .bidirectionalControl
  rejectIf (unicode.isReservedWindowsName component) .reservedWindowsName
  rejectIf (platform = .windows ∧ (component.getLast?).any fun c => c = '.' || c = ' ')
    .trailingWindowsDotOrSpace

/-- One iteration of `build_components`. -/
def pushComponent (path : SafeRelativePath) (component : List Char) :
    Except PathValidationError SafeRelativePath := do
  rejectIf (component = []) .emptyComponent
  let component := unicode.nfc component
  unicode.validateComponent platform component
  let length := path.encodedLen + (if path.components = [] then 0 else 1) + utf8Len component
  rejectIf (maxSafeRelativeBytes < length) .tooLong
  return ⟨path.components ++ [component], length⟩

def buildComponents (components : List (List Char)) :
    Except PathValidationError SafeRelativePath := do
  let path ← components.foldlM (unicode.pushComponent platform) ⟨[], 0⟩
  rejectIf (path.components = []) .emptyPath
  return path

end Unicode

def rejectAbsoluteOrPrefixed (value : List Char) : Except PathValidationError Unit := do
  rejectIf (value.head? = some '/') .absolutePath
  rejectIf (value.head? = some '\\') .windowsPrefix
  rejectIf ((value.head?).any Char.isAlpha ∧ value[1]? = some ':') .windowsPrefix

namespace Unicode

variable (unicode : Unicode) (platform : PathPlatform)

def fromMetadataComponents (components : List (List Char)) :
    Except PathValidationError SafeRelativePath :=
  unicode.buildComponents platform components

def fromUserPath (value : List Char) : Except PathValidationError SafeRelativePath := do
  rejectAbsoluteOrPrefixed value
  unicode.buildComponents platform ((value.splitOnP isSeparator).filter (· ≠ []))

/-- The components of a directory, which may be given as no text at all. -/
def directory : Option (Option (List Char)) → Except PathValidationError (List (List Char))
  | none => .ok []
  | some dir => do
    let path ← unicode.fromUserPath platform (← okOr dir .nonUtf8Input)
    return path.components

def combine (dir : Option (Option (List Char))) (out : Option (List Char))
    (metadataComponents : List (List Char)) : Except PathValidationError SafeRelativePath := do
  let parents ← unicode.directory platform dir
  let path ← out.elim (unicode.fromMetadataComponents platform metadataComponents)
    (unicode.fromUserPath platform)
  unicode.buildComponents platform (parents ++ path.components)

/-- A path that one of the three constructors returns. -/
inductive Accepts : SafeRelativePath → Prop
  | userPath {value path} (made : unicode.fromUserPath platform value = .ok path) : Accepts path
  | metadata {components path}
      (made : unicode.fromMetadataComponents platform components = .ok path) : Accepts path
  | combined {dir out metadataComponents path}
      (made : unicode.combine platform dir out metadataComponents = .ok path) : Accepts path

/-- What is assumed of normalisation. -/
structure Normalises : Prop where
  idem : ∀ text, unicode.nfc (unicode.nfc text) = unicode.nfc text
  ne_nil : ∀ text, text ≠ [] → unicode.nfc text ≠ []

end Unicode

/-! ## What a path consists of -/

/-- The device names of Windows, with the superscript digits it takes for digits. -/
def windowsDevices : List String :=
  ["CON", "PRN", "AUX", "NUL", "COM1", "COM2", "COM3", "COM4", "COM5", "COM6", "COM7", "COM8",
    "COM9", "COM¹", "COM²", "COM³", "LPT1", "LPT2", "LPT3", "LPT4", "LPT5", "LPT6", "LPT7", "LPT8",
    "LPT9", "LPT¹", "LPT²", "LPT³"]

/-- The characters of device names: ASCII, and the superscripts, which have no case. -/
def isDeviceChar (c : Char) : Bool := c.toNat < 128 || "¹²³".toList.contains c

def Unicode.UppercasesAscii (unicode : Unicode) : Prop :=
  ∀ text : List Char, text.all isDeviceChar → unicode.toUppercase text = text.map Char.toUpper

/-- A component that names an entry of its directory, and no device: not in the
case that the standard library gives it, and so in no case at all. -/
structure Unicode.Confined (unicode : Unicode) (component : List Char) : Prop where
  ne_nil : component ≠ []
  ne_dot : component ≠ ['.'] ∧ component ≠ ['.', '.']
  clean : ∀ c ∈ component,
    c ≠ '/' ∧ c ≠ '\\' ∧ c ≠ ':' ∧ isControl c = false ∧ isBidirectionalControl c = false
  device : ∀ name ∈ windowsDevices, unicode.stem component ≠ name.toList
  caseless : unicode.UppercasesAscii → ∀ name ∈ windowsDevices,
    (component.takeWhile (· ≠ '.')).map Char.toUpper ≠ name.toList

/-- The components are confined, and the length is that of the canonical string. -/
structure SafeRelativePath.Canonical (unicode : Unicode) (path : SafeRelativePath) : Prop where
  ne_nil : path.components ≠ []
  confined : ∀ component ∈ path.components, unicode.Confined component
  encodedLen : path.encodedLen = utf8Len path.canonicalString
  short : path.encodedLen ≤ maxSafeRelativeBytes

namespace Unicode

variable {unicode : Unicode} {platform : PathPlatform} {path : SafeRelativePath}
  {component : List Char} {components : List (List Char)}

theorem stem_ne_of_unreserved (free : unicode.isReservedWindowsName component = false) :
    ∀ name ∈ windowsDevices, unicode.stem component ≠ name.toList := by
  intro name member same
  rw [isReservedWindowsName, same] at free
  revert free
  have reserved : ∀ name ∈ windowsDevices,
      (["CON".toList, "PRN".toList, "AUX".toList, "NUL".toList].contains name.toList ||
        numberedReservedName name.toList "COM".toList ||
        numberedReservedName name.toList "LPT".toList) = true :=
    all_eq_true.mp rfl
  rw [reserved name member]
  rintro ⟨⟩

theorem isDeviceChar_of_toUpper {c : Char} (h : isDeviceChar c.toUpper) : isDeviceChar c := by
  unfold Char.toUpper at h
  split at h
  · next lower =>
    have small : c.toNat ≤ 122 := UInt32.le_iff_toNat_le.mp lower.2
    simp only [isDeviceChar, Bool.or_eq_true, decide_eq_true_eq]
    omega
  · exact h

theorem UppercasesAscii.stem_eq (upper : unicode.UppercasesAscii) {name : String}
    (member : name ∈ windowsDevices)
    (same : (component.takeWhile (· ≠ '.')).map Char.toUpper = name.toList) :
    unicode.stem component = name.toList := by
  have plain : ∀ name ∈ windowsDevices, name.toList.all isDeviceChar := by decide
  have chars := plain name member
  rw [← same] at chars
  rw [← same, stem, upper]
  simp only [all_eq_true, mem_map, forall_exists_index, and_imp,
    forall_apply_eq_imp_iff₂] at chars ⊢
  exact fun c inside => isDeviceChar_of_toUpper (chars c inside)

theorem confined_of_validateComponent (ne_nil : component ≠ [])
    (valid : unicode.validateComponent platform component = .ok ()) :
    unicode.Confined component := by
  simp only [validateComponent, bind_eq_ok, rejectIf_eq_ok, exists_const] at valid
  obtain ⟨dots, separators, colon, control, bidirectional, reserved, -⟩ := valid
  have device := stem_ne_of_unreserved (Bool.not_eq_true _ ▸ reserved)
  refine ⟨ne_nil, not_or.mp dots, fun c member => ?_, device,
    fun upper name listed same => device name listed (upper.stem_eq listed same)⟩
  rw [Bool.not_eq_true, any_eq_false] at separators control bidirectional
  have separator := separators c member
  simp only [isSeparator, Bool.or_eq_true, decide_eq_true_eq, not_or] at separator
  refine ⟨separator.1, separator.2, ?_, Bool.not_eq_true _ ▸ control c member,
    Bool.not_eq_true _ ▸ bidirectional c member⟩
  rintro rfl
  exact colon (contains_iff_mem.mpr member)

theorem utf8Len_append (a b : List Char) : utf8Len (a ++ b) = utf8Len a + utf8Len b := by
  simp [utf8Len]

theorem utf8Len_snoc (parts : List (List Char)) (part : List Char) :
    utf8Len (['/'].intercalate (parts ++ [part])) =
      utf8Len (['/'].intercalate parts) + (if parts = [] then 0 else 1) + utf8Len part := by
  have slash : utf8Len ['/'] = 1 := rfl
  induction parts with
  | nil => simp [utf8Len]
  | cons first rest ih =>
    cases rest with
    | nil =>
      rw [singleton_append, intercalate_cons_cons, utf8Len_append, utf8Len_append, slash]
      simp
    | cons =>
      rw [cons_append, cons_append, intercalate_cons_cons, ← cons_append,
        intercalate_cons_cons, utf8Len_append, utf8Len_append, utf8Len_append (first ++ ['/']),
        utf8Len_append, ih, if_neg (cons_ne_nil _ _), if_neg (cons_ne_nil _ _)]
      omega

/-- A path that is built has the components it was built from, normalised. -/
structure Builds (unicode : Unicode) (platform : PathPlatform) (components : List (List Char))
    (path : SafeRelativePath) : Prop where
  parts : path.components = components.map unicode.nfc
  each : ∀ component ∈ components, component ≠ [] ∧
    unicode.validateComponent platform (unicode.nfc component) = .ok ()
  encodedLen : path.encodedLen = utf8Len path.canonicalString
  short : path.encodedLen ≤ maxSafeRelativeBytes

theorem pushComponent_eq_ok {next : SafeRelativePath} :
    unicode.pushComponent platform path component = .ok next ↔
      component ≠ [] ∧ unicode.validateComponent platform (unicode.nfc component) = .ok () ∧
        next.components = path.components ++ [unicode.nfc component] ∧
        next.encodedLen = path.encodedLen + (if path.components = [] then 0 else 1) +
          utf8Len (unicode.nfc component) ∧ next.encodedLen ≤ maxSafeRelativeBytes := by
  obtain ⟨parts, length⟩ := next
  simp only [pushComponent, bind_eq_ok, rejectIf_eq_ok, exists_const, pure_eq,
    ok.injEq, SafeRelativePath.mk.injEq, Nat.not_lt]
  constructor
  · rintro ⟨ne_nil, _, valid, short, rfl, rfl⟩
    exact ⟨ne_nil, valid, rfl, rfl, short⟩
  · rintro ⟨ne_nil, valid, rfl, rfl, short⟩
    exact ⟨ne_nil, (), valid, short, rfl, rfl⟩

theorem foldlM_pushComponent :
    components.foldlM (unicode.pushComponent platform) ⟨[], 0⟩ = .ok path ↔
      unicode.Builds platform components path := by
  induction components using reverseRecOn generalizing path with
  | nil =>
    constructor
    · intro made
      obtain rfl := ok.inj made
      exact ⟨rfl, by simp, rfl, Nat.zero_le _⟩
    · rintro ⟨parts, -, length, -⟩
      obtain ⟨parts', length'⟩ := path
      simp_all [SafeRelativePath.canonicalString, utf8Len]
  | append_singleton earlier last ih =>
    rw [foldlM_append, bind_eq_ok]
    simp only [ih, foldlM_cons, foldlM_nil, bind_pure, pushComponent_eq_ok]
    constructor
    · rintro ⟨before, built, ne_nil, valid, parts, length, short⟩
      refine ⟨by rw [parts, built.parts, map_append, map_singleton], ?_, ?_, short⟩
      · intro component member
        rcases mem_append.mp member with member | member
        · exact built.each component member
        · obtain rfl := mem_singleton.mp member
          exact ⟨ne_nil, valid⟩
      · rw [SafeRelativePath.canonicalString, parts, utf8Len_snoc, length, built.encodedLen]
        rfl
    · rintro ⟨parts, each, length, short⟩
      have valid := each last (by simp)
      have snoc := utf8Len_snoc (earlier.map unicode.nfc) (unicode.nfc last)
      rw [map_append, map_singleton] at parts
      rw [SafeRelativePath.canonicalString, parts, snoc] at length
      refine ⟨⟨earlier.map unicode.nfc, utf8Len (['/'].intercalate (earlier.map unicode.nfc))⟩,
        ⟨rfl, fun component member => each component (mem_append_left _ member), rfl, ?_⟩,
        valid.1, valid.2, parts, length, short⟩
      simp only
      omega

theorem buildComponents_eq_ok : unicode.buildComponents platform components = .ok path ↔
      unicode.Builds platform components path ∧ path.components ≠ [] := by
  simp only [buildComponents, bind_eq_ok, rejectIf_eq_ok, exists_const, pure_eq,
    ok.injEq, foldlM_pushComponent]
  constructor
  · rintro ⟨_, built, ne_nil, rfl⟩
    exact ⟨built, ne_nil⟩
  · rintro ⟨built, ne_nil⟩
    exact ⟨path, built, ne_nil, rfl⟩

theorem Accepts.built (accepted : unicode.Accepts platform path) :
    ∃ components, unicode.Builds platform components path ∧ path.components ≠ [] := by
  cases accepted with
  | userPath made =>
    obtain ⟨-, -, made⟩ := bind_eq_ok.mp made
    exact ⟨_, buildComponents_eq_ok.mp made⟩
  | metadata made => exact ⟨_, buildComponents_eq_ok.mp made⟩
  | combined made =>
    obtain ⟨parents, -, rest⟩ := bind_eq_ok.mp made
    obtain ⟨named, -, built⟩ := bind_eq_ok.mp rest
    exact ⟨_, buildComponents_eq_ok.mp built⟩

theorem Accepts.canonical (normalises : unicode.Normalises)
    (accepted : unicode.Accepts platform path) : path.Canonical unicode := by
  obtain ⟨components, built, ne_nil⟩ := accepted.built
  refine ⟨ne_nil, fun component member => ?_, built.encodedLen, built.short⟩
  rw [built.parts] at member
  obtain ⟨raw, listed, rfl⟩ := mem_map.mp member
  obtain ⟨nonempty, valid⟩ := built.each raw listed
  exact confined_of_validateComponent (normalises.ne_nil raw nonempty) valid

end Unicode

/-! ## Reading a canonical string back -/

namespace SafeRelativePath.Canonical

variable {unicode : Unicode} {path : SafeRelativePath}

theorem unseparated (canonical : path.Canonical unicode) {component : List Char}
    (member : component ∈ path.components) : ∀ c ∈ component, isSeparator c = false := by
  intro c inside
  obtain ⟨slash, backslash, -⟩ := (canonical.confined component member).clean c inside
  simp [isSeparator, slash, backslash]

theorem splitOnP_intercalate {parts : List (List Char)} (nonempty : parts ≠ [])
    (unseparated : ∀ part ∈ parts, ∀ c ∈ part, isSeparator c = false) :
    (['/'].intercalate parts).splitOnP isSeparator = parts := by
  induction parts with
  | nil => exact (nonempty rfl).elim
  | cons first rest ih =>
    have plain := unseparated first mem_cons_self
    cases rest with
    | nil => rw [intercalate_singleton, splitOnP_eq_singleton plain]
    | cons =>
      rw [intercalate_cons_cons, append_assoc, singleton_append,
        splitOnP_append_cons_of_forall_mem plain '/' rfl, ih (cons_ne_nil _ _)]
      exact fun part member => unseparated part (mem_cons_of_mem _ member)

variable (canonical : path.Canonical unicode)
include canonical

theorem splitOnP_canonicalString :
    path.canonicalString.splitOnP isSeparator = path.components :=
  splitOnP_intercalate canonical.ne_nil fun _ member => canonical.unseparated member

/-- A canonical string determines the path. -/
theorem eq_of_canonicalString {path' : SafeRelativePath}
    (canonical' : path'.Canonical unicode) (same : path'.canonicalString = path.canonicalString) :
    path' = path := by
  have components : path'.components = path.components := by
    rw [← canonical'.splitOnP_canonicalString, same, canonical.splitOnP_canonicalString]
  have length : path'.encodedLen = path.encodedLen := by
    rw [canonical'.encodedLen, same, canonical.encodedLen]
  obtain ⟨parts', len'⟩ := path'
  simp_all

theorem rejectAbsoluteOrPrefixed_eq_ok :
    rejectAbsoluteOrPrefixed path.canonicalString = .ok () := by
  have colon : path.canonicalString[1]? ≠ some ':' := by
    intro second
    rcases mem_intercalate_singleton (mem_of_getElem? second) with same | ⟨part, listed, inside⟩
    · cases same
    · exact ((canonical.confined part listed).clean ':' inside).2.2.1 rfl
  obtain ⟨first, rest, parts⟩ := exists_cons_of_ne_nil canonical.ne_nil
  have confined := canonical.confined first (parts ▸ mem_cons_self)
  obtain ⟨c, tail, rfl⟩ := exists_cons_of_ne_nil confined.ne_nil
  obtain ⟨slash, backslash, -⟩ := confined.clean c mem_cons_self
  have head : path.canonicalString.head? = some c := by
    rw [SafeRelativePath.canonicalString, parts, intercalate_cons_cons_left, head?_cons]
  simp [rejectAbsoluteOrPrefixed, head, slash, backslash, colon]

end SafeRelativePath.Canonical

namespace Unicode

variable {unicode : Unicode} {platform : PathPlatform} {path : SafeRelativePath}

section

variable (normalises : unicode.Normalises) (accepted : unicode.Accepts platform path)
include normalises accepted

theorem fromUserPath_canonicalString :
    unicode.fromUserPath platform path.canonicalString = .ok path := by
  have canonical := accepted.canonical normalises
  obtain ⟨components, built, ne_nil⟩ := accepted.built
  have whole : path.components.filter (· ≠ []) = path.components :=
    filter_eq_self.mpr fun part member =>
      decide_eq_true (canonical.confined part member).ne_nil
  rw [fromUserPath, canonical.rejectAbsoluteOrPrefixed_eq_ok, ok_bind,
    canonical.splitOnP_canonicalString, whole, buildComponents_eq_ok]
  refine ⟨⟨?_, fun part member => ⟨(canonical.confined part member).ne_nil, ?_⟩, built.encodedLen,
    built.short⟩, ne_nil⟩
  · rw [built.parts, map_map]
    exact map_congr_left fun text _ => (normalises.idem text).symm
  · rw [built.parts] at member
    obtain ⟨raw, listed, rfl⟩ := mem_map.mp member
    rw [normalises.idem]
    exact (built.each raw listed).2

/-- What is accepted is confined and canonical, and its canonical string is read back as the same
path and stands for no other. -/
theorem accepted_path_canonical :
    path.Canonical unicode ∧ unicode.fromUserPath platform path.canonicalString = .ok path ∧
      ∀ platform' path', unicode.Accepts platform' path' →
        path'.canonicalString = path.canonicalString → path' = path :=
  ⟨accepted.canonical normalises, fromUserPath_canonicalString normalises accepted,
    fun _ _ other same =>
      (accepted.canonical normalises).eq_of_canonicalString (other.canonical normalises) same⟩

end

/-- Unicode as far as ASCII text needs it. -/
def ascii : Unicode := ⟨id, map Char.toLower, map Char.toUpper⟩

theorem ascii_normalises : ascii.Normalises := ⟨fun _ => rfl, fun _ nonempty => nonempty⟩

theorem accepted_path_canonical_sample :
    ∃ path, ascii.combine .windows (some (some "a\\b/".toList)) none ["c.txt".toList] = .ok path ∧
      path.Canonical ascii ∧ ascii.fromUserPath .windows path.canonicalString = .ok path :=
  have made : ascii.combine .windows (some (some "a\\b/".toList)) none ["c.txt".toList] =
      .ok ⟨["a".toList, "b".toList, "c.txt".toList], 9⟩ := rfl
  have whole := accepted_path_canonical ascii_normalises (.combined made)
  ⟨_, made, whole.1, whole.2.1⟩

end Unicode

end Ariax
