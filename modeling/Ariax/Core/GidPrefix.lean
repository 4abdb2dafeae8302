import Ariax.Core.Identity
import Ariax.Lib.Except
import Ariax.Lib.Radix

/-!
# Wire forms and prefixes of task identifiers

`ids.rs`: a GID is written as sixteen lowercase hexadecimal digits, and a
lookup takes any nonzero prefix of them. The code compares the prefix with
the high digits of the number; that is comparing texts.
-/

namespace Ariax

open List

inductive ParseGidError
  | invalidLength
  | invalidHex
  | zero
  deriving DecidableEq

inductive ParseGidPrefixError
  | invalidLength
  | invalidHex
  | zero
  deriving DecidableEq

/-- Why a syntactically valid GID prefix did not resolve to one task. -/
inductive GidLookupError
  | notFound
  | ambiguous
  deriving DecidableEq

/-- `u64::from_str_radix` in radix sixteen, of a text without sign. -/
def fromStrHex (input : Bytes) : Option U64 :=
  if h : input ≠ [] ∧ input.all isAsciiHexdigit ∧ numeral 16 (input.map hexValue) < 2 ^ 64 then
    some ⟨numeral 16 (input.map hexValue), h.2.2⟩
  else none

/-- The wire form. -/
def Gid.display (gid : Gid) : Bytes := lowerHex 16 gid.get

def Gid.fromStr (input : Bytes) : Except ParseGidError Gid :=
  if input.length ≠ 16 then .error .invalidLength
  else if ¬input.all isAsciiHexdigit then .error .invalidHex
  else match fromStrHex input with
    | none => .error .invalidHex
    | some value => ((NonzeroId.new value).map .ok).getD (.error .zero)

/-- A normalized one-to-sixteen-digit lookup prefix. -/
structure GidPrefix where
  value : U64
  digits : ℕ
  deriving DecidableEq

namespace GidPrefix

/-- Whether the prefix is the high-order wire digits of `gid`. -/
def matchesGid (self : GidPrefix) (gid : Gid) : Bool :=
  let shift := (16 - self.digits) * 4
  gid.get.val >>> shift == self.value.val

def fromStr (input : Bytes) : Except ParseGidPrefixError GidPrefix :=
  if input = [] ∨ input.length > 16 then .error .invalidLength
  else if ¬input.all isAsciiHexdigit then .error .invalidHex
  else match fromStrHex input with
    | none => .error .invalidHex
    | some value =>
      if value = 0 then .error .zero else .ok { value := value, digits := input.length }

/-- The loop of `resolve_gid_prefix`. -/
def scan (self : GidPrefix) (matched : Option Gid) : List Gid → Except GidLookupError Gid
  | [] => (matched.map .ok).getD (.error .notFound)
  | gid :: rest =>
    if ¬self.matchesGid gid then self.scan matched rest
    else match matched with
      | none => self.scan (some gid) rest
      | some existing =>
        if existing = gid then self.scan (some existing) rest else .error .ambiguous

end GidPrefix

def resolveGidPrefix (pre : GidPrefix) (gids : List Gid) : Except GidLookupError Gid :=
  pre.scan none gids

/-- What a lookup says of the set of GIDs it selects. -/
def Selects (selected : Set Gid) : Except GidLookupError Gid → Prop
  | .ok gid => gid ∈ selected ∧ ∀ other ∈ selected, other = gid
  | .error .ambiguous => ∃ gid ∈ selected, ∃ other ∈ selected, gid ≠ other
  | .error .notFound => ∀ gid, gid ∉ selected

theorem Selects.unique {selected : Set Gid} {result other : Except GidLookupError Gid}
    (one : Selects selected result) (two : Selects selected other) : result = other := by
  rcases result with (_ | _) | gid <;> rcases other with (_ | _) | gid' <;>
    simp only [Selects] at one two <;> grind

theorem GidPrefix.selects_scan (pre : GidPrefix) (gids : List Gid) :
    ∀ matched : Option Gid, (∀ gid ∈ matched, pre.matchesGid gid) →
      Selects {gid | (gid ∈ matched ∨ gid ∈ gids) ∧ pre.matchesGid gid}
        (pre.scan matched gids) := by
  induction gids with
  | nil =>
    rintro (_ | gid) held
    · simp [scan, Selects]
    · simp_all [scan, Selects]
  | cons gid rest ih =>
    intro matched held
    have agree {matched' : Option Gid} (held : ∀ gid ∈ matched', pre.matchesGid gid)
        (same : ∀ other, pre.matchesGid other →
          (other ∈ matched ∨ other ∈ gid :: rest ↔ other ∈ matched' ∨ other ∈ rest)) :
        Selects {other | (other ∈ matched ∨ other ∈ gid :: rest) ∧ pre.matchesGid other}
          (pre.scan matched' rest) := by
      convert ih matched' held using 3 with other
      exact and_congr_left (same other)
    unfold scan
    by_cases found : pre.matchesGid gid
    · rw [if_neg (not_not.mpr found)]
      rcases matched with _ | existing
      · exact agree (by simpa using found) (by grind)
      · dsimp only
        split
        · exact agree held (by grind)
        · rename_i distinct
          exact ⟨existing, ⟨.inl rfl, held existing rfl⟩, gid, ⟨.inr mem_cons_self, found⟩,
            distinct⟩
    · rw [if_pos found]
      exact agree held (by grind)

variable {text : Bytes}

theorem fromStrHex_eq (nonempty : text ≠ []) (hex : ∀ byte ∈ text, isAsciiHexdigit byte)
    {value : U64} (denotes : numeral 16 (text.map hexValue) = value) :
    fromStrHex text = some value := by
  simp only [fromStrHex, denotes]
  exact dif_pos ⟨nonempty, all_eq_true.mpr hex, value.isLt⟩

theorem Gid.fromStr_display (gid : Gid) : fromStr gid.display = .ok gid := by
  have hex : ∀ byte ∈ gid.display, isAsciiHexdigit byte := by
    simpa [display, lowerHex] using fun digit member =>
      (hexValue_hexDigit digit (digitsOf_lt (by decide) digit member)).1
  have length : gid.display.length = 16 := by
    simpa [display, lowerHex] using length_digitsOf (by decide) (show _ < 16 ^ 16 from gid.get.isLt)
  have read : fromStrHex gid.display = some gid.get := by
    refine fromStrHex_eq (ne_nil_of_length_pos (by omega)) hex ?_
    rw [display, map_hexValue_lowerHex,
      numeral_digitsOf (by decide) (show _ < 16 ^ 16 from gid.get.isLt)]
  have all : gid.display.all isAsciiHexdigit = true := all_eq_true.mpr hex
  simp [fromStr, length, all, read, NonzeroId.new_eq_some.mpr (rfl : gid.get = gid.get)]

theorem isPrefix_display_iff (hex : ∀ byte ∈ text, isAsciiHexdigit byte)
    (short : text.length ≤ 16) (gid : Gid) :
    text.map toAsciiLowercase <+: gid.display ↔
      gid.get.val / 16 ^ (16 - text.length) = numeral 16 (text.map hexValue) := by
  have digits : text.map toAsciiLowercase <+: gid.display ↔
      text.map hexValue <+: digitsOf 16 16 gid.get := by
    rw [← map_hexDigit_hexValue hex, Gid.display]
    refine ⟨fun front => ?_, fun front => front.map hexDigit⟩
    have back := front.map hexValue
    rwa [map_hexValue_hexDigit (hexValue_lt hex), map_hexValue_lowerHex] at back
  have fits : gid.get.val < 16 ^ 16 := gid.get.isLt
  have length := length_digitsOf (by decide) fits
  rw [digits, isPrefix_iff_div (by decide) (hexValue_lt hex) (digitsOf_lt (by decide))
    (by simpa [length] using short), numeral_digitsOf (by decide) fits, length, length_map]

theorem GidPrefix.fromStr_eq_ok (nonempty : text ≠ []) (short : text.length ≤ 16)
    (hex : ∀ byte ∈ text, isAsciiHexdigit byte) (nonzero : ∃ byte ∈ text, byte ≠ 48) :
    ∃ pre, fromStr text = .ok pre ∧ pre.value.val = numeral 16 (text.map hexValue) ∧
      pre.digits = text.length := by
  have fits : numeral 16 (text.map hexValue) < 2 ^ 64 := by
    refine (numeral_lt (by decide) (hexValue_lt hex)).trans_le ?_
    rw [length_map]
    exact Nat.pow_le_pow_right (by decide) short
  have positive : (⟨_, fits⟩ : U64) ≠ 0 := by
    intro zero
    obtain ⟨byte, member, other⟩ := nonzero
    have digit := Nat.digits_zero_of_eq_zero (b := 16) (by decide) (congrArg Fin.val zero)
      (hexValue byte) (by simpa using ⟨byte, member, rfl⟩)
    exact other ((hexDigit_hexValue byte (hex byte member)).2.2 digit)
  refine ⟨⟨⟨_, fits⟩, text.length⟩, ?_, rfl, rfl⟩
  have read : fromStrHex text = some ⟨_, fits⟩ := fromStrHex_eq nonempty hex rfl
  have all : text.all isAsciiHexdigit = true := all_eq_true.mpr hex
  simp [fromStr, nonempty, not_lt.mpr short, all, read, positive]

/-- A prefix is looked up as text: what it resolves to is what the set of the
listed GIDs whose wire form begins with it determines, whatever their order
and repetitions. Every GID is read back from its wire form. -/
theorem resolveGidPrefix_fromStr :
    (∀ gid : Gid, Gid.fromStr gid.display = .ok gid) ∧
    ∀ text : Bytes, text ≠ [] → text.length ≤ 16 → (∀ byte ∈ text, isAsciiHexdigit byte) →
      (∃ byte ∈ text, byte ≠ 48) →
      ∃ pre, GidPrefix.fromStr text = .ok pre ∧ ∀ gids : List Gid,
        (∀ result, resolveGidPrefix pre gids = result ↔
          Selects {gid | gid ∈ gids ∧ text.map toAsciiLowercase <+: gid.display} result) ∧
        ∀ gids' : List Gid, (∀ gid, gid ∈ gids ↔ gid ∈ gids') →
          resolveGidPrefix pre gids = resolveGidPrefix pre gids' := by
  refine ⟨Gid.fromStr_display, fun text nonempty short hex nonzero => ?_⟩
  obtain ⟨pre, read, denotes, digits⟩ := GidPrefix.fromStr_eq_ok nonempty short hex nonzero
  refine ⟨pre, read, ?_⟩
  have agrees (gid : Gid) :
      pre.matchesGid gid ↔ text.map toAsciiLowercase <+: gid.display := by
    rw [isPrefix_display_iff hex short, GidPrefix.matchesGid, beq_iff_eq, denotes, digits,
      Nat.shiftRight_eq_div_pow, mul_comm, pow_mul]
    rfl
  have selects (gids : List Gid) :
      Selects {gid | gid ∈ gids ∧ text.map toAsciiLowercase <+: gid.display}
        (resolveGidPrefix pre gids) := by
    simpa [agrees, resolveGidPrefix] using pre.selects_scan gids none (by simp)
  refine fun gids => ⟨fun result => ⟨fun same => same ▸ selects gids, (selects gids).unique⟩,
    fun gids' same => (selects gids).unique ?_⟩
  simpa only [same] using selects gids'

namespace GidSample

def listed : Gid := ⟨0x0a00000000000001, by decide⟩

def other : Gid := ⟨0x0b00000000000001, by decide⟩

end GidSample

open GidSample in
theorem resolveGidPrefix_fromStr_listed : ∃ pre, GidPrefix.fromStr [48, 65] = .ok pre ∧
    resolveGidPrefix pre [listed, other, listed] = .ok listed := by
  obtain ⟨pre, read, resolves⟩ := resolveGidPrefix_fromStr.2 [48, 65] (by simp) (by decide)
    (by simp; decide) (by simp)
  have selected : [48, 65].map toAsciiLowercase <+: listed.display := by decide
  have passed : ¬[48, 65].map toAsciiLowercase <+: other.display := by decide
  refine ⟨pre, read, ((resolves _).1 _).mpr ⟨⟨by simp, selected⟩, ?_⟩⟩
  rintro gid ⟨member, matched⟩
  simp only [mem_cons, not_mem_nil, or_false] at member
  rcases member with rfl | rfl | rfl
  · rfl
  · exact absurd matched passed
  · rfl

end Ariax
