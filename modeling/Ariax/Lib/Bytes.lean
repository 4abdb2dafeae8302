import Mathlib.Data.List.Basic
import Mathlib.Tactic.Ring

/-!
# Byte strings with fixed-width fields

Little-endian integers and windows into a byte string. A fixed layout is
written as the concatenation of its fields and read back by offset:
`fieldsAt_flatten` finds every field of a concatenation at the offset its
layout gives it, and `flatten_fieldsAt` puts the fields read back together.
-/

namespace Ariax

abbrev Bytes := List UInt8

/-- The `width` little-endian bytes of an integer. -/
def leBytes : ℕ → ℕ → Bytes
  | 0, _ => []
  | width + 1, value => UInt8.ofNat value :: leBytes width (value / 256)

/-- The integer a byte string spells in little-endian order. -/
def ofLeBytes : Bytes → ℕ
  | [] => 0
  | byte :: rest => byte.toNat + 256 * ofLeBytes rest

@[simp] theorem length_leBytes (width value : ℕ) : (leBytes width value).length = width := by
  induction width generalizing value with
  | zero => rfl
  | succ width ih => simp [leBytes, ih]

variable {bytes : Bytes} {width offset : ℕ}

theorem ofLeBytes_leBytes {value : ℕ} (fits : value < 256 ^ width) :
    ofLeBytes (leBytes width value) = value := by
  induction width generalizing value with
  | zero => simp_all [leBytes, ofLeBytes]
  | succ width ih =>
    have quotient : value / 256 < 256 ^ width := by
      rw [pow_succ] at fits
      exact Nat.div_lt_of_lt_mul (by rwa [mul_comm] at fits)
    simp only [leBytes, ofLeBytes, ih quotient, UInt8.toNat_ofNat']
    omega

theorem ofLeBytes_lt (bytes : Bytes) : ofLeBytes bytes < 256 ^ bytes.length := by
  induction bytes with
  | nil => simp [ofLeBytes]
  | cons byte =>
    have := byte.toNat_lt
    simp only [ofLeBytes, List.length_cons, pow_succ]
    omega

theorem leBytes_ofLeBytes (bytes : Bytes) : leBytes bytes.length (ofLeBytes bytes) = bytes := by
  induction bytes with
  | nil => rfl
  | cons byte rest ih =>
    have bound := byte.toNat_lt
    have quotient : (byte.toNat + 256 * ofLeBytes rest) / 256 = ofLeBytes rest := by omega
    have low : UInt8.ofNat (byte.toNat + 256 * ofLeBytes rest) = byte := by
      apply UInt8.toNat_inj.mp
      rw [UInt8.toNat_ofNat']
      omega
    simp only [List.length_cons, ofLeBytes, leBytes, quotient, low, ih]

/-- The bytes of a string from an offset on, at most `width` of them. -/
def window (bytes : Bytes) (offset width : ℕ) : Bytes := (bytes.drop offset).take width

theorem length_window (inside : offset + width ≤ bytes.length) :
    (window bytes offset width).length = width := by
  simp only [window, List.length_take, List.length_drop]
  omega

theorem window_skip {field rest : Bytes} (past : field.length ≤ offset) :
    window (field ++ rest) offset width = window rest (offset - field.length) width := by
  rw [window, window, List.drop_append, List.drop_eq_nil_of_le past, List.nil_append]

theorem window_here {field rest : Bytes} (whole : field.length = width) :
    window (field ++ rest) 0 width = field := by
  rw [window, List.drop_zero, List.take_left' whole]

theorem window_take {count : ℕ} (inside : offset + width ≤ count) :
    window (bytes.take count) offset width = window bytes offset width := by
  rw [window, window, List.drop_take, List.take_take, Nat.min_eq_left (by omega)]

theorem take_add_window (bytes : Bytes) (offset width : ℕ) :
    bytes.take (offset + width) = bytes.take offset ++ window bytes offset width :=
  List.take_add

@[simp] theorem window_zero (bytes : Bytes) (width : ℕ) : window bytes 0 width = bytes.take width :=
  rfl

theorem window_add (bytes : Bytes) (offset width more : ℕ) : window bytes offset (width + more) =
      window bytes offset width ++ window bytes (offset + width) more := by
  rw [window, window, window, List.take_add, List.drop_drop]

/-- The consecutive fields of a byte string from an offset on, by their widths. -/
def fieldsAt (bytes : Bytes) : ℕ → List ℕ → List Bytes
  | _, [] => []
  | offset, width :: widths => window bytes offset width :: fieldsAt bytes (offset + width) widths

theorem flatten_fieldsAt (bytes : Bytes) (offset : ℕ) (widths : List ℕ) :
    (fieldsAt bytes offset widths).flatten = window bytes offset widths.sum := by
  induction widths generalizing offset with
  | nil => simp [fieldsAt, window]
  | cons width widths ih => rw [fieldsAt, List.flatten_cons, ih, List.sum_cons, window_add]

theorem fieldsAt_flatten (before : Bytes) (fields : List Bytes) (rest : Bytes) :
    fieldsAt (before ++ (fields.flatten ++ rest)) before.length (fields.map List.length) =
      fields := by
  induction fields generalizing before with
  | nil => rfl
  | cons field fields ih =>
    have later := ih (before ++ field)
    rw [List.length_append, List.append_assoc] at later
    rw [List.flatten_cons, List.map_cons, fieldsAt, List.append_assoc, later,
      window_skip le_rfl, Nat.sub_self, window_here rfl]

def readLe (bytes : Bytes) (offset width : ℕ) : ℕ := ofLeBytes (window bytes offset width)

theorem readLe_lt (bytes : Bytes) (offset width : ℕ) : readLe bytes offset width < 256 ^ width := by
  refine (ofLeBytes_lt _).trans_le (Nat.pow_le_pow_right (by omega) ?_)
  exact List.length_take_le _ _

theorem leBytes_readLe (inside : offset + width ≤ bytes.length) :
    leBytes width (readLe bytes offset width) = window bytes offset width := by
  have spelled := leBytes_ofLeBytes (window bytes offset width)
  rwa [length_window inside] at spelled

theorem readLe_of_window {value : ℕ} (fits : value < 256 ^ width)
    (spelled : window bytes offset width = leBytes width value) :
    readLe bytes offset width = value := by
  rw [readLe, spelled, ofLeBytes_leBytes fits]

/-- The array of `width` bytes at an offset of a byte string that reaches that far. -/
def readArray (width : ℕ) (bytes : Bytes) (offset : ℕ) : Vector UInt8 width :=
  Vector.ofFn fun index => bytes.getD (offset + index) 0

theorem toList_readArray (inside : offset + width ≤ bytes.length) :
    (readArray width bytes offset).toList = window bytes offset width := by
  apply List.ext_getElem
  · simp [length_window inside]
  · intro index inArray _
    rw [Vector.length_toList] at inArray
    have reached : offset + index < bytes.length := by omega
    simp [readArray, window, List.getElem?_eq_getElem reached]

theorem readArray_of_window {array : Vector UInt8 width} (inside : offset + width ≤ bytes.length)
    (spelled : window bytes offset width = array.toList) :
    readArray width bytes offset = array := by
  apply Vector.toList_inj.mp
  rw [toList_readArray inside, spelled]

end Ariax
