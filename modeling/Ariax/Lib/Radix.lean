import Ariax.Lib.Bytes
import Mathlib.Data.Nat.Digits.Lemmas

/-!
# Numerals with the most significant digit first

Mathlib's digits in the order in which they are written, and the ASCII
spelling of base sixteen. A numeral begins with the digits of its quotient
by a power of the base (`isPrefix_iff_div`).
-/

namespace Ariax

open List

/-- The number that a numeral denotes. -/
def numeral (base : ℕ) (digits : List ℕ) : ℕ := Nat.ofDigits base digits.reverse

/-- The digits of a number, with zeros in front to a width. -/
def digitsOf (base width value : ℕ) : List ℕ := (Nat.digitsAppend base width value).reverse

section Numeral

variable {base value width : ℕ} {digits others : List ℕ}

theorem numeral_snoc (digit : ℕ) :
    numeral base (digits ++ [digit]) = numeral base digits * base + digit := by
  rw [numeral, reverse_append, reverse_singleton, singleton_append, Nat.ofDigits_cons, add_comm,
    mul_comm]
  rfl

variable (base_gt : 1 < base)

include base_gt

theorem length_digitsOf (fits : value < base ^ width) :
    (digitsOf base width value).length = width := by
  simpa [digitsOf] using Nat.length_digitsAppend base_gt width fits

theorem digitsOf_lt : ∀ digit ∈ digitsOf base width value, digit < base := by
  simpa [digitsOf] using Nat.lt_of_mem_digitsAppend base_gt width

theorem numeral_digitsOf (fits : value < base ^ width) :
    numeral base (digitsOf base width value) = value := by
  simpa [numeral, digitsOf] using (Nat.setInvOn_digitsAppend_ofDigits base_gt width).2 fits

variable (small : ∀ digit ∈ digits, digit < base)
include small

theorem numeral_lt : numeral base digits < base ^ digits.length := by
  simpa [numeral] using Nat.ofDigits_lt_base_pow_length (l := digits.reverse) base_gt (by simpa)

theorem digitsOf_numeral (length : digits.length = width) :
    digitsOf base width (numeral base digits) = digits := by
  have inverse := (Nat.setInvOn_digitsAppend_ofDigits base_gt width).1 (x := digits.reverse)
    ⟨by simpa, by simpa⟩
  rw [digitsOf, numeral, inverse, reverse_reverse]

variable (small' : ∀ digit ∈ others, digit < base)
include small'

/-- Numerals of one length are told apart by what they denote. -/
theorem numeral_inj (length : digits.length = others.length) :
    numeral base digits = numeral base others ↔ digits = others := by
  refine ⟨fun same => ?_, congrArg _⟩
  rw [← digitsOf_numeral base_gt small rfl, same, digitsOf_numeral base_gt small' length.symm]

theorem isPrefix_iff_div (short : digits.length ≤ others.length) :
    digits <+: others ↔
      numeral base others / base ^ (others.length - digits.length) = numeral base digits := by
  have quotient : numeral base others / base ^ (others.length - digits.length) =
      numeral base (others.take digits.length) := by
    rw [numeral, Nat.ofDigits_div_pow_eq_ofDigits_drop _ (by omega) _ (by simpa), numeral,
      drop_reverse, Nat.sub_sub_self short]
  rw [prefix_iff_eq_take, eq_comm, quotient, numeral_inj base_gt _ small (by simpa using short)]
  exact fun digit member => small' digit (mem_of_mem_take member)

end Numeral

/-! ## Hexadecimal text -/

def isAsciiHexdigit (byte : UInt8) : Bool :=
  (48 ≤ byte && byte ≤ 57) || (65 ≤ byte && byte ≤ 70) || (97 ≤ byte && byte ≤ 102)

def isAsciiUppercase (byte : UInt8) : Bool := 65 ≤ byte && byte ≤ 90

def isAsciiLowercase (byte : UInt8) : Bool := 97 ≤ byte && byte ≤ 122

def toAsciiLowercase (byte : UInt8) : UInt8 := if isAsciiUppercase byte then byte + 32 else byte

def toAsciiUppercase (byte : UInt8) : UInt8 := if isAsciiLowercase byte then byte - 32 else byte

/-- The value of a hexadecimal digit. -/
def hexValue (byte : UInt8) : ℕ :=
  if byte ≤ 57 then byte.toNat - 48 else (toAsciiLowercase byte).toNat - 87

/-- The digit of a value below sixteen, in lower case. -/
def hexDigit (value : ℕ) : UInt8 := UInt8.ofNat (if value < 10 then 48 + value else 87 + value)

/-- What `:0widthx` writes of a number that has no more digits. -/
def lowerHex (width value : ℕ) : Bytes := (digitsOf 16 width value).map hexDigit

theorem forall_byte {p : UInt8 → Prop} (each : ∀ n < 256, p (.ofNat n)) (byte : UInt8) :
    p byte := by
  simpa using each byte.toNat byte.toNat_lt

theorem hexDigit_hexValue : ∀ byte : UInt8, isAsciiHexdigit byte →
    hexValue byte < 16 ∧ hexDigit (hexValue byte) = toAsciiLowercase byte ∧
      (hexValue byte = 0 → byte = 48) :=
  forall_byte (by decide +kernel)

theorem hexValue_hexDigit : ∀ value < 16,
    isAsciiHexdigit (hexDigit value) ∧ hexValue (hexDigit value) = value := by
  decide

theorem map_map_of_inverse {α β : Type*} {f : α → β} {g : β → α} {l : List α}
    (inverse : ∀ a ∈ l, g (f a) = a) : (l.map f).map g = l := by
  rw [map_map]
  exact (map_congr_left inverse).trans (map_id l)

theorem map_hexValue_hexDigit {digits : List ℕ} (small : ∀ digit ∈ digits, digit < 16) :
    (digits.map hexDigit).map hexValue = digits :=
  map_map_of_inverse fun digit member => (hexValue_hexDigit digit (small digit member)).2

theorem map_hexValue_lowerHex (width value : ℕ) :
    (lowerHex width value).map hexValue = digitsOf 16 width value :=
  map_hexValue_hexDigit (digitsOf_lt (by decide))

variable {text : Bytes}

section

variable (hex : ∀ byte ∈ text, isAsciiHexdigit byte)
include hex

theorem hexValue_lt : ∀ digit ∈ text.map hexValue, digit < 16 := by
  simpa using fun byte member => (hexDigit_hexValue byte (hex byte member)).1

theorem map_hexDigit_hexValue :
    (text.map hexValue).map hexDigit = text.map toAsciiLowercase := by
  simpa using fun byte member => (hexDigit_hexValue byte (hex byte member)).2.1

end

/-! ## Bytes in hexadecimal -/

def hexOf (bytes : Bytes) : Bytes := bytes.flatMap fun byte => lowerHex 2 byte.toNat

/-- The bytes that pairs of digits stand for. -/
def unhex : Bytes → Bytes
  | high :: low :: rest => .ofNat (hexValue high * 16 + hexValue low) :: unhex rest
  | [] | [_] => []

theorem lowerHex_pair : ∀ high < 16, ∀ low < 16,
    lowerHex 2 (high * 16 + low) = [hexDigit high, hexDigit low] := by
  decide +kernel

theorem unhex_hexOf (bytes : Bytes) : unhex (hexOf bytes) = bytes := by
  induction bytes with
  | nil => rfl
  | cons byte rest ih =>
    have low : byte.toNat % 16 < 16 := Nat.mod_lt _ (by decide)
    have high : byte.toNat / 16 < 16 := Nat.div_lt_of_lt_mul byte.toNat_lt
    have pair := lowerHex_pair _ high _ low
    rw [Nat.div_add_mod'] at pair
    rw [hexOf, flatMap_cons, pair, cons_append, cons_append, nil_append, unhex,
      (hexValue_hexDigit _ high).2, (hexValue_hexDigit _ low).2, Nat.div_add_mod',
      UInt8.ofNat_toNat]
    exact congrArg _ ih

theorem hexOf_unhex (even : 2 ∣ text.length) (hex : ∀ byte ∈ text, isAsciiHexdigit byte) :
    hexOf (unhex text) = text.map toAsciiLowercase := by
  induction text using unhex.induct with
  | case1 high low rest ih =>
    simp only [forall_mem_cons] at hex
    obtain ⟨small, spelled, -⟩ := hexDigit_hexValue high hex.1
    obtain ⟨small', spelled', -⟩ := hexDigit_hexValue low hex.2.1
    have byte : (UInt8.ofNat (hexValue high * 16 + hexValue low)).toNat =
        hexValue high * 16 + hexValue low := UInt8.toNat_ofNat_of_lt' (by
      change _ < 256
      omega)
    rw [unhex, hexOf, flatMap_cons, byte, lowerHex_pair _ small _ small', spelled, spelled']
    exact congrArg (_ :: _ :: ·) (ih (by simpa using even) hex.2.2)
  | case2 => rfl
  | case3 => simp at even

end Ariax
