import Ariax.Lib.Except
import Ariax.Lib.Radix

/-!
# Info hashes of magnet links

`btih` of `metadata.rs` takes an info hash as forty hexadecimal digits or as
thirty-two base32 digits and answers in the first form. The base32 loop
shifts five bits at a time through a 32-bit accumulator that is never
masked: of what was read, the bytes pushed and the low `bits` of the
accumulator are what counts.
-/

namespace Ariax

open List

inductive BtError
  | invalidMagnet
  deriving DecidableEq

/-- The function `hash`. -/
def magnetHash (value : Bytes) (length : ℕ) : Except BtError Bytes :=
  if value.length ≠ length ∨ ¬value.all isAsciiHexdigit then .error .invalidMagnet
  else .ok (value.map toAsciiLowercase)

def base32Digit (byte : UInt8) : Except BtError UInt8 :=
  if isAsciiUppercase (toAsciiUppercase byte) then .ok (toAsciiUppercase byte - 65)
  else if 50 ≤ toAsciiUppercase byte ∧ toAsciiUppercase byte ≤ 55 then .ok (byte - 50 + 26)
  else .error .invalidMagnet

structure Base32Loop where
  data : Bytes
  buffer : BitVec 32
  bits : ℕ

namespace Base32Loop

def init : Base32Loop := { data := [], buffer := 0, bits := 0 }

/-- One turn of the loop, on a digit. -/
def push (self : Base32Loop) (digit : UInt8) : Base32Loop :=
  let buffer := self.buffer <<< 5 ||| digit.toBitVec.setWidth 32
  let bits := self.bits + 5
  if bits ≥ 8 then
    { data := self.data ++ [.ofBitVec ((buffer >>> (bits - 8)).setWidth 8)], buffer := buffer,
      bits := bits - 8 }
  else { self with buffer := buffer, bits := bits }

end Base32Loop

def btih (value : Bytes) : Except BtError Bytes :=
  if value.length ≠ 32 then magnetHash value 40
  else do
    let turns ← value.foldlM (fun turn byte => turn.push <$> base32Digit byte) Base32Loop.init
    return hexOf turns.data

/-! ## What an info hash denotes -/

/-- The alphabet of RFC 4648. -/
def base32Alphabet : Bytes := (range' 65 26 ++ range' 50 6).map UInt8.ofNat

def base32Value (byte : UInt8) : ℕ := base32Alphabet.idxOf (toAsciiUppercase byte)

def IsBase32 (text : Bytes) : Prop := text.length = 32 ∧ ∀ byte ∈ text, base32Value byte < 32

def IsBase16 (text : Bytes) : Prop := text.length = 40 ∧ ∀ byte ∈ text, isAsciiHexdigit byte

instance (text : Bytes) : Decidable (IsBase32 text) := inferInstanceAs (Decidable (_ ∧ _))

instance (text : Bytes) : Decidable (IsBase16 text) := inferInstanceAs (Decidable (_ ∧ _))

/-- The bytes that a text in one of the two forms encodes. -/
def infoHash (text : Bytes) : Option Bytes :=
  if IsBase32 text then
    some ((digitsOf 256 20 (numeral 32 (text.map base32Value))).map UInt8.ofNat)
  else if IsBase16 text then some (unhex text)
  else none

theorem base32Digit_eq : ∀ byte : UInt8, base32Digit byte =
    if base32Value byte < 32 then .ok (.ofNat (base32Value byte)) else .error .invalidMagnet :=
  forall_byte (by decide +kernel)

/-! ## The loop -/

namespace Base32Loop

/-- What was read is in the bytes and in the low bits of the accumulator. -/
structure Holds (read : List ℕ) (turn : Base32Loop) : Prop where
  few : turn.bits < 8
  count : 8 * turn.data.length + turn.bits = 5 * read.length
  value : numeral 256 (turn.data.map UInt8.toNat) * 2 ^ turn.bits +
    turn.buffer.toNat % 2 ^ turn.bits = numeral 32 read

variable {read : List ℕ} {turn : Base32Loop} {digit : ℕ}

theorem toNat_push (small : digit < 32) :
    (turn.buffer <<< 5 ||| (UInt8.ofNat digit).toBitVec.setWidth 32).toNat =
      turn.buffer.toNat % 2 ^ 27 * 32 + digit := by
  have kept : turn.buffer.toNat * 2 ^ 5 % 2 ^ 32 = 2 ^ 5 * (turn.buffer.toNat % 2 ^ 27) := by omega
  have low : digit % 2 ^ 8 % 2 ^ 32 = digit := by omega
  rw [BitVec.toNat_or, BitVec.toNat_shiftLeft, Nat.shiftLeft_eq, kept, BitVec.toNat_setWidth,
    UInt8.toNat_toBitVec, UInt8.toNat_ofNat', low, ← Nat.two_pow_add_eq_or_of_lt small]
  omega

theorem Holds.push (holds : Holds read turn) (small : digit < 32) :
    Holds (read ++ [digit]) (turn.push (.ofNat digit)) := by
  obtain ⟨few, count, value⟩ := holds
  -- The bits above the fresh ones do not count any more, so that they may be lost.
  have total : numeral 256 (turn.data.map UInt8.toNat) * 2 ^ (turn.bits + 5) +
      (turn.buffer.toNat % 2 ^ 27 * 32 + digit) % 2 ^ (turn.bits + 5) =
        numeral 32 (read ++ [digit]) := by
    have kept : turn.buffer.toNat % 2 ^ 27 % 2 ^ turn.bits = turn.buffer.toNat % 2 ^ turn.bits :=
      Nat.mod_mod_of_dvd _ (pow_dvd_pow 2 (by omega))
    have low : (turn.buffer.toNat % 2 ^ 27 * 32 + digit) % 2 ^ 5 = digit := by omega
    have high : (turn.buffer.toNat % 2 ^ 27 * 32 + digit) / 2 ^ 5 = turn.buffer.toNat % 2 ^ 27 := by
      omega
    rw [add_comm turn.bits, pow_add, Nat.mod_mul, low, high, kept, numeral_snoc, ← value]
    ring
  rw [← toNat_push small] at total
  simp only [Base32Loop.push]
  split
  · rename_i full
    refine ⟨by simp only; omega, by simp; omega, ?_⟩
    obtain ⟨left, enough⟩ := Nat.exists_eq_add_of_le' full
    rw [enough, pow_add, Nat.mod_mul] at total
    simp only [map_append, map_singleton, numeral_snoc, enough, Nat.add_sub_cancel, ← total,
      UInt8.toNat_ofBitVec, BitVec.toNat_setWidth, BitVec.toNat_ushiftRight,
      Nat.shiftRight_eq_div_pow]
    ring
  · exact ⟨by simp only; omega, by simp; omega, total⟩

theorem holds_foldl {digits : List ℕ} (small : ∀ digit ∈ digits, digit < 32) :
    Holds digits (digits.foldl (fun turn digit => turn.push (.ofNat digit)) init) := by
  induction digits using reverseRecOn with
  | nil => exact ⟨by decide, rfl, rfl⟩
  | append_singleton digits digit ih =>
    rw [foldl_append, foldl_cons, foldl_nil]
    exact (ih fun other member => small other (by simp [member])).push (small digit (by simp))

end Base32Loop

theorem foldlM_push (text : Bytes) (turn : Base32Loop) :
    text.foldlM (fun turn byte => turn.push <$> base32Digit byte) turn =
      if text.all (base32Value · < 32) then
        .ok ((text.map base32Value).foldl (fun turn digit => turn.push (.ofNat digit)) turn)
      else .error .invalidMagnet := by
  induction text generalizing turn with
  | nil => simp
  | cons byte rest ih =>
    rw [foldlM_cons, base32Digit_eq]
    by_cases valid : base32Value byte < 32
    · simp [valid, ih]
    · simp [valid]

variable {text : Bytes}

theorem IsBase16.btih_eq (valid : IsBase16 text) :
    btih text = .ok (text.map toAsciiLowercase) := by
  simpa [btih, magnetHash, valid.1] using valid.2

/-- Twenty bytes are the digits of the number that thirty-two base32 digits write. -/
theorem IsBase32.btih_eq (valid : IsBase32 text) : btih text =
    .ok (hexOf ((digitsOf 256 20 (numeral 32 (text.map base32Value))).map UInt8.ofNat)) := by
  have small : ∀ digit ∈ text.map base32Value, digit < 32 := by simpa using valid.2
  obtain ⟨few, count, value⟩ := Base32Loop.holds_foldl small
  rw [btih, if_neg (not_not.mpr valid.1), foldlM_push, if_pos (by simpa using valid.2),
    Except.ok_bind]
  generalize (text.map base32Value).foldl _ _ = turn at few count value
  rw [length_map, valid.1] at count
  rw [show turn.bits = 0 by omega, pow_zero, mul_one, Nat.mod_one, add_zero] at value
  have bytes : ∀ digit ∈ turn.data.map UInt8.toNat, digit < 256 := by
    simpa using fun byte _ => byte.toNat_lt
  rw [← value, digitsOf_numeral (by decide) bytes (by rw [length_map]; omega),
    map_map_of_inverse fun _ _ => UInt8.ofNat_toNat]
  rfl

theorem btih_eq (text : Bytes) :
    btih text = (infoHash text).elim (.error .invalidMagnet) fun bytes => .ok (hexOf bytes) := by
  unfold infoHash
  split
  · rename_i valid
    exact valid.btih_eq
  · rename_i digits
    split
    · rename_i valid
      rw [valid.btih_eq, ← hexOf_unhex (by simp [valid.1]) valid.2]
      rfl
    · rename_i hex
      by_cases size : text.length = 32
      · rw [btih, if_neg (not_not.mpr size), foldlM_push,
          if_neg fun valid => digits ⟨size, by simpa using valid⟩]
        rfl
      · rw [btih, if_pos size, magnetHash]
        exact if_pos (by simpa [IsBase16, imp_iff_not_or] using hex)

/-- An info hash is answered by the hexadecimal form of the bytes that it
encodes, which of forty hexadecimal digits are the digits in lower case, and
any other text is rejected. Two info hashes have one identity exactly if they
encode the same bytes. -/
theorem btih_identity :
    (∀ text bytes, infoHash text = some bytes → btih text = .ok (hexOf bytes)) ∧
    (∀ text, infoHash text = none → btih text = .error .invalidMagnet) ∧
    (∀ text, IsBase16 text → btih text = .ok (text.map toAsciiLowercase)) ∧
    ∀ text text' bytes bytes', infoHash text = some bytes → infoHash text' = some bytes' →
      (btih text = btih text' ↔ bytes = bytes') := by
  have answers (text bytes : Bytes) (encoded : infoHash text = some bytes) :
      btih text = .ok (hexOf bytes) := by rw [btih_eq, encoded, Option.elim_some]
  refine ⟨answers, fun text other => by rw [btih_eq, other, Option.elim_none],
    fun _ => IsBase16.btih_eq, fun text text' bytes bytes' encoded encoded' => ?_⟩
  rw [answers text bytes encoded, answers text' bytes' encoded', Except.ok.injEq]
  exact ⟨fun same => by rw [← unhex_hexOf bytes, same, unhex_hexOf], congrArg hexOf⟩

theorem btih_identity_mixed :
    let digits := "AEBAGBAFAYDQQCIKbmga2dqpcaireeyu".toUTF8.data.toList
    let hex := "0102030405060708090A0b0C0d0E0f1011121314".toUTF8.data.toList
    btih digits = .ok (hexOf ((range' 1 20).map UInt8.ofNat)) ∧ btih hex = btih digits := by
  intro digits hex
  have first : infoHash digits = some ((range' 1 20).map UInt8.ofNat) := by decide +kernel
  have second : infoHash hex = some ((range' 1 20).map UInt8.ofNat) := by decide +kernel
  exact ⟨btih_identity.1 _ _ first, (btih_identity.2.2.2 _ _ _ _ second first).mpr rfl⟩

end Ariax
