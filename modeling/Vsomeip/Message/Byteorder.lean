import Mathlib.Tactic.Common
import Mathlib.Data.UInt

set_option relaxedAutoImplicit false
set_option autoImplicit false

/-!
# Byte order

The byte-order helpers of `utility/include/byteorder.hpp` on a little-endian machine: words and
longs are split into bytes, most significant byte first on the wire, and put together again.

## Main definitions

* `Vsomeip.bytesToWord`, `Vsomeip.bytesToLong` — `VSOMEIP_BYTES_TO_WORD`, `VSOMEIP_BYTES_TO_LONG`.
* `Vsomeip.wordByte0`, …, `Vsomeip.longByte3` — `VSOMEIP_WORD_BYTE0`, …, `VSOMEIP_LONG_BYTE3`.

## Main results

* `Vsomeip.bytesToWord_wordByte`, `Vsomeip.bytesToLong_longByte` — splitting is undone by putting
  together.
-/

namespace Vsomeip

/-- `VSOMEIP_BYTES_TO_WORD(x0, x1)`. -/
def bytesToWord (x0 x1 : UInt8) : UInt16 := x0.toUInt16 <<< 8 ||| x1.toUInt16

/-- `VSOMEIP_BYTES_TO_LONG(x0, x1, x2, x3)`. -/
def bytesToLong (x0 x1 x2 x3 : UInt8) : UInt32 :=
  x0.toUInt32 <<< 24 ||| x1.toUInt32 <<< 16 ||| x2.toUInt32 <<< 8 ||| x3.toUInt32

/-- `VSOMEIP_WORD_BYTE0(x)`. -/
def wordByte0 (x : UInt16) : UInt8 := (x &&& 0xFF).toUInt8

/-- `VSOMEIP_WORD_BYTE1(x)`. -/
def wordByte1 (x : UInt16) : UInt8 := (x >>> 8).toUInt8

/-- `VSOMEIP_LONG_BYTE0(x)`. -/
def longByte0 (x : UInt32) : UInt8 := (x &&& 0xFF).toUInt8

/-- `VSOMEIP_LONG_BYTE1(x)`. -/
def longByte1 (x : UInt32) : UInt8 := ((x >>> 8) &&& 0xFF).toUInt8

/-- `VSOMEIP_LONG_BYTE2(x)`. -/
def longByte2 (x : UInt32) : UInt8 := ((x >>> 16) &&& 0xFF).toUInt8

/-- `VSOMEIP_LONG_BYTE3(x)`. -/
def longByte3 (x : UInt32) : UInt8 := ((x >>> 24) &&& 0xFF).toUInt8

/-! ## Values as numbers -/

/-- The mask of a byte. -/
lemma and_ff_eq_mod (n : ℕ) : n &&& 255 = n % 256 := Nat.and_two_pow_sub_one_eq_mod n 8

/-- `a · 2ⁱ ||| b = a · 2ⁱ + b` for `b < 2ⁱ`. -/
lemma shiftLeft_or_eq_add {a b i : ℕ} (h : b < 2 ^ i) : a <<< i ||| b = a * 2 ^ i + b := by
  rw [← Nat.shiftLeft_add_eq_or_of_lt h, Nat.shiftLeft_eq]

/-- The low byte of a word. -/
lemma wordByte0_toNat (x : UInt16) : (wordByte0 x).toNat = x.toNat % 256 := by
  simp [wordByte0, and_ff_eq_mod]

/-- The high byte of a word. -/
lemma wordByte1_toNat (x : UInt16) : (wordByte1 x).toNat = x.toNat / 256 := by
  have := x.toNat_lt
  simp [wordByte1, Nat.shiftRight_eq_div_pow]
  omega

/-- The lowest byte of a number. -/
lemma longByte0_toNat (x : UInt32) : (longByte0 x).toNat = x.toNat % 256 := by
  simp [longByte0, and_ff_eq_mod]

/-- The second byte of a number. -/
lemma longByte1_toNat (x : UInt32) : (longByte1 x).toNat = x.toNat / 2 ^ 8 % 256 := by
  simp [longByte1, and_ff_eq_mod, Nat.shiftRight_eq_div_pow]

/-- The third byte of a number. -/
lemma longByte2_toNat (x : UInt32) : (longByte2 x).toNat = x.toNat / 2 ^ 16 % 256 := by
  simp [longByte2, and_ff_eq_mod, Nat.shiftRight_eq_div_pow]

/-- The highest byte of a number. -/
lemma longByte3_toNat (x : UInt32) : (longByte3 x).toNat = x.toNat / 2 ^ 24 % 256 := by
  simp [longByte3, and_ff_eq_mod, Nat.shiftRight_eq_div_pow]

/-- A word put together from bytes is their big-endian value. -/
lemma bytesToWord_toNat (x0 x1 : UInt8) :
    (bytesToWord x0 x1).toNat = x0.toNat * 2 ^ 8 + x1.toNat := by
  have h0 := x0.toNat_lt
  have h1 := x1.toNat_lt
  have e : x0.toNat <<< 8 % 65536 = x0.toNat <<< 8 := by
    rw [Nat.shiftLeft_eq]; omega
  simp only [bytesToWord, UInt16.toNat_or, UInt16.toNat_shiftLeft, UInt8.toNat_toUInt16,
    UInt16.toNat_ofNat, Nat.reducePow, Nat.reduceMod]
  rw [e, shiftLeft_or_eq_add (by omega)]
  omega

/-- A long put together from bytes is their big-endian value. -/
lemma bytesToLong_toNat (x0 x1 x2 x3 : UInt8) :
    (bytesToLong x0 x1 x2 x3).toNat =
      x0.toNat * 2 ^ 24 + x1.toNat * 2 ^ 16 + x2.toNat * 2 ^ 8 + x3.toNat := by
  have h0 := x0.toNat_lt
  have h1 := x1.toNat_lt
  have h2 := x2.toNat_lt
  have h3 := x3.toNat_lt
  have e0 : x0.toNat <<< 24 % 4294967296 = x0.toNat <<< 24 := by rw [Nat.shiftLeft_eq]; omega
  have e1 : x1.toNat <<< 16 % 4294967296 = x1.toNat <<< 16 := by rw [Nat.shiftLeft_eq]; omega
  have e2 : x2.toNat <<< 8 % 4294967296 = x2.toNat <<< 8 := by rw [Nat.shiftLeft_eq]; omega
  simp only [bytesToLong, UInt32.toNat_or, UInt32.toNat_shiftLeft, UInt8.toNat_toUInt32,
    UInt32.toNat_ofNat, Nat.reducePow, Nat.reduceMod]
  rw [e0, e1, e2, Nat.or_assoc, Nat.or_assoc, shiftLeft_or_eq_add (a := x2.toNat) (by omega),
    shiftLeft_or_eq_add (a := x1.toNat) (by omega), shiftLeft_or_eq_add (by omega)]
  omega

/-! ## Splitting and putting together -/

/-- A word is recovered from its two bytes. -/
@[simp] lemma bytesToWord_wordByte (x : UInt16) : bytesToWord (wordByte1 x) (wordByte0 x) = x := by
  have := x.toNat_lt
  apply UInt16.toNat_inj.mp
  rw [bytesToWord_toNat, wordByte0_toNat, wordByte1_toNat]
  omega

/-- A long is recovered from its four bytes. -/
@[simp] lemma bytesToLong_longByte (x : UInt32) :
    bytesToLong (longByte3 x) (longByte2 x) (longByte1 x) (longByte0 x) = x := by
  have := x.toNat_lt
  apply UInt32.toNat_inj.mp
  rw [bytesToLong_toNat, longByte0_toNat, longByte1_toNat, longByte2_toNat, longByte3_toNat]
  omega

/-- A long below `2 ^ 24` is recovered from its three low bytes. -/
lemma bytesToLong_longByte_of_lt {x : UInt32} (h : x.toNat < 2 ^ 24) :
    bytesToLong 0 (longByte2 x) (longByte1 x) (longByte0 x) = x := by
  apply UInt32.toNat_inj.mp
  rw [bytesToLong_toNat, longByte0_toNat, longByte1_toNat, longByte2_toNat]
  simp only [UInt8.toNat_zero]
  omega

end Vsomeip
