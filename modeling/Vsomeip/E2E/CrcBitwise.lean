import Vsomeip.Lib.BitwiseCrc
import Vsomeip.E2E.Crc

set_option relaxedAutoImplicit false
set_option autoImplicit false

/-!
# The CRCs are those of their polynomials

The comments of `e2e_crc` name the parameters of its three CRCs. Each table has the steps of the
polynomial that is named for it, so that the CRCs are the bitwise ones with these parameters, and a CRC
over two areas can be computed over one after the other.

## Main definitions

* `Vsomeip.E2eCrc.profile01`, `Vsomeip.E2eCrc.profile04`, `Vsomeip.E2eCrc.profileCustom` — the
  parameters as they are documented.

## Main results

* `Vsomeip.E2eCrc.calculate_eq_bitwise` — the CRCs with these parameters, and areas that are put
  together.
-/

namespace Vsomeip

namespace E2eCrc

open BitwiseCrc

/-- The parameters of `calculate_profile_01`. -/
def profile01 : Parameters 8 :=
  { poly := 0x1D, xorIn := 0xFF, reflectIn := false, xorOut := 0xFF, reflectOut := false }

/-- The parameters of `calculate_profile_04`. -/
def profile04 : Parameters 32 :=
  { poly := 0xF4ACFB13, xorIn := 0xFFFFFFFF, reflectIn := true, xorOut := 0xFFFFFFFF,
    reflectOut := true }

/-- The parameters of `calculate_profile_custom`; what is combined with a start of zero is its initial
value. -/
def profileCustom : Parameters 32 :=
  { poly := 0x4C11DB7, xorIn := 0xFFFFFFFF, reflectIn := true, xorOut := 0xFFFFFFFF,
    reflectOut := true }

/-! ## The tables -/

/-- A table that is listed entry by entry. -/
lemma lookup_map {α : Type} [Zero α] (entry : ℕ → α) (i : UInt8) :
    Checksum.lookup ((List.range 256).map entry) i = entry i.toNat := by
  have hi : i.toNat < ((List.range 256).map entry).length := by
    rw [List.length_map, List.length_range]
    exact i.toNat_lt
  rw [Checksum.lookup, List.getD_eq_getElem _ _ hi, List.getElem_map, List.getElem_range]

/-- The table of profile 01: each entry is what the polynomial makes of its index. -/
lemma lookupTableProfile01_eq : lookupTableProfile01 = (List.range 256).map fun i =>
    .ofBitVec ((List.replicate 8 false).foldl (shiftBit profile01.poly) (BitVec.ofNat 8 i)) := by
  decide +kernel

/-- The table of profile 04: each entry is eight zero bits behind its index, reflected. -/
lemma lookupTableProfile04_eq : lookupTableProfile04 = (List.range 256).map fun i =>
    .ofBitVec (zeroBits 0xC8DF352F#32 8 (BitVec.ofNat 32 i)) := by
  decide +kernel

/-- The table of the custom profile: each entry is eight zero bits behind its index, reflected. -/
lemma lookupTableProfileCustom_eq : lookupTableProfileCustom = (List.range 256).map fun i =>
    .ofBitVec (zeroBits 0xEDB88320#32 8 (BitVec.ofNat 32 i)) := by
  decide +kernel

/-- The polynomial of profile 04, reflected. -/
lemma reverse_profile04 : profile04.poly.reverse = 0xC8DF352F#32 := by decide +kernel

/-- The polynomial of the custom profile, reflected. -/
lemma reverse_profileCustom : profileCustom.poly.reverse = 0xEDB88320#32 := by decide +kernel

/-- An index as a word: it is the byte with zero bits in front. -/
lemma ofNat_toNat_eq_setWidth (w : ℕ) (i : UInt8) : BitVec.ofNat w i.toNat = i.toBitVec.setWidth w :=
  BitVec.ofNat_toNat w i.toBitVec

/-! ## Main result -/

/-- The CRC of profile 01 over two areas is the one over the second, started with that of the first.
-/
lemma calculateProfile01_append (a b : List UInt8) (startValue : UInt8) :
    calculateProfile01 (a ++ b) startValue =
      calculateProfile01 b (calculateProfile01 a startValue) := by
  rw [calculateProfile01, List.foldl_append, calculateProfile01, calculateProfile01, UInt8.xor_assoc,
    UInt8.xor_self, UInt8.xor_zero]

/-- The CRC of profile 04 over two areas is the one over the second, started with that of the first.
-/
lemma calculateProfile04_append (a b : List UInt8) (startValue : UInt32) :
    calculateProfile04 (a ++ b) startValue =
      calculateProfile04 b (calculateProfile04 a startValue) := by
  rw [calculateProfile04, List.foldl_append, calculateProfile04, calculateProfile04,
    UInt32.xor_assoc, UInt32.xor_self, UInt32.xor_zero]

/-- **The CRCs** of all three profiles are the bitwise CRCs with the documented parameters, for every
buffer and every start value; and for profiles 01 and 04 the CRC over two areas is the CRC over the
second one that starts with the result for the first. -/
theorem calculate_eq_bitwise :
    (∀ (view : List UInt8) (startValue : UInt8), (calculateProfile01 view startValue).toBitVec =
      crc profile01 startValue.toBitVec view) ∧
    (∀ (view : List UInt8) (startValue : UInt32), (calculateProfile04 view startValue).toBitVec =
      crc profile04 startValue.toBitVec view) ∧
    (∀ view : List UInt8, (calculateProfileCustom view).toBitVec = crc profileCustom 0#32 view) ∧
    (∀ (a b : List UInt8) (startValue : UInt8), calculateProfile01 (a ++ b) startValue =
      calculateProfile01 b (calculateProfile01 a startValue)) ∧
    ∀ (a b : List UInt8) (startValue : UInt32), calculateProfile04 (a ++ b) startValue =
      calculateProfile04 b (calculateProfile04 a startValue) := by
  refine ⟨fun view startValue => ?_, fun view startValue => ?_, fun view => ?_,
    calculateProfile01_append, calculateProfile04_append⟩
  · refine crc_eq_step8 (fun i => ?_) startValue 0xFF 0xFF view
    rw [lookupTableProfile01_eq, lookup_map, ofNat_toNat_eq_setWidth, BitVec.setWidth_eq]
    rfl
  · refine crc_eq_step32 (fun i => ?_) startValue 0xFFFFFFFF 0xFFFFFFFF view
    rw [lookupTableProfile04_eq, lookup_map, ofNat_toNat_eq_setWidth, ← reverse_profile04]
    rfl
  · refine crc_eq_step32 (fun i => ?_) 0 0xFFFFFFFF 0xFFFFFFFF view
    rw [lookupTableProfileCustom_eq, lookup_map, ofNat_toNat_eq_setWidth, ← reverse_profileCustom]
    rfl

/-- The usual check value of this CRC, that of the digits from one to nine. -/
example : crc profileCustom 0#32 [0x31, 0x32, 0x33, 0x34, 0x35, 0x36, 0x37, 0x38, 0x39] =
    0xCBF43926#32 := by decide +kernel

end E2eCrc

end Vsomeip
