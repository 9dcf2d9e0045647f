import Vsomeip.Message.Byteorder
import Vsomeip.E2E.Profile01

set_option relaxedAutoImplicit false
set_option autoImplicit false

/-!
# The custom E2E profile

The protector of the custom profile writes a CRC of 32 bits over the bytes behind it in front of
them; the checker computes it again. Bytes in front of the CRC are not protected.

## Main definitions

* `Vsomeip.ProfileCustom.protect`, `Vsomeip.ProfileCustom.check` — the protector and the checker.

## Main results

* `Vsomeip.ProfileCustom.check_protect`, `Vsomeip.ProfileCustom.check_set_protect` — what the
  protector has written is accepted, and a change of a single byte from the CRC on is detected.
* `Vsomeip.e2e_detects_single_changes` — both profiles together.
-/

namespace Vsomeip

namespace ProfileCustom

/-- `profile_config`. -/
structure Config where
  crcOffset : UInt16

/-! ## The model -/

section Model

variable (cfg : Config) (buffer : List UInt8)

/-- `profile_custom::compute_crc`. -/
def computeCrc : UInt32 :=
  E2eCrc.calculateProfileCustom (bufferView buffer (cfg.crcOffset.toNat + 4) buffer.length)

/-- `profile_custom::is_buffer_length_valid`. -/
def isBufferLengthValid : Prop := cfg.crcOffset.toNat + 4 ≤ buffer.length

instance : Decidable (isBufferLengthValid cfg buffer) := by
  unfold isBufferLengthValid; infer_instance

/-- `protector::write_crc`. -/
def writeCrc (crc : UInt32) : List UInt8 :=
  (((buffer.set cfg.crcOffset.toNat (longByte3 crc)).set (cfg.crcOffset.toNat + 1)
    (longByte2 crc)).set (cfg.crcOffset.toNat + 2) (longByte1 crc)).set (cfg.crcOffset.toNat + 3)
      (longByte0 crc)

/-- `profile_custom_checker::read_crc`. -/
def readCrc : UInt32 :=
  bytesToLong (buffer.getD cfg.crcOffset.toNat 0) (buffer.getD (cfg.crcOffset.toNat + 1) 0)
    (buffer.getD (cfg.crcOffset.toNat + 2) 0) (buffer.getD (cfg.crcOffset.toNat + 3) 0)

/-- `protector::protect`. -/
def protect : List UInt8 :=
  if isBufferLengthValid cfg buffer then writeCrc cfg buffer (computeCrc cfg buffer) else buffer

/-- `profile_custom_checker::check`. -/
def check : GenericCheckStatus :=
  if isBufferLengthValid cfg buffer then
    if readCrc cfg buffer = computeCrc cfg buffer then .e2eOk else .e2eWrongCrc
  else .e2eError

end Model

/-! ## Detection -/

section Detection

variable {cfg : Config} {buffer : List UInt8}

/-- Writing the CRC keeps the length of the buffer. -/
@[simp] lemma length_writeCrc (cfg : Config) (buffer : List UInt8) (crc : UInt32) :
    (writeCrc cfg buffer crc).length = buffer.length := by
  simp [writeCrc]

/-- Four bytes can be told from the number that they make up. -/
lemma bytesToLong_inj {a₀ a₁ a₂ a₃ b₀ b₁ b₂ b₃ : UInt8}
    (h : bytesToLong a₀ a₁ a₂ a₃ = bytesToLong b₀ b₁ b₂ b₃) :
    a₀ = b₀ ∧ a₁ = b₁ ∧ a₂ = b₂ ∧ a₃ = b₃ := by
  have h' := congrArg UInt32.toNat h
  rw [bytesToLong_toNat, bytesToLong_toNat] at h'
  have ha₀ := a₀.toNat_lt
  have ha₁ := a₁.toNat_lt
  have ha₂ := a₂.toNat_lt
  have ha₃ := a₃.toNat_lt
  have hb₀ := b₀.toNat_lt
  have hb₁ := b₁.toNat_lt
  have hb₂ := b₂.toNat_lt
  have hb₃ := b₃.toNat_lt
  refine ⟨?_, ?_, ?_, ?_⟩ <;> apply UInt8.toNat_inj.mp <;> omega

/-- The CRC that was written is read again. -/
lemma readCrc_writeCrc (hvalid : isBufferLengthValid cfg buffer) (crc : UInt32) :
    readCrc cfg (writeCrc cfg buffer crc) = crc := by
  unfold isBufferLengthValid at hvalid
  have h0 : cfg.crcOffset.toNat < buffer.length := by omega
  have h1 : cfg.crcOffset.toNat + 1 < buffer.length := by omega
  have h2 : cfg.crcOffset.toNat + 2 < buffer.length := by omega
  have h3 : cfg.crcOffset.toNat + 3 < buffer.length := by omega
  rw [← bytesToLong_longByte crc]
  simp only [readCrc, writeCrc, List.getD_eq_getElem?_getD, List.getElem?_set, List.length_set]
  simp [h0, h1, h2, h3]

/-- The CRC does not depend on the bytes in front of its area. -/
lemma computeCrc_set_of_lt {i : ℕ} (hi : i < cfg.crcOffset.toNat + 4) (b : UInt8) :
    computeCrc cfg (buffer.set i b) = computeCrc cfg buffer := by
  simp only [computeCrc, bufferView, List.length_set, List.drop_set_of_lt hi]

/-- The CRC does not cover itself. -/
lemma computeCrc_writeCrc (cfg : Config) (buffer : List UInt8) (crc : UInt32) :
    computeCrc cfg (writeCrc cfg buffer crc) = computeCrc cfg buffer := by
  rw [writeCrc, computeCrc_set_of_lt (by omega), computeCrc_set_of_lt (by omega),
    computeCrc_set_of_lt (by omega), computeCrc_set_of_lt (by omega)]

/-- The CRC depends on every byte of its area. -/
lemma computeCrc_set_ne {i : ℕ} {b c : UInt8} (hi : buffer[i]? = some c) (hb : b ≠ c)
    (hge : cfg.crcOffset.toNat + 4 ≤ i) :
    computeCrc cfg (buffer.set i b) ≠ computeCrc cfg buffer := by
  have hlen : i < buffer.length := (List.getElem?_eq_some_iff.mp hi).1
  simp only [computeCrc, bufferView, List.length_set]
  rw [List.drop_set, if_neg (by omega), List.take_set]
  refine E2eCrc.calculateProfileCustom_set_ne ?_ hb
  rw [List.getElem?_take_of_lt (by omega), List.getElem?_drop,
    show cfg.crcOffset.toNat + 4 + (i - (cfg.crcOffset.toNat + 4)) = i by omega, hi]

/-- The CRC that is read depends on each of its four bytes, and on no other byte. -/
lemma readCrc_set {i : ℕ} {b c : UInt8} (hi : buffer[i]? = some c) (hb : b ≠ c)
    (hge : cfg.crcOffset.toNat ≤ i) :
    readCrc cfg (buffer.set i b) = readCrc cfg buffer ↔ cfg.crcOffset.toNat + 4 ≤ i := by
  have hlen : i < buffer.length := (List.getElem?_eq_some_iff.mp hi).1
  have hsame {j : ℕ} (hj : j ≠ i) : (buffer.set i b).getD j 0 = buffer.getD j 0 := by
    rw [List.getD_eq_getElem?_getD, List.getElem?_set_ne (Ne.symm hj), List.getD_eq_getElem?_getD]
  have hchanged : (buffer.set i b).getD i 0 ≠ buffer.getD i 0 := by
    rw [List.getD_eq_getElem?_getD, List.getElem?_set_self hlen, List.getD_eq_getElem?_getD, hi]
    exact hb
  constructor
  · intro heq
    by_contra hlt
    obtain ⟨e0, e1, e2, e3⟩ := bytesToLong_inj heq
    have hcases : i = cfg.crcOffset.toNat ∨ i = cfg.crcOffset.toNat + 1 ∨
        i = cfg.crcOffset.toNat + 2 ∨ i = cfg.crcOffset.toNat + 3 := by omega
    rcases hcases with rfl | rfl | rfl | rfl
    · exact hchanged e0
    · exact hchanged e1
    · exact hchanged e2
    · exact hchanged e3
  · intro hle
    rw [readCrc, hsame (by omega), hsame (by omega), hsame (by omega), hsame (by omega), readCrc]

/-- What the protector has written is accepted. -/
lemma check_protect (hvalid : isBufferLengthValid cfg buffer) :
    check cfg (protect cfg buffer) = .e2eOk := by
  have hvalid' : isBufferLengthValid cfg (writeCrc cfg buffer (computeCrc cfg buffer)) := by
    rw [isBufferLengthValid, length_writeCrc]
    exact hvalid
  rw [protect, if_pos hvalid, check, if_pos hvalid', readCrc_writeCrc hvalid, computeCrc_writeCrc,
    if_pos rfl]

/-- A change of a single byte of what the protector has written, from the CRC on, is detected. -/
lemma check_set_protect (hvalid : isBufferLengthValid cfg buffer) {i : ℕ} {b c : UInt8}
    (hi : (protect cfg buffer)[i]? = some c) (hb : b ≠ c) (hge : cfg.crcOffset.toNat ≤ i) :
    check cfg ((protect cfg buffer).set i b) = .e2eWrongCrc := by
  have hread : readCrc cfg (protect cfg buffer) = computeCrc cfg (protect cfg buffer) := by
    rw [protect, if_pos hvalid, readCrc_writeCrc hvalid, computeCrc_writeCrc]
  have hvalid' : isBufferLengthValid cfg ((protect cfg buffer).set i b) := by
    rw [isBufferLengthValid, List.length_set, protect, if_pos hvalid, length_writeCrc]
    exact hvalid
  rw [check, if_pos hvalid', if_neg]
  by_cases harea : cfg.crcOffset.toNat + 4 ≤ i
  · rw [(readCrc_set hi hb hge).mpr harea, hread]
    exact (computeCrc_set_ne hi hb harea).symm
  · rw [computeCrc_set_of_lt (by omega), ← hread]
    exact fun heq => harea ((readCrc_set hi hb hge).mp heq)

end Detection

end ProfileCustom

/-! ## Both profiles -/

/-- Both profiles accept what they have written, for every buffer and every counter, and detect every
change of a single byte: profile 01 if its CRC covers the whole buffer, all its offsets are inside of
it and the buffer is longer than the configured length, the custom profile from its CRC on. -/
theorem e2e_detects_single_changes :
    (∀ (cfg : Profile01.Config) (buffer : List UInt8) (counter : UInt8),
      Profile01.Covers cfg buffer.length → cfg.dataLength.toNat / 8 + 1 ≤ buffer.length →
      Profile01.check cfg (Profile01.protect cfg buffer counter).1 = .e2eOk ∧
        ∀ (i : ℕ) (b c : UInt8), (Profile01.protect cfg buffer counter).1[i]? = some c → b ≠ c →
          Profile01.check cfg ((Profile01.protect cfg buffer counter).1.set i b) = .e2eWrongCrc) ∧
    (∀ (cfg : ProfileCustom.Config) (buffer : List UInt8),
      cfg.crcOffset.toNat + 4 ≤ buffer.length →
      ProfileCustom.check cfg (ProfileCustom.protect cfg buffer) = .e2eOk ∧
        ∀ (i : ℕ) (b c : UInt8), cfg.crcOffset.toNat ≤ i →
          (ProfileCustom.protect cfg buffer)[i]? = some c → b ≠ c →
          ProfileCustom.check cfg ((ProfileCustom.protect cfg buffer).set i b) = .e2eWrongCrc) := by
  refine ⟨fun cfg buffer counter hcov hlen => ?_, fun cfg buffer hvalid => ?_⟩
  · have hvalid : Profile01.isBufferLengthValid cfg buffer :=
      ⟨hlen, hcov.crcOffset.le, hcov.counterOffset.le, hcov.dataIdNibbleOffset.le⟩
    exact ⟨Profile01.check_protect hcov hvalid counter,
      fun i b c hi hb => Profile01.check_set_protect hcov hvalid counter hi hb⟩
  · exact ⟨ProfileCustom.check_protect hvalid,
      fun i b c hge hi hb => ProfileCustom.check_set_protect hvalid hi hb hge⟩

/-- The third byte of a protected buffer is changed. -/
theorem e2e_detects_innerConfig :
    Profile01.check Profile01.innerConfig
        ((Profile01.protect Profile01.innerConfig [0, 0, 1, 2, 3, 4, 5, 6] 7).1.set 2 0xFF) = .e2eWrongCrc ∧
      ProfileCustom.check { crcOffset := 2 }
        ((ProfileCustom.protect { crcOffset := 2 } [0, 0, 1, 2, 3, 4, 5, 6]).set 6 0xFF) =
        .e2eWrongCrc := by
  obtain ⟨h01, hcustom⟩ := e2e_detects_single_changes
  refine ⟨?_, ?_⟩
  · refine (h01 Profile01.innerConfig [0, 0, 1, 2, 3, 4, 5, 6] 7 ⟨?_, ?_, ?_, ?_⟩ (by decide)).2 2 0xFF 1
      (by decide) (by decide)
    · exact Or.inl (by decide)
    · decide
    · decide
    · decide
  · exact (hcustom { crcOffset := 2 } [0, 0, 1, 2, 3, 4, 5, 6] (by decide)).2 6 0xFF 5 (by decide)
      (by decide) (by decide)

/-- A buffer of two bytes is not longer than the configured eight bytes, though the CRC would cover it
and all offsets are inside: it is neither protected nor accepted. -/
theorem not_check_protect_short :
    ¬ ∀ (cfg : Profile01.Config) (buffer : List UInt8) (counter : UInt8),
      Profile01.Covers cfg buffer.length →
      Profile01.check cfg (Profile01.protect cfg buffer counter).1 = .e2eOk := by
  intro h
  have hshort := h
    { crcOffset := 0, dataId := 0xA73, dataIdMode := .nibble, dataLength := 64, counterOffset := 8,
      dataIdNibbleOffset := 12 } [0, 0] 0 ⟨Or.inl (by decide), by decide, by decide, by decide⟩
  revert hshort
  decide

end Vsomeip
