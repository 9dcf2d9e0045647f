import Vsomeip.E2E.Crc

set_option relaxedAutoImplicit false
set_option autoImplicit false

/-!
# E2E profile 01

The protector of profile 01 writes a counter, a part of the data id and an eight-bit CRC into a
buffer; the checker computes the CRC again. The CRC runs through the bytes in front of it and, if it
is not behind the configured length, through those behind it.

## Main definitions

* `Vsomeip.Profile01.Config` — a configuration.
* `Vsomeip.Profile01.computeCrc` — the CRC of a buffer.
* `Vsomeip.Profile01.protect`, `Vsomeip.Profile01.check` — the protector and the checker.
* `Vsomeip.Profile01.Covers` — the CRC covers all bytes but itself.

## Main results

* `Vsomeip.Profile01.check_protect` — what the protector has written is accepted.
* `Vsomeip.Profile01.check_set_protect` — a change of a single byte is detected.
-/

namespace Vsomeip

/-- `generic_check_status`. -/
inductive GenericCheckStatus
  | e2eOk
  | e2eWrongCrc
  | e2eError
deriving DecidableEq, Repr

namespace Profile01

/-- `p01_data_id_mode`. -/
inductive DataIdMode
  | both
  | alt
  | low
  | nibble
deriving DecidableEq, Repr

/-- `profile_config`. -/
structure Config where
  crcOffset : UInt16
  dataId : UInt16
  dataIdMode : DataIdMode
  dataLength : UInt16
  counterOffset : UInt16
  dataIdNibbleOffset : UInt16

/-! ## The model -/

section Model

variable (cfg : Config) (buffer : List UInt8)

/-- The CRC over the data id. -/
def dataIdCrc : UInt8 :=
  let dataIdBuffer := [(cfg.dataId >>> 8).toUInt8, cfg.dataId.toUInt8]
  match cfg.dataIdMode with
  | .both => E2eCrc.calculateProfile01 (bufferView dataIdBuffer 0 1)
      (E2eCrc.calculateProfile01 (bufferView dataIdBuffer 1 2) 0xFF)
  | .low => E2eCrc.calculateProfile01 (bufferView dataIdBuffer 1 2) 0xFF
  | .alt => 0xFF
  | .nibble => E2eCrc.calculateProfile01 (bufferView [0x00] 0 1)
      (E2eCrc.calculateProfile01 (bufferView dataIdBuffer 1 2) 0xFF)

/-- The area behind the CRC is part of it. The comparison is one of signed numbers. -/
def coversRest : Prop := (cfg.crcOffset.toNat : ℤ) < (cfg.dataLength.toNat / 8 : ℕ) - 1

instance : Decidable (coversRest cfg) := by
  unfold coversRest; infer_instance

/-- `profile_01::compute_crc`. -/
def computeCrc : UInt8 :=
  let offset := cfg.crcOffset.toNat
  let front := if 1 ≤ offset then
      E2eCrc.calculateProfile01 (bufferView buffer 0 offset) (dataIdCrc cfg)
    else dataIdCrc cfg
  let rest := if coversRest cfg then
      E2eCrc.calculateProfile01 (bufferView buffer (offset + 1) buffer.length) front
    else front
  rest ^^^ 0xFF

/-- `profile_01::is_buffer_length_valid`. -/
def isBufferLengthValid : Prop :=
  cfg.dataLength.toNat / 8 + 1 ≤ buffer.length ∧ cfg.crcOffset.toNat ≤ buffer.length ∧
    cfg.counterOffset.toNat / 8 ≤ buffer.length ∧ cfg.dataIdNibbleOffset.toNat / 8 ≤ buffer.length

instance : Decidable (isBufferLengthValid cfg buffer) := by
  unfold isBufferLengthValid; infer_instance

/-- A nibble is written to a byte of the buffer: to the low one if the offset in bits is a multiple
of eight, to the high one otherwise. -/
def writeNibble (offset : UInt16) (low high : UInt8) : List UInt8 :=
  let byte := buffer.getD (offset.toNat / 8) 0
  buffer.set (offset.toNat / 8)
    (if offset % 8 = 0 then (byte &&& 0xF0) ||| (low &&& 0x0F)
     else (byte &&& 0x0F) ||| (high &&& 0xF0))

/-- `protector::write_counter`. -/
def writeCounter (counter : UInt8) : List UInt8 :=
  writeNibble buffer cfg.counterOffset counter (counter <<< 4)

/-- `protector::write_data_id`. -/
def writeDataId : List UInt8 :=
  if cfg.dataIdMode = .nibble then
    writeNibble buffer cfg.dataIdNibbleOffset (cfg.dataId >>> 8).toUInt8 (cfg.dataId >>> 4).toUInt8
  else buffer

/-- `protector::write_crc`. -/
def writeCrc (crc : UInt8) : List UInt8 := buffer.set cfg.crcOffset.toNat crc

/-- `protector::increment_counter`. -/
def incrementCounter (counter : UInt8) : UInt8 := (counter.toUInt32 + 1) % 15 |>.toUInt8

/-- `protector::protect`: the buffer and the counter afterwards. -/
def protect (counter : UInt8) : List UInt8 × UInt8 :=
  if isBufferLengthValid cfg buffer then
    let written := writeDataId cfg (writeCounter cfg buffer counter)
    (writeCrc cfg written (computeCrc cfg written), incrementCounter counter)
  else (buffer, counter)

/-- `profile_01_checker::check`. -/
def check : GenericCheckStatus :=
  if isBufferLengthValid cfg buffer then
    if buffer.getD cfg.crcOffset.toNat 0 = computeCrc cfg buffer then .e2eOk else .e2eWrongCrc
  else .e2eError

end Model

/-! ## What the CRC covers -/

/-- The CRC covers all bytes of a buffer of the given size but itself, and all offsets are inside of
the buffer. -/
structure Covers (cfg : Config) (size : ℕ) : Prop where
  covered : coversRest cfg ∨ cfg.crcOffset.toNat + 1 = size
  crcOffset : cfg.crcOffset.toNat < size
  counterOffset : cfg.counterOffset.toNat / 8 < size
  dataIdNibbleOffset : cfg.dataIdNibbleOffset.toNat / 8 < size

section Detection

variable {cfg : Config} {buffer : List UInt8}

/-- The CRC does not depend on the byte it is written to. -/
lemma computeCrc_set_crcOffset (cfg : Config) (buffer : List UInt8) (b : UInt8) :
    computeCrc cfg (buffer.set cfg.crcOffset.toNat b) = computeCrc cfg buffer := by
  simp only [computeCrc, bufferView, List.drop_zero, Nat.sub_zero, List.length_set,
    List.take_set_of_le (Nat.le_refl _), List.drop_set_of_lt (Nat.lt_succ_self _)]

/-- The CRC depends on every other byte.

**Proof sketch.** A byte in front of the CRC changes the start value for the area behind it, from
which the start value can be told again; a byte behind it changes that area, which is covered. -/
lemma computeCrc_set_ne (hcov : Covers cfg buffer.length) {i : ℕ} {b c : UInt8}
    (hi : buffer[i]? = some c) (hb : b ≠ c) (hne : i ≠ cfg.crcOffset.toNat) :
    computeCrc cfg (buffer.set i b) ≠ computeCrc cfg buffer := by
  have hlen : i < buffer.length := (List.getElem?_eq_some_iff.mp hi).1
  simp only [computeCrc, bufferView, List.drop_zero, Nat.sub_zero, List.length_set]
  intro heq
  have heq := (UInt8.xor_left_inj _).mp heq
  rcases Nat.lt_or_gt_of_ne hne with hlt | hgt
  · have hone : 1 ≤ cfg.crcOffset.toNat := by omega
    rw [List.drop_set_of_lt (by omega), List.take_set] at heq
    simp only [if_pos hone] at heq
    have hfront : (buffer.take cfg.crcOffset.toNat)[i]? = some c := by
      rw [List.getElem?_take_of_lt hlt, hi]
    refine E2eCrc.calculateProfile01_set_ne hfront hb (dataIdCrc cfg) ?_
    split_ifs at heq
    · exact E2eCrc.calculateProfile01_injective _ heq
    · exact heq
  · have hrest : coversRest cfg := hcov.covered.resolve_right (by omega)
    rw [List.take_set_of_le (by omega), if_pos hrest, if_pos hrest, List.drop_set,
      if_neg (by omega), List.take_set] at heq
    refine E2eCrc.calculateProfile01_set_ne ?_ hb _ heq
    rw [List.getElem?_take_of_lt (by omega), List.getElem?_drop,
      show cfg.crcOffset.toNat + 1 + (i - (cfg.crcOffset.toNat + 1)) = i by omega, hi]

/-- Writing a nibble keeps the length of the buffer. -/
@[simp] lemma length_writeNibble (buffer : List UInt8) (offset : UInt16) (low high : UInt8) :
    (writeNibble buffer offset low high).length = buffer.length := by
  simp [writeNibble]

/-- Writing counter and data id keeps the length of the buffer. -/
lemma length_written (cfg : Config) (buffer : List UInt8) (counter : UInt8) :
    (writeDataId cfg (writeCounter cfg buffer counter)).length = buffer.length := by
  unfold writeDataId writeCounter
  split_ifs <;> simp

/-- The protector in terms of the buffer with the counter and the data id. -/
lemma protect_eq (hvalid : isBufferLengthValid cfg buffer) (counter : UInt8) :
    ∃ written : List UInt8, written.length = buffer.length ∧
      (protect cfg buffer counter).1 =
        written.set cfg.crcOffset.toNat (computeCrc cfg written) := by
  refine ⟨_, length_written cfg buffer counter, ?_⟩
  rw [protect, if_pos hvalid]
  rfl

/-- Only the length of a buffer decides if it is valid. -/
lemma isBufferLengthValid_of_length {buffer' : List UInt8} (h : buffer'.length = buffer.length)
    (hvalid : isBufferLengthValid cfg buffer) : isBufferLengthValid cfg buffer' := by
  unfold isBufferLengthValid
  rw [h]
  exact hvalid

/-- What the protector has written is accepted. -/
lemma check_protect (hcov : Covers cfg buffer.length) (hvalid : isBufferLengthValid cfg buffer)
    (counter : UInt8) : check cfg (protect cfg buffer counter).1 = .e2eOk := by
  obtain ⟨written, hlen, hprot⟩ := protect_eq hvalid counter
  have hoff : cfg.crcOffset.toNat < written.length := by
    rw [hlen]
    exact hcov.crcOffset
  rw [check, hprot, if_pos (isBufferLengthValid_of_length (by simp [hlen]) hvalid),
    computeCrc_set_crcOffset, if_pos]
  rw [List.getD_eq_getElem?_getD, List.getElem?_set_self hoff, Option.getD_some]

/-- A change of a single byte of what the protector has written is detected. -/
lemma check_set_protect (hcov : Covers cfg buffer.length) (hvalid : isBufferLengthValid cfg buffer)
    (counter : UInt8) {i : ℕ} {b c : UInt8}
    (hi : (protect cfg buffer counter).1[i]? = some c) (hb : b ≠ c) :
    check cfg ((protect cfg buffer counter).1.set i b) = .e2eWrongCrc := by
  obtain ⟨written, hlen, hprot⟩ := protect_eq hvalid counter
  have hoff : cfg.crcOffset.toNat < written.length := by
    rw [hlen]
    exact hcov.crcOffset
  rw [hprot] at hi ⊢
  rw [check, if_pos (isBufferLengthValid_of_length (by simp [hlen]) hvalid), if_neg]
  by_cases hne : i = cfg.crcOffset.toNat
  · -- the CRC itself is changed
    subst hne
    rw [List.getElem?_set_self hoff] at hi
    rw [List.set_set, computeCrc_set_crcOffset, List.getD_eq_getElem?_getD,
      List.getElem?_set_self hoff, Option.getD_some]
    exact fun heq => hb (heq.trans (Option.some.inj hi))
  · rw [List.getElem?_set_ne (Ne.symm hne)] at hi
    rw [List.set_comm _ _ (Ne.symm hne), computeCrc_set_crcOffset, List.getD_eq_getElem?_getD,
      List.getElem?_set_self (by simpa using hoff), Option.getD_some]
    refine fun heq => computeCrc_set_ne ?_ hi hb hne heq.symm
    rw [hlen]
    exact hcov

end Detection

/-- A configuration for buffers of eight bytes: the CRC comes first, then the counter and the data id
in the nibbles of the second byte. -/
def innerConfig : Config :=
  { crcOffset := 0, dataId := 0xA73, dataIdMode := .nibble, dataLength := 56, counterOffset := 8,
    dataIdNibbleOffset := 12 }

end Profile01

end Vsomeip
