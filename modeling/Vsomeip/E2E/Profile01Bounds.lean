import Vsomeip.Lib.Checked
import Vsomeip.E2E.Profile01

set_option relaxedAutoImplicit false
set_option autoImplicit false

/-!
# Accesses of E2E profile 01

Which bytes of a buffer the protector and the checker of profile 01 touch. Both look at the size of
the buffer first, but `is_buffer_length_valid` lets through offsets that are equal to it, so that the
byte behind the last one is read and written.

The functions are those of the model, with accesses that stop at the first one outside of the buffer.

## Main definitions

* `Vsomeip.Profile01.BufferFault` — an access outside of a buffer.
* `Vsomeip.Profile01.Bounded.protect`, `Vsomeip.Profile01.Bounded.check` — the protector and the
  checker with checked accesses.
* `Vsomeip.Profile01.OffsetsInside` — the offsets that are used lie in the buffer.

## Main results

* `Vsomeip.Profile01.Bounded.computeCrc_of_valid` — both areas of the CRC are well formed in a valid
  buffer.
* `Vsomeip.Profile01.staysInside_iff` — all accesses are inside of a valid buffer exactly if the
  offsets are.
-/

namespace Vsomeip

namespace Profile01

/-- An access to a byte of a buffer, or a view of it, that does not lie in it. -/
inductive BufferFault
  | index (i size : ℕ)
  | view (first last size : ℕ)
deriving DecidableEq, Repr

namespace Bounded

open Checked (Fine guarded)

/-! ## Accesses -/

/-- `_buffer[i]`. -/
def byteAt (buffer : List UInt8) (i : ℕ) : Except BufferFault UInt8 :=
  guarded (i < buffer.length) (.index i buffer.length) (buffer.getD i 0)

/-- `_buffer[i] = b`. -/
def setByte (buffer : List UInt8) (i : ℕ) (b : UInt8) : Except BufferFault (List UInt8) :=
  guarded (i < buffer.length) (.index i buffer.length) (buffer.set i b)

/-- `buffer_view(_buffer, _begin, _end)`. -/
def view (buffer : List UInt8) (first last : ℕ) : Except BufferFault (List UInt8) :=
  guarded (first ≤ last ∧ last ≤ buffer.length) (.view first last buffer.length)
    (bufferView buffer first last)

/-! ## The functions with checked accesses -/

section Model

variable (cfg : Config) (buffer : List UInt8)

/-- The CRC over the data id. -/
def dataIdCrc : Except BufferFault UInt8 := do
  let dataIdBuffer := [(cfg.dataId >>> 8).toUInt8, cfg.dataId.toUInt8]
  match cfg.dataIdMode with
  | .both =>
    let crc := E2eCrc.calculateProfile01 (← view dataIdBuffer 1 2) 0xFF
    pure (E2eCrc.calculateProfile01 (← view dataIdBuffer 0 1) crc)
  | .low => pure (E2eCrc.calculateProfile01 (← view dataIdBuffer 1 2) 0xFF)
  | .alt => pure 0xFF
  | .nibble =>
    let crc := E2eCrc.calculateProfile01 (← view dataIdBuffer 1 2) 0xFF
    pure (E2eCrc.calculateProfile01 (← view [0x00] 0 1) crc)

/-- The CRC of an area if it is not left out. -/
def areaCrc (covered : Prop) [Decidable covered] (first last : ℕ) (crc : UInt8) :
    Except BufferFault UInt8 := do
  if covered then pure (E2eCrc.calculateProfile01 (← view buffer first last) crc) else pure crc

/-- `profile_01::compute_crc`. -/
def computeCrc : Except BufferFault UInt8 := do
  let offset := cfg.crcOffset.toNat
  let crc ← dataIdCrc cfg
  let crc ← areaCrc buffer (1 ≤ offset) 0 offset crc
  let crc ← areaCrc buffer (coversRest cfg) (offset + 1) buffer.length crc
  pure (crc ^^^ 0xFF)

/-- A nibble is written to a byte of the buffer, which is read before. -/
def writeNibble (offset : UInt16) (low high : UInt8) : Except BufferFault (List UInt8) := do
  let byte ← byteAt buffer (offset.toNat / 8)
  setByte buffer (offset.toNat / 8)
    (if offset % 8 = 0 then (byte &&& 0xF0) ||| (low &&& 0x0F)
     else (byte &&& 0x0F) ||| (high &&& 0xF0))

/-- `protector::write_counter`. -/
def writeCounter (counter : UInt8) : Except BufferFault (List UInt8) :=
  writeNibble buffer cfg.counterOffset counter (counter <<< 4)

/-- `protector::write_data_id`. -/
def writeDataId : Except BufferFault (List UInt8) :=
  if cfg.dataIdMode = .nibble then
    writeNibble buffer cfg.dataIdNibbleOffset (cfg.dataId >>> 8).toUInt8 (cfg.dataId >>> 4).toUInt8
  else pure buffer

/-- `protector::write_crc`. -/
def writeCrc (crc : UInt8) : Except BufferFault (List UInt8) :=
  setByte buffer cfg.crcOffset.toNat crc

/-- `protector::protect`. -/
def protect (counter : UInt8) : Except BufferFault (List UInt8 × UInt8) :=
  if isBufferLengthValid cfg buffer then do
    let counted ← writeCounter cfg buffer counter
    let written ← writeDataId cfg counted
    let crc ← computeCrc cfg written
    let finished ← writeCrc cfg written crc
    pure (finished, incrementCounter counter)
  else pure (buffer, counter)

/-- `profile_01_checker::check`. -/
def check : Except BufferFault GenericCheckStatus :=
  if isBufferLengthValid cfg buffer then do
    let received ← byteAt buffer cfg.crcOffset.toNat
    let calculated ← computeCrc cfg buffer
    pure (if received = calculated then .e2eOk else .e2eWrongCrc)
  else pure .e2eError

end Model

/-! ## What each function needs -/

section Spec

variable {cfg : Config} {buffer : List UInt8}

/-- The views of the data id are well formed. -/
lemma dataIdCrc_eq (cfg : Config) : dataIdCrc cfg = .ok (Profile01.dataIdCrc cfg) := by
  unfold dataIdCrc Profile01.dataIdCrc
  cases cfg.dataIdMode <;> rfl

/-- The CRC over an area that lies inside the buffer, if it is covered. -/
lemma areaCrc_of {covered : Prop} [Decidable covered] {first last : ℕ}
    (h : covered → first ≤ last ∧ last ≤ buffer.length) (crc : UInt8) :
    areaCrc buffer covered first last crc = .ok (if covered then
      E2eCrc.calculateProfile01 (bufferView buffer first last) crc else crc) := by
  unfold areaCrc
  split_ifs with hcovered
  · rw [view, Checked.guarded_of (h hcovered)]
    rfl
  · rfl

/-- The CRC is not behind the configured length if the area behind it is covered. -/
lemma crcOffset_lt_of_coversRest (h : coversRest cfg) :
    cfg.crcOffset.toNat + 1 < cfg.dataLength.toNat / 8 := by
  unfold coversRest at h
  omega

/-- **Both areas of the CRC are well formed** in a valid buffer. -/
theorem computeCrc_of_valid (h : isBufferLengthValid cfg buffer) :
    computeCrc cfg buffer = .ok (Profile01.computeCrc cfg buffer) := by
  obtain ⟨hlength, hcrc, -, -⟩ := h
  have hrest (hcovers : coversRest cfg) :
      cfg.crcOffset.toNat + 1 ≤ buffer.length ∧ buffer.length ≤ buffer.length := by
    have := crcOffset_lt_of_coversRest hcovers
    omega
  have hfront := @areaCrc_of buffer (1 ≤ cfg.crcOffset.toNat) _ 0 cfg.crcOffset.toNat
    (fun _ => ⟨Nat.zero_le _, hcrc⟩) (Profile01.dataIdCrc cfg)
  rw [computeCrc, dataIdCrc_eq]
  change areaCrc _ _ _ _ _ >>= _ = _
  rw [hfront]
  change areaCrc _ _ _ _ _ >>= _ = _
  rw [areaCrc_of hrest]
  rfl

/-- A nibble is written if its byte is there. -/
lemma writeNibble_eq (buffer : List UInt8) (offset : UInt16) (low high : UInt8) :
    writeNibble buffer offset low high = guarded (offset.toNat / 8 < buffer.length)
      (.index (offset.toNat / 8) buffer.length) (Profile01.writeNibble buffer offset low high) := by
  unfold writeNibble byteAt setByte guarded
  by_cases hlt : offset.toNat / 8 < buffer.length
  · simp only [if_pos hlt]
    rfl
  · simp only [if_neg hlt]
    rfl

/-- The counter is written if its byte is there, and the length stays. -/
lemma writeCounter_eq_ok_iff {counter : UInt8} {counted : List UInt8} :
    writeCounter cfg buffer counter = .ok counted ↔ cfg.counterOffset.toNat / 8 < buffer.length ∧
      Profile01.writeCounter cfg buffer counter = counted := by
  rw [writeCounter, writeNibble_eq, Checked.guarded_eq_ok_iff, Profile01.writeCounter]

/-- The data id is written if its byte is there, or if it is not written at all. -/
lemma writeDataId_eq_ok_iff {written : List UInt8} :
    writeDataId cfg buffer = .ok written ↔
      (cfg.dataIdMode = .nibble → cfg.dataIdNibbleOffset.toNat / 8 < buffer.length) ∧
        Profile01.writeDataId cfg buffer = written := by
  unfold writeDataId Profile01.writeDataId
  split_ifs with hmode
  · rw [writeNibble_eq, Checked.guarded_eq_ok_iff, forall_prop_of_true hmode]
  · simp [pure, Except.pure, hmode]

end Spec

end Bounded

/-! ## Main results -/

/-- The offsets of the CRC and of the counter, and that of the data id if it is written, lie in a
buffer of the given size. -/
structure OffsetsInside (cfg : Config) (size : ℕ) : Prop where
  crcOffset : cfg.crcOffset.toNat < size
  counterOffset : cfg.counterOffset.toNat / 8 < size
  dataIdNibbleOffset : cfg.dataIdMode = .nibble → cfg.dataIdNibbleOffset.toNat / 8 < size

section Main

variable {cfg : Config} {buffer : List UInt8}

/-- The protector stays inside a valid buffer exactly if the offsets do, and then does what it does in
the model. -/
lemma Bounded.protect_eq_ok_iff (hvalid : isBufferLengthValid cfg buffer) {counter : UInt8}
    {result : List UInt8 × UInt8} : Bounded.protect cfg buffer counter = .ok result ↔
      OffsetsInside cfg buffer.length ∧ Profile01.protect cfg buffer counter = result := by
  have hlength : (Profile01.writeCounter cfg buffer counter).length = buffer.length :=
    length_writeNibble _ _ _ _
  have hwritten := length_written cfg buffer counter
  have hcrc := Bounded.computeCrc_of_valid (isBufferLengthValid_of_length hwritten hvalid)
  rw [Bounded.protect, if_pos hvalid, Profile01.protect, if_pos hvalid]
  simp only [Checked.bind_eq_ok_iff, Bounded.writeCounter_eq_ok_iff, Bounded.writeDataId_eq_ok_iff]
  constructor
  · rintro ⟨_, ⟨hcounter, rfl⟩, _, ⟨hnibble, rfl⟩, crc, hcomputed, finished, hfinished, hresult⟩
    rw [hlength] at hnibble
    rw [hcrc] at hcomputed
    cases hcomputed
    rw [Bounded.writeCrc, Bounded.setByte, Checked.guarded_eq_ok_iff, hwritten] at hfinished
    obtain ⟨hoffset, rfl⟩ := hfinished
    cases hresult
    exact ⟨⟨hoffset, hcounter, hnibble⟩, rfl⟩
  · rintro ⟨hinside, rfl⟩
    refine ⟨_, ⟨hinside.counterOffset, rfl⟩, _, ⟨?_, rfl⟩, _, hcrc, _, ?_, rfl⟩
    · rw [hlength]
      exact hinside.dataIdNibbleOffset
    · rw [Bounded.writeCrc, Bounded.setByte, Checked.guarded_eq_ok_iff, hwritten]
      exact ⟨hinside.crcOffset, rfl⟩

/-- The checker stays inside a valid buffer exactly if the offset of the CRC does. -/
lemma Bounded.check_eq_ok_iff (hvalid : isBufferLengthValid cfg buffer) {status : GenericCheckStatus} :
    Bounded.check cfg buffer = .ok status ↔
      cfg.crcOffset.toNat < buffer.length ∧ Profile01.check cfg buffer = status := by
  rw [Bounded.check, if_pos hvalid, Profile01.check, if_pos hvalid]
  simp only [Checked.bind_eq_ok_iff, Bounded.byteAt, Checked.guarded_eq_ok_iff,
    Bounded.computeCrc_of_valid hvalid]
  constructor
  · rintro ⟨_, ⟨hoffset, rfl⟩, _, hcomputed, hstatus⟩
    cases hcomputed
    cases hstatus
    exact ⟨hoffset, rfl⟩
  · rintro ⟨hoffset, rfl⟩
    exact ⟨_, ⟨hoffset, rfl⟩, _, rfl, rfl⟩

end Main

/-- **The accesses of profile 01** to a buffer whose length is valid are inside of it exactly if the
offsets are: of the protector, with any counter, and of the checker. -/
theorem staysInside_iff (cfg : Config) (buffer : List UInt8) (hvalid : isBufferLengthValid cfg buffer)
    (counter : UInt8) :
    (Checked.Fine (Bounded.protect cfg buffer counter) ∧ Checked.Fine (Bounded.check cfg buffer)) ↔
      OffsetsInside cfg buffer.length := by
  constructor
  · rintro ⟨⟨result, hresult⟩, -⟩
    exact ((Bounded.protect_eq_ok_iff hvalid).mp hresult).1
  · intro hinside
    exact ⟨⟨_, (Bounded.protect_eq_ok_iff hvalid).mpr ⟨hinside, rfl⟩⟩,
      ⟨_, (Bounded.check_eq_ok_iff hvalid).mpr ⟨hinside.crcOffset, rfl⟩⟩⟩

/-- A counter inside the buffer, as in the tests: nothing outside is read or written. -/
theorem staysInside_innerConfig :
    Checked.Fine (Bounded.protect innerConfig [0, 0, 1, 2, 3, 4, 5, 6] 7) ∧
      Checked.Fine (Bounded.check innerConfig [0, 0, 1, 2, 3, 4, 5, 6]) :=
  (staysInside_iff innerConfig [0, 0, 1, 2, 3, 4, 5, 6] (by decide) 7).mpr
    ⟨by decide, by decide, fun _ => by decide⟩

/-- **A CRC behind the last byte** passes the check of the length, and the checker reads it there. -/
theorem not_staysInside_crcOffset :
    ¬ ∀ (cfg : Config) (buffer : List UInt8), isBufferLengthValid cfg buffer → ∀ counter : UInt8,
      Checked.Fine (Bounded.protect cfg buffer counter) ∧
        Checked.Fine (Bounded.check cfg buffer) := by
  intro hall
  obtain ⟨-, status, hstatus⟩ := hall { innerConfig with crcOffset := 8 } [0, 0, 1, 2, 3, 4, 5, 6]
    (by decide) 7
  have hfault : Bounded.check { innerConfig with crcOffset := 8 } [0, 0, 1, 2, 3, 4, 5, 6] =
      .error (.index 8 8) := rfl
  cases hfault.symm.trans hstatus

end Profile01

end Vsomeip
