import Vsomeip.Lib.TableCrc

set_option relaxedAutoImplicit false
set_option autoImplicit false

/-!
# Bitwise CRCs

A CRC is defined by a polynomial and runs through the bits of a message: the register moves up by
one place for each of them, and the polynomial is subtracted if the bit that falls out differs from
that of the message. The bits of a byte are taken from the highest or, if the input is reflected,
from the lowest one on, and the bits of the result may be reflected as well.

What eight bits do to a register is linear, so that it can be looked up in a table of 256 entries.
For a reflected CRC the register is kept in reverse, so that it moves down.

## Main definitions

* `BitwiseCrc.Parameters`, `BitwiseCrc.crc` — the CRC with given parameters.
* `BitwiseCrc.shiftBit`, `BitwiseCrc.shiftBitReflected` — a step, and the same for a reversed
  register.

## Main results

* `BitwiseCrc.reverse_foldl_shiftBit` — the steps of a reversed register.
* `BitwiseCrc.foldl_byte_reflected`, `BitwiseCrc.foldl_byte` — what a byte does to the register.
* `BitwiseCrc.crc_eq_step32`, `BitwiseCrc.crc_eq_step8` — a CRC that looks up its steps in the table
  of the polynomial is the bitwise one.
-/

namespace BitwiseCrc

/-- The polynomial of a CRC without its leading term, the values that the start and the result are
combined with, and whether input and output are reflected. -/
structure Parameters (w : ℕ) where
  poly : BitVec w
  xorIn : BitVec w
  reflectIn : Bool
  xorOut : BitVec w
  reflectOut : Bool

section Definitions

variable {w : ℕ}

/-- The register takes in a bit of the message. -/
def shiftBit (poly reg : BitVec w) (bit : Bool) : BitVec w :=
  (reg <<< 1) ^^^ if reg.msb ^^ bit then poly else 0#w

/-- The bits of a byte in the order in which they are taken in. -/
def bitsOf (reflect : Bool) (byte : UInt8) : List Bool :=
  let bits := (List.range 8).map byte.toBitVec.getLsbD
  if reflect then bits else bits.reverse

/-- The register in the order of the output. -/
def orient (reflect : Bool) (reg : BitVec w) : BitVec w := if reflect then reg.reverse else reg

/-- The CRC of a message. The start is the result for what came before, or zero. -/
def crc (p : Parameters w) (start : BitVec w) (message : List UInt8) : BitVec w :=
  let reg := (message.flatMap (bitsOf p.reflectIn)).foldl (shiftBit p.poly)
    (orient p.reflectOut (start ^^^ p.xorIn))
  orient p.reflectOut reg ^^^ p.xorOut

/-- The same step for a reversed register, with the reversed polynomial. -/
def shiftBitReflected (poly reg : BitVec w) (bit : Bool) : BitVec w :=
  (reg >>> 1) ^^^ if reg.getLsbD 0 ^^ bit then poly else 0#w

/-- As many steps with bits that are not set. -/
def zeroBits (poly : BitVec w) (n : ℕ) (reg : BitVec w) : BitVec w :=
  (List.replicate n false).foldl (shiftBitReflected poly) reg

end Definitions

/-! ## Steps -/

section Steps

variable {w : ℕ}

/-- Reversing the bits is linear. -/
lemma reverse_xor (x y : BitVec w) : (x ^^^ y).reverse = x.reverse ^^^ y.reverse := by
  apply BitVec.eq_of_getLsbD_eq
  intro i hi
  simp [BitVec.getLsbD_reverse, BitVec.getMsbD_xor]

/-- A shift to the left is one to the right for reversed bits. -/
lemma reverse_shiftLeft_one (x : BitVec w) : (x <<< 1).reverse = x.reverse >>> 1 := by
  apply BitVec.eq_of_getLsbD_eq
  intro i hi
  rw [BitVec.getLsbD_reverse, BitVec.getMsbD_shiftLeft, BitVec.getLsbD_ushiftRight,
    BitVec.getLsbD_reverse, Nat.add_comm]

/-- A step of the reversed register. -/
lemma reverse_shiftBit (poly reg : BitVec w) (bit : Bool) :
    (shiftBit poly reg bit).reverse = shiftBitReflected poly.reverse reg.reverse bit := by
  have hlow : reg.reverse.getLsbD 0 = reg.msb := BitVec.getLsbD_reverse
  have hzero : (0#w).reverse = 0#w := BitVec.reverse_eq_zero_iff.mpr rfl
  rw [shiftBit, reverse_xor, reverse_shiftLeft_one, shiftBitReflected, hlow]
  split_ifs
  · rfl
  · rw [hzero]

/-- **The steps of a reversed register** are the reversed steps. -/
theorem reverse_foldl_shiftBit (poly reg : BitVec w) (bits : List Bool) :
    (bits.foldl (shiftBit poly) reg).reverse =
      bits.foldl (shiftBitReflected poly.reverse) reg.reverse := by
  induction bits generalizing reg with
  | nil => rfl
  | cons bit bits ih => rw [List.foldl_cons, List.foldl_cons, ih, reverse_shiftBit]

/-- No zero bits leave the register. -/
@[simp] lemma zeroBits_zero (poly reg : BitVec w) : zeroBits poly 0 reg = reg := rfl

/-- One zero bit more. -/
lemma zeroBits_succ (poly reg : BitVec w) (n : ℕ) :
    zeroBits poly (n + 1) reg = zeroBits poly n (shiftBitReflected poly reg false) := rfl

/-- A step is linear. -/
lemma shiftBitReflected_xor (poly x y : BitVec w) (bit bit' : Bool) :
    shiftBitReflected poly (x ^^^ y) (bit ^^ bit') =
      shiftBitReflected poly x bit ^^^ shiftBitReflected poly y bit' := by
  have hselect (b b' : Bool) : (if b ^^ b' then poly else 0#w) =
      (if b then poly else 0#w) ^^^ if b' then poly else 0#w := by
    cases b <;> cases b' <;> simp
  have hbits : ((x ^^^ y).getLsbD 0 ^^ (bit ^^ bit')) =
      ((x.getLsbD 0 ^^ bit) ^^ (y.getLsbD 0 ^^ bit')) := by
    rw [BitVec.getLsbD_xor]
    cases x.getLsbD 0 <;> cases y.getLsbD 0 <;> cases bit <;> cases bit' <;> rfl
  rw [shiftBitReflected, hbits, hselect, BitVec.ushiftRight_xor_distrib, shiftBitReflected,
    shiftBitReflected]
  ac_rfl

/-- Zero bits are linear in the register. -/
lemma zeroBits_xor (poly x y : BitVec w) (n : ℕ) :
    zeroBits poly n (x ^^^ y) = zeroBits poly n x ^^^ zeroBits poly n y := by
  induction n generalizing x y with
  | zero => rfl
  | succ n ih =>
    rw [zeroBits_succ, zeroBits_succ, zeroBits_succ, ← ih]
    exact congrArg _ (shiftBitReflected_xor poly x y false false)

/-- Bits that do not come to the end only move down. -/
lemma zeroBits_of_low {x : BitVec w} {n : ℕ} (h : ∀ i < n, x.getLsbD i = false) (poly : BitVec w) :
    zeroBits poly n x = x >>> n := by
  induction n generalizing x with
  | zero => simp
  | succ n ih =>
    have hstep : shiftBitReflected poly x false = x >>> 1 := by
      simp [shiftBitReflected, h 0 (Nat.succ_pos n)]
    rw [zeroBits_succ, hstep, ih, ← BitVec.shiftRight_add, Nat.add_comm]
    intro i hi
    rw [BitVec.getLsbD_ushiftRight, Nat.add_comm]
    exact h (i + 1) (Nat.succ_lt_succ hi)

/-- The lowest bits of a register decide what is subtracted, and the others move down. -/
lemma zeroBits_eq (poly x : BitVec w) (n : ℕ) :
    zeroBits poly n x = zeroBits poly n ((x.setWidth n).setWidth w) ^^^ (x >>> n) := by
  set low := (x.setWidth n).setWidth w with hlow
  have hbit (i : ℕ) : low.getLsbD i = (decide (i < n) && x.getLsbD i) := by
    rw [hlow, BitVec.getLsbD_setWidth, BitVec.getLsbD_setWidth]
    by_cases hi : i < w
    · simp [hi]
    · simp [hi, BitVec.getLsbD_of_ge x i (by omega)]
  have hhigh : (x ^^^ low) >>> n = x >>> n := by
    apply BitVec.eq_of_getLsbD_eq
    intro i hi
    rw [BitVec.getLsbD_ushiftRight, BitVec.getLsbD_ushiftRight, BitVec.getLsbD_xor, hbit,
      decide_eq_false (by omega), Bool.false_and, Bool.xor_false]
  have hsplit : x = low ^^^ (x ^^^ low) := by
    rw [BitVec.xor_comm x, ← BitVec.xor_assoc, BitVec.xor_self, BitVec.zero_xor]
  have hmoved : zeroBits poly n (x ^^^ low) = x >>> n := by
    rw [zeroBits_of_low, hhigh]
    intro i hi
    rw [BitVec.getLsbD_xor, hbit]
    simp [hi]
  rw [← hmoved, ← zeroBits_xor, ← hsplit]

/-- The bits of a number can be added to the register at once.

**Proof sketch.** Induction on the number of bits: a bit at the end of the register has the same
effect as one of the message, and the others have moved down when it is their turn. -/
lemma foldl_bits {m : ℕ} (hm : m ≤ w) (poly : BitVec w) {n : ℕ} {x : BitVec m} {reg : BitVec w}
    (h : x >>> n = 0#m) :
    ((List.range n).map x.getLsbD).foldl (shiftBitReflected poly) reg =
      zeroBits poly n (reg ^^^ x.setWidth w) := by
  induction n generalizing x reg with
  | zero =>
    rw [BitVec.ushiftRight_zero] at h
    simp [h]
  | succ n ih =>
    have hlow : (x.setWidth w).getLsbD 0 = x.getLsbD 0 := by
      rw [BitVec.getLsbD_setWidth]
      by_cases hw : 0 < w
      · simp [hw]
      · rw [BitVec.getLsbD_of_ge x 0 (by omega), Bool.and_false]
    have hmoved : (x.setWidth w) >>> 1 = (x >>> 1).setWidth w := by
      apply BitVec.eq_of_getLsbD_eq
      intro i hi
      rw [BitVec.getLsbD_ushiftRight, BitVec.getLsbD_setWidth, BitVec.getLsbD_setWidth,
        BitVec.getLsbD_ushiftRight]
      by_cases hw : 1 + i < w
      · simp [hw, hi]
      · simp [hw, BitVec.getLsbD_of_ge x (1 + i) (by omega)]
    have hstep : shiftBitReflected poly (reg ^^^ x.setWidth w) false =
        shiftBitReflected poly reg (x.getLsbD 0) ^^^ (x >>> 1).setWidth w := by
      rw [shiftBitReflected, shiftBitReflected, BitVec.ushiftRight_xor_distrib, BitVec.getLsbD_xor,
        hlow, hmoved, Bool.xor_false]
      ac_rfl
    have hrest : (fun i => x.getLsbD (i + 1)) = (x >>> 1).getLsbD := by
      funext i
      rw [BitVec.getLsbD_ushiftRight, Nat.add_comm]
    rw [List.range_succ_eq_map, List.map_cons, List.map_map, List.foldl_cons, zeroBits_succ, hstep]
    change ((List.range n).map fun i => x.getLsbD (i + 1)).foldl _ _ = _
    rw [hrest]
    refine ih ?_
    rw [← BitVec.shiftRight_add, Nat.add_comm, h]

end Steps

/-! ## Bytes -/

section Bytes

variable {w : ℕ}

/-- A shift by the whole width leaves nothing. -/
lemma ushiftRight_width {m : ℕ} (x : BitVec m) : x >>> m = 0#m := by
  apply BitVec.eq_of_getLsbD_eq
  intro i hi
  simp

/-- **A byte of a reflected CRC**: its table is looked up at the low end of the register. -/
theorem foldl_byte_reflected (hw : 8 ≤ w) (poly reg : BitVec w) (byte : UInt8) :
    (bitsOf true byte).foldl (shiftBitReflected poly) reg =
      zeroBits poly 8 ((byte.toBitVec ^^^ reg.setWidth 8).setWidth w) ^^^ (reg >>> 8) := by
  have hlow : (reg ^^^ byte.toBitVec.setWidth w).setWidth 8 = byte.toBitVec ^^^ reg.setWidth 8 := by
    rw [BitVec.setWidth_xor, BitVec.setWidth_setWidth_of_le _ hw, BitVec.setWidth_eq,
      BitVec.xor_comm]
  have hhigh : (reg ^^^ byte.toBitVec.setWidth w) >>> 8 = reg >>> 8 := by
    apply BitVec.eq_of_getLsbD_eq
    intro i hi
    simp
  change ((List.range 8).map byte.toBitVec.getLsbD).foldl _ _ = _
  rw [foldl_bits hw poly (ushiftRight_width _), zeroBits_eq, hlow, hhigh]

/-- The bits of a byte from the highest one on are those of the reversed byte. -/
lemma bitsOf_false (byte : UInt8) :
    bitsOf false byte = (List.range 8).map byte.toBitVec.reverse.getLsbD := by
  have hbit (i : ℕ) : byte.toBitVec.reverse.getLsbD i = byte.toBitVec.getMsbD i :=
    BitVec.getLsbD_reverse
  change ((List.range 8).map byte.toBitVec.getLsbD).reverse = _
  simp only [List.map_congr_left fun i _ => hbit i]
  rfl

/-- **A byte of a CRC of eight bits** that is not reflected: its table is looked up at the sum of the
register and the byte. -/
theorem foldl_byte (poly reg : BitVec 8) (byte : UInt8) :
    (bitsOf false byte).foldl (shiftBit poly) reg =
      (List.replicate 8 false).foldl (shiftBit poly) (byte.toBitVec ^^^ reg) := by
  have hreverse : ((bitsOf false byte).foldl (shiftBit poly) reg).reverse =
      ((List.replicate 8 false).foldl (shiftBit poly) (byte.toBitVec ^^^ reg)).reverse := by
    rw [reverse_foldl_shiftBit, reverse_foldl_shiftBit, bitsOf_false,
      foldl_bits (Nat.le_refl 8) _ (ushiftRight_width _), BitVec.setWidth_eq, ← reverse_xor,
      BitVec.xor_comm]
    rfl
  rw [← @BitVec.reverse_reverse_eq _ ((bitsOf false byte).foldl (shiftBit poly) reg), hreverse,
    BitVec.reverse_reverse_eq]

end Bytes

/-! ## Tables -/

section Tables

/-- A reflected CRC of 32 bits that looks up its steps. -/
theorem crc_eq_step32 {poly : BitVec 32} {table : UInt8 → UInt32}
    (htable : ∀ i, (table i).toBitVec = zeroBits poly.reverse 8 (i.toBitVec.setWidth 32))
    (start xorIn xorOut : UInt32) (message : List UInt8) :
    (message.foldl (Checksum.step32 table) (start ^^^ xorIn) ^^^ xorOut).toBitVec =
      crc { poly, xorIn := xorIn.toBitVec, reflectIn := true, xorOut := xorOut.toBitVec,
            reflectOut := true } start.toBitVec message := by
  have hstep (reg : UInt32) (byte : UInt8) : (Checksum.step32 table reg byte).toBitVec =
      (bitsOf true byte).foldl (shiftBitReflected poly.reverse) reg.toBitVec := by
    rw [foldl_byte_reflected (by decide), Checksum.step32, UInt32.toBitVec_xor, htable]
    rfl
  have hfold (reg : UInt32) : (message.foldl (Checksum.step32 table) reg).toBitVec =
      (message.flatMap (bitsOf true)).foldl (shiftBitReflected poly.reverse) reg.toBitVec := by
    induction message generalizing reg with
    | nil => rfl
    | cons byte message ih =>
      rw [List.foldl_cons, ih, hstep, List.flatMap_cons, List.foldl_append]
  rw [UInt32.toBitVec_xor, hfold]
  simp only [crc, orient, if_true, reverse_foldl_shiftBit, BitVec.reverse_reverse_eq]
  rfl

/-- A CRC of eight bits that looks up its steps. -/
theorem crc_eq_step8 {poly : BitVec 8} {table : UInt8 → UInt8}
    (htable : ∀ i, (table i).toBitVec = (List.replicate 8 false).foldl (shiftBit poly) i.toBitVec)
    (start xorIn xorOut : UInt8) (message : List UInt8) :
    (message.foldl (Checksum.step8 table) (start ^^^ xorIn) ^^^ xorOut).toBitVec =
      crc { poly, xorIn := xorIn.toBitVec, reflectIn := false, xorOut := xorOut.toBitVec,
            reflectOut := false } start.toBitVec message := by
  have hfold (reg : UInt8) : (message.foldl (Checksum.step8 table) reg).toBitVec =
      (message.flatMap (bitsOf false)).foldl (shiftBit poly) reg.toBitVec := by
    induction message generalizing reg with
    | nil => rfl
    | cons byte message ih =>
      rw [List.foldl_cons, ih, Checksum.step8, htable, List.flatMap_cons, List.foldl_append,
        foldl_byte]
      rfl
  rw [UInt8.toBitVec_xor, hfold]
  rfl

end Tables

end BitwiseCrc
