import Mathlib.Data.List.GetD
import Mathlib.Data.List.Nodup
import Mathlib.Data.UInt

set_option relaxedAutoImplicit false
set_option autoImplicit false

/-!
# Table-driven checksums

A checksum runs through the bytes of a message with a state. If no step loses anything, neither of
the state nor of the byte, then two messages that differ in a single byte have different checksums.
The steps of table-driven CRCs are of this kind if the table has no entry twice.

## Main definitions

* `Checksum.Reversible` — no step of a checksum loses anything.
* `Checksum.lookup` — an entry of a table of 256 entries.
* `Checksum.step8`, `Checksum.step32` — the steps of table-driven CRCs of eight and 32 bits.

## Main results

* `Checksum.Reversible.foldl_set_ne` — a change of a single byte changes the checksum.
* `Checksum.reversible_step8`, `Checksum.reversible_step32` — the steps are reversible.
-/

namespace Checksum

/-! ## Single changes -/

section Reversible

variable {σ β : Type} {step : σ → β → σ}

/-- No step loses anything: for a given byte the state before, and for a given state the byte, can be
told from the state after it. -/
structure Reversible (step : σ → β → σ) : Prop where
  state : ∀ b, Function.Injective fun s => step s b
  byte : ∀ s, Function.Injective (step s)

/-- Reversible steps make different results of different starts. -/
lemma Reversible.foldl_injective (h : Reversible step) (l : List β) :
    Function.Injective fun s => l.foldl step s := by
  induction l with
  | nil => exact fun _ _ heq => heq
  | cons b l ih =>
    intro s s' heq
    exact h.state b (ih heq)

/-- A change of a single byte changes the checksum.

**Proof sketch.** Induction on the message. Before the change the states are the same; at the change
they become different, because the bytes are; and behind it they stay different. -/
lemma Reversible.foldl_set_ne (h : Reversible step) {l : List β} {i : ℕ} {b c : β}
    (hi : l[i]? = some c) (hb : b ≠ c) (s : σ) : (l.set i b).foldl step s ≠ l.foldl step s := by
  induction l generalizing i s with
  | nil => simp at hi
  | cons d l ih =>
    cases i with
    | zero =>
      obtain rfl : d = c := by simpa using hi
      rw [List.set_cons_zero, List.foldl_cons, List.foldl_cons]
      exact fun heq => hb (h.byte s (h.foldl_injective l heq))
    | succ i =>
      rw [List.set_cons_succ, List.foldl_cons, List.foldl_cons]
      exact ih (by simpa using hi) (step s d)

end Reversible

/-! ## Tables -/

section Table

/-- An entry of a table of 256 entries. -/
def lookup {α : Type} [Zero α] (table : List α) (i : UInt8) : α := table.getD i.toNat 0

/-- The numbers of a list are distinct, and none of them is marked: each is marked in turn, as a bit
of a number. The kernel evaluates this in one pass. -/
def unmarked : ℕ → List ℕ → Bool
  | _, [] => true
  | marks, n :: l => !marks.testBit n && unmarked (marks ||| 2 ^ n) l

/-- Numbers that were not marked before are different. -/
lemma nodup_of_unmarked : ∀ {marks : ℕ} {l : List ℕ}, unmarked marks l = true →
    l.Nodup ∧ ∀ n ∈ l, marks.testBit n = false
  | _, [], _ => ⟨List.nodup_nil, fun _ h => absurd h List.not_mem_nil⟩
  | marks, n :: l, h => by
    rw [unmarked, Bool.and_eq_true, Bool.not_eq_true'] at h
    obtain ⟨hnodup, hrest⟩ := nodup_of_unmarked h.2
    refine ⟨List.nodup_cons.mpr ⟨fun hn => ?_, hnodup⟩, fun m hm => ?_⟩
    · have hbit := hrest n hn
      simp [Nat.testBit_or, Nat.testBit_two_pow_self] at hbit
    · rcases List.mem_cons.mp hm with rfl | hm
      · exact h.1
      · have hbit := hrest m hm
        rw [Nat.testBit_or, Bool.or_eq_false_iff] at hbit
        exact hbit.1

/-- A table whose entries have distinct keys. -/
lemma lookup_injective {α : Type} [Zero α] {table : List α} {key : α → ℕ}
    (hlen : table.length = 256) (h : unmarked 0 (table.map key) = true) :
    Function.Injective fun i => key (lookup table i) := by
  intro i j heq
  have hi : i.toNat < table.length := by rw [hlen]; exact i.toNat_lt
  have hj : j.toNat < table.length := by rw [hlen]; exact j.toNat_lt
  have heq' : (table.map key).get ⟨i.toNat, by simpa using hi⟩ =
      (table.map key).get ⟨j.toNat, by simpa using hj⟩ := by
    dsimp only [lookup] at heq
    rw [List.getD_eq_getElem _ _ hi, List.getD_eq_getElem _ _ hj] at heq
    simpa using heq
  have hfin := (nodup_of_unmarked h).1.injective_get heq'
  exact UInt8.toNat_inj.mp (Fin.mk.inj hfin)

/-- A step of a table-driven CRC of eight bits. -/
def step8 (table : UInt8 → UInt8) (crc byte : UInt8) : UInt8 := table (byte ^^^ crc)

/-- The steps with a table of different bytes are reversible. -/
lemma reversible_step8 {table : UInt8 → UInt8} (h : Function.Injective table) :
    Reversible (step8 table) where
  state := fun b _ _ heq => (UInt8.xor_right_inj b).mp (h heq)
  byte := fun s _ _ heq => (UInt8.xor_left_inj s).mp (h heq)

/-- A step of a table-driven CRC of 32 bits that runs through the low end of the state. -/
def step32 (table : UInt8 → UInt32) (crc : UInt32) (byte : UInt8) : UInt32 :=
  table (byte ^^^ crc.toUInt8) ^^^ (crc >>> 8)

/-- The high byte of the state after a step is that of the entry, so that it tells the entry. -/
lemma step32_shiftRight (table : UInt8 → UInt32) (crc : UInt32) (byte : UInt8) :
    step32 table crc byte >>> 24 = table (byte ^^^ crc.toUInt8) >>> 24 := by
  have hzero : crc >>> 8 >>> 24 = 0 := by
    apply UInt32.toNat_inj.mp
    have hlt := crc.toNat_lt
    simp only [UInt32.toNat_shiftRight, Nat.shiftRight_eq_div_pow]
    change crc.toNat / 2 ^ 8 / 2 ^ 24 = 0
    omega
  rw [step32, UInt32.shiftRight_xor, hzero, UInt32.xor_zero]

/-- The steps with a table of different high bytes are reversible. -/
lemma reversible_step32 {table : UInt8 → UInt32}
    (h : Function.Injective fun i => table i >>> 24) : Reversible (step32 table) where
  state := by
    intro b s s' heq
    have heq' : step32 table s b = step32 table s' b := heq
    have hentry : b ^^^ s.toUInt8 = b ^^^ s'.toUInt8 := by
      apply h
      dsimp only
      rw [← step32_shiftRight, ← step32_shiftRight, heq']
    have hlow : s.toUInt8 = s'.toUInt8 := (UInt8.xor_right_inj b).mp hentry
    have hhigh : s >>> 8 = s' >>> 8 := by
      rw [step32, step32, hlow] at heq'
      exact (UInt32.xor_right_inj _).mp heq'
    have hlow' := congrArg UInt8.toNat hlow
    have hhigh' := congrArg UInt32.toNat hhigh
    simp only [UInt32.toNat_toUInt8, UInt32.toNat_shiftRight,
      Nat.shiftRight_eq_div_pow] at hlow' hhigh'
    change s.toNat / 2 ^ 8 = s'.toNat / 2 ^ 8 at hhigh'
    apply UInt32.toNat_inj.mp
    omega
  byte := by
    intro s b b' heq
    have hentry : b ^^^ s.toUInt8 = b' ^^^ s.toUInt8 := by
      apply h
      dsimp only
      rw [← step32_shiftRight, ← step32_shiftRight, heq]
    exact (UInt8.xor_left_inj _).mp hentry

end Table

end Checksum
