import Mathlib.Data.Vector.Basic
import Vsomeip.Lib.Parse
import Vsomeip.Message.Byteorder

set_option relaxedAutoImplicit false
set_option autoImplicit false

/-!
# The deserializer

The cursor of `message/src/deserializer.cpp`: a byte vector `data_`, a position in it and the
number `remaining_` of bytes that may still be read. Every read compares the number of bytes it
needs with `remaining_` only, and `set_remaining` installs any number, so nothing in the class
itself keeps a read inside `data_`. To speak about such reads the model records the position of
every byte read, and gives the bytes behind the end of `data_` as a parameter `stray`.

## Main definitions

* `Vsomeip.Deserializer` — the cursor, with the record of its reads.
* `Vsomeip.Deserializer.deserialize8`, `deserialize16`, `deserialize32`, `deserializeBytes`,
  `lookAhead` — the overloads of `deserialize` and `look_ahead`.
* `Vsomeip.Deserializer.InBounds` — every read so far was inside `data_`.
* `Vsomeip.Deserializer.Sequential` — a parser that reads fields of given widths one after the
  other.
* `Vsomeip.Deserializer.Decodes` — a parser that recovers a value from its encoding.

## Main results

* `Vsomeip.Deserializer.Sequential.bind`, `Vsomeip.Deserializer.Decodes.bind` — both compose.
* `Vsomeip.Deserializer.advanceStable_safe` — while the remaining bytes lie inside `data_`, reads
  stay inside it.
-/

namespace Vsomeip

/-- The members of `vsomeip::deserializer` that its reads use. The position is the offset of
`position_` from `data_.begin()`. Two members are not in the source: `reads` records the position
of every byte read so far, and `stray p` is the byte found in memory at an offset `p` behind the
end of `data_`. -/
structure Deserializer where
  data : List UInt8
  position : ℕ
  remaining : ℕ
  reads : List ℕ
  stray : ℕ → UInt8

namespace Deserializer

/-- `set_data(_data, _length)` on a fresh deserializer, with the memory behind the data given. -/
def setData (data : List UInt8) (stray : ℕ → UInt8) : Deserializer :=
  { data, position := 0, remaining := data.length, reads := [], stray }

/-- `set_remaining`. -/
def setRemaining (d : Deserializer) (r : ℕ) : Deserializer := { d with remaining := r }

/-- The byte found at offset `p`, inside `data_` or behind it. -/
def byteAt (d : Deserializer) (p : ℕ) : UInt8 := d.data.getD p (d.stray p)

/-- The `n` bytes found from offset `p` on. -/
def bytesAt (d : Deserializer) (p n : ℕ) : List UInt8 := (List.range' p n).map d.byteAt

/-- Read the next `n` bytes: they are recorded as read, the position moves behind them and
`remaining_` shrinks. -/
def advance (d : Deserializer) (n : ℕ) : Deserializer :=
  { d with
    position := d.position + n
    remaining := d.remaining - n
    reads := d.reads ++ List.range' d.position n }

/-- `deserialize(uint8_t&)`. -/
def deserialize8 : Parse Deserializer UInt8 := fun d =>
  if 0 = d.remaining then (none, d)
  else (some (d.byteAt d.position), d.advance 1)

/-- `deserialize(uint16_t&)`. -/
def deserialize16 : Parse Deserializer UInt16 := fun d =>
  if 2 > d.remaining then (none, d)
  else (some (bytesToWord (d.byteAt d.position) (d.byteAt (d.position + 1))), d.advance 2)

/-- `deserialize(uint32_t&, bool _omit_last_byte)`: with the flag set only the three low bytes are
on the wire. -/
def deserialize32 (omitLastByte : Bool) : Parse Deserializer UInt32 := fun d =>
  if 3 > d.remaining ∨ (omitLastByte = false ∧ 4 > d.remaining) then (none, d)
  else if omitLastByte then
    (some (bytesToLong 0 (d.byteAt d.position) (d.byteAt (d.position + 1))
      (d.byteAt (d.position + 2))), d.advance 3)
  else
    (some (bytesToLong (d.byteAt d.position) (d.byteAt (d.position + 1))
      (d.byteAt (d.position + 2)) (d.byteAt (d.position + 3))), d.advance 4)

/-- `deserialize(uint8_t *_data, std::size_t _length)`: fill an array of `_length` bytes. -/
def deserializeBytes (length : ℕ) : Parse Deserializer (List.Vector UInt8 length) := fun d =>
  if length > d.remaining then (none, d)
  else (some ⟨d.bytesAt d.position length, by simp [bytesAt]⟩, d.advance length)

/-- Read the byte `index` places ahead: it is recorded as read, and the cursor stays. -/
def peek (d : Deserializer) (index : ℕ) : Deserializer :=
  { d with reads := d.reads ++ [d.position + index] }

/-- `look_ahead(_index, uint8_t&)`: the index is compared with the size of the whole buffer and
not with what is left behind the position. -/
def lookAhead (index : ℕ) : Parse Deserializer UInt8 := fun d =>
  if index ≥ d.data.length then (none, d)
  else (some (d.byteAt (d.position + index)), d.peek index)

/-! ## The state after a step -/

/-- A read keeps the data. -/
@[simp] lemma data_advance (d : Deserializer) (n : ℕ) : (d.advance n).data = d.data := rfl

/-- A read moves the position behind its bytes. -/
@[simp] lemma position_advance (d : Deserializer) (n : ℕ) :
    (d.advance n).position = d.position + n := rfl

/-- A read shrinks `remaining_` by its bytes. -/
@[simp] lemma remaining_advance (d : Deserializer) (n : ℕ) :
    (d.advance n).remaining = d.remaining - n := rfl

/-- A read is recorded byte by byte. -/
@[simp] lemma reads_advance (d : Deserializer) (n : ℕ) :
    (d.advance n).reads = d.reads ++ List.range' d.position n := rfl

/-- `set_remaining` keeps the data. -/
@[simp] lemma data_setRemaining (d : Deserializer) (r : ℕ) : (d.setRemaining r).data = d.data := rfl

/-- `set_remaining` keeps the position. -/
@[simp] lemma position_setRemaining (d : Deserializer) (r : ℕ) :
    (d.setRemaining r).position = d.position := rfl

/-- `set_remaining` installs its argument. -/
@[simp] lemma remaining_setRemaining (d : Deserializer) (r : ℕ) :
    (d.setRemaining r).remaining = r := rfl

/-- `set_remaining` reads nothing. -/
@[simp] lemma reads_setRemaining (d : Deserializer) (r : ℕ) :
    (d.setRemaining r).reads = d.reads := rfl

/-- Looking ahead keeps the data. -/
@[simp] lemma data_peek (d : Deserializer) (i : ℕ) : (d.peek i).data = d.data := rfl

/-- Looking ahead keeps the position. -/
@[simp] lemma position_peek (d : Deserializer) (i : ℕ) : (d.peek i).position = d.position := rfl

/-- Looking ahead keeps `remaining_`. -/
@[simp] lemma remaining_peek (d : Deserializer) (i : ℕ) : (d.peek i).remaining = d.remaining := rfl

/-- Looking ahead records the byte looked at. -/
@[simp] lemma reads_peek (d : Deserializer) (i : ℕ) :
    (d.peek i).reads = d.reads ++ [d.position + i] := rfl

/-- Looking ahead does not change what is found in memory. -/
@[simp] lemma byteAt_peek (d : Deserializer) (i p : ℕ) : (d.peek i).byteAt p = d.byteAt p := rfl

/-- Looking ahead succeeds for an index below the size of the buffer. -/
lemma lookAhead_of_lt {d : Deserializer} {i : ℕ} (h : i < d.data.length) :
    lookAhead i d = (some (d.byteAt (d.position + i)), d.peek i) := by
  rw [lookAhead, if_neg (by omega)]

/-- A read of no bytes does nothing. -/
@[simp] lemma advance_zero (d : Deserializer) : d.advance 0 = d := by simp [advance]

/-- Two steps make one. -/
@[simp] lemma advance_advance (d : Deserializer) (m n : ℕ) :
    (d.advance m).advance n = d.advance (m + n) := by
  simp [advance, Nat.add_assoc, Nat.sub_sub, List.range'_append_1]

/-- A read does not change what is found in memory. -/
@[simp] lemma byteAt_advance (d : Deserializer) (n p : ℕ) :
    (d.advance n).byteAt p = d.byteAt p := rfl

/-! ## Properties kept by every read -/

/-- A property of the cursor that survives every read `remaining_` allows, and giving up the rest
of the data. -/
structure AdvanceStable (I : Deserializer → Prop) : Prop where
  advance : ∀ d n, n ≤ d.remaining → I d → I (d.advance n)
  giveUp : ∀ d, I d → I (d.setRemaining 0)

section Keeps

variable {I : Deserializer → Prop} (hI : AdvanceStable I)

include hI in
/-- Reading a byte keeps the property. -/
lemma keeps_deserialize8 : Parse.Keeps I deserialize8 := by
  intro d hd
  unfold deserialize8
  split_ifs with h
  · exact hd
  · exact hI.advance d 1 (by omega) hd

include hI in
/-- Reading two bytes keeps the property. -/
lemma keeps_deserialize16 : Parse.Keeps I deserialize16 := by
  intro d hd
  unfold deserialize16
  split_ifs with h
  · exact hd
  · exact hI.advance d 2 (by omega) hd

include hI in
/-- Reading three or four bytes keeps the property. -/
lemma keeps_deserialize32 (o : Bool) : Parse.Keeps I (deserialize32 o) := by
  intro d hd
  unfold deserialize32
  split_ifs with h ho
  · exact hd
  · exact hI.advance d 3 (by omega) hd
  · have ho' : o = false := by simpa using ho
    exact hI.advance d 4 (by simp only [ho', true_and] at h; omega) hd

include hI in
/-- Filling an array keeps the property. -/
lemma keeps_deserializeBytes (n : ℕ) : Parse.Keeps I (deserializeBytes n) := by
  intro d hd
  unfold deserializeBytes
  split_ifs with h
  · exact hd
  · exact hI.advance d n (by omega) hd

end Keeps

/-! ## Reads inside the data -/

/-- Every byte read so far was inside `data_`. -/
def InBounds (d : Deserializer) : Prop := ∀ p ∈ d.reads, p < d.data.length

/-- Nothing was read outside `data_`, and the bytes that may still be read lie inside it. -/
structure Safe (d : Deserializer) : Prop where
  inBounds : d.InBounds
  room : d.position + d.remaining ≤ d.data.length

/-- A fresh deserializer is safe. -/
lemma safe_setData (data : List UInt8) (stray : ℕ → UInt8) : (setData data stray).Safe :=
  ⟨by simp [InBounds, setData], by simp [setData]⟩

/-- Shrinking `remaining_` keeps a cursor safe. -/
lemma Safe.setRemaining {d : Deserializer} (h : d.Safe) {r : ℕ} (hr : r ≤ d.remaining) :
    (d.setRemaining r).Safe :=
  ⟨h.inBounds, by have := h.room; simp only [position_setRemaining, remaining_setRemaining,
    data_setRemaining]; omega⟩

/-- A step stays inside the data exactly if its last byte does. -/
lemma inBounds_advance (d : Deserializer) (n : ℕ) :
    (d.advance n).InBounds ↔ d.InBounds ∧ (n = 0 ∨ d.position + n ≤ d.data.length) := by
  constructor
  · intro h
    refine ⟨fun p hp => h p (by simp [hp]), ?_⟩
    rcases Nat.eq_zero_or_pos n with h0 | h0
    · exact Or.inl h0
    · have := h (d.position + n - 1) (by
        simp only [reads_advance, List.mem_append, List.mem_range'_1]; right; omega)
      simp only [data_advance] at this
      omega
  · rintro ⟨hd, hn⟩ p hp
    simp only [reads_advance, List.mem_append, List.mem_range'_1] at hp
    rcases hp with hp | hp
    · exact hd p hp
    · simp only [data_advance]; omega

/-- Safe cursors stay safe: a read needs at most `remaining_` bytes. -/
lemma advanceStable_safe : AdvanceStable Safe := by
  refine ⟨fun d n hn h => ?_, fun d h => h.setRemaining (Nat.zero_le _)⟩
  have hroom := h.room
  refine ⟨(inBounds_advance d n).mpr ⟨h.inBounds, Or.inr (by omega)⟩, ?_⟩
  simp only [position_advance, remaining_advance, data_advance]
  omega

/-- Looking ahead stays inside the data exactly if the byte looked at does. -/
lemma inBounds_peek (d : Deserializer) (i : ℕ) :
    (d.peek i).InBounds ↔ d.InBounds ∧ d.position + i < d.data.length := by
  simp only [InBounds, reads_peek, data_peek, List.mem_append, List.mem_singleton]
  constructor
  · exact fun h => ⟨fun p hp => h p (Or.inl hp), h _ (Or.inr rfl)⟩
  · rintro ⟨h, hi⟩ p (hp | rfl)
    · exact h p hp
    · exact hi

/-- Looking ahead at a byte of the data keeps a cursor safe. -/
lemma Safe.peek {d : Deserializer} (h : d.Safe) {i : ℕ} (hi : d.position + i < d.data.length) :
    (d.peek i).Safe :=
  ⟨(inBounds_peek d i).mpr ⟨h.inBounds, hi⟩, h.room⟩

/-- A read outside the data stays on record. -/
lemma advanceStable_not_inBounds : AdvanceStable (fun d => ¬ d.InBounds) :=
  ⟨fun d n _ h h' => h ((inBounds_advance d n).mp h').1, fun _ h => h⟩

/-- The number of remaining bytes does not grow. -/
lemma advanceStable_remaining_le (r : ℕ) : AdvanceStable (fun d => d.remaining ≤ r) :=
  ⟨fun d n _ h => by simp only [remaining_advance]; omega, fun _ _ => Nat.zero_le _⟩

/-! ## Fields read one after the other -/

/-- The number of bytes read of fields of widths `ws` when `r` bytes may be read: fields are read
in order as long as they fit. -/
def consumed : List ℕ → ℕ → ℕ
  | [], _ => 0
  | w :: ws, r => if w ≤ r then w + consumed ws (r - w) else 0

/-- Never more is read than may be read. -/
lemma consumed_le : ∀ (ws : List ℕ) (r : ℕ), consumed ws r ≤ r
  | [], _ => Nat.zero_le _
  | w :: ws, r => by
    simp only [consumed]
    split_ifs with h
    · have := consumed_le ws (r - w)
      omega
    · omega

/-- When all fields fit, all are read. -/
lemma consumed_of_sum_le : ∀ {ws : List ℕ} {r : ℕ}, ws.sum ≤ r → consumed ws r = ws.sum
  | [], _, _ => rfl
  | w :: ws, r, h => by
    simp only [List.sum_cons] at h
    simp only [consumed, List.sum_cons, if_pos (show w ≤ r by omega)]
    rw [consumed_of_sum_le (by omega)]

/-- The bytes read of two groups of fields: the second group is reached if the first one fits. -/
lemma consumed_append (ws ws' : List ℕ) (r : ℕ) : consumed (ws ++ ws') r =
    if ws.sum ≤ r then ws.sum + consumed ws' (r - ws.sum) else consumed ws r := by
  induction ws generalizing r with
  | nil => simp
  | cons w ws ih =>
    simp only [List.cons_append, consumed, List.sum_cons, ih]
    split_ifs <;> grind

/-- The parser `m` reads fields of widths `ws` in order, stops at the first one that does not fit,
and succeeds exactly if all of them fit. -/
def Sequential {α : Type} (ws : List ℕ) (m : Parse Deserializer α) : Prop :=
  ∀ d, (m d).2 = d.advance (consumed ws d.remaining) ∧ ((m d).1.isSome ↔ ws.sum ≤ d.remaining)

namespace Sequential

variable {α β : Type}

/-- Returning a value reads no field. -/
lemma pure (a : α) : Sequential [] (Pure.pure a : Parse Deserializer α) := by
  intro d
  simp [consumed]

/-- Fields followed by fields are read one after the other. -/
lemma bind {ws ws' : List ℕ} {m : Parse Deserializer α} {f : α → Parse Deserializer β}
    (hm : Sequential ws m) (hf : ∀ a, Sequential ws' (f a)) :
    Sequential (ws ++ ws') (m >>= f) := by
  intro d
  obtain ⟨h2, h1⟩ := hm d
  rw [consumed_append, List.sum_append]
  rcases hr : m d with ⟨_ | a, d'⟩
  · rw [Parse.bind_of_none hr]
    simp only [hr, Option.isSome_none, Bool.false_eq_true, false_iff] at h1 h2
    rw [if_neg h1]
    exact ⟨h2, by simp only [Option.isSome_none, Bool.false_eq_true, false_iff]; omega⟩
  · rw [Parse.bind_of_some hr]
    simp only [hr, Option.isSome_some, true_iff] at h1 h2
    rw [consumed_of_sum_le h1] at h2
    obtain ⟨g2, g1⟩ := hf a d'
    rw [h2] at g1 g2 ⊢
    simp only [advance_advance, remaining_advance] at g2 g1
    refine ⟨by rw [if_pos h1, g2], ?_⟩
    rw [g1]
    omega

/-- Fields that fit are read, and the cursor moves behind them. -/
lemma eq_some {ws : List ℕ} {m : Parse Deserializer α} (hm : Sequential ws m) {d : Deserializer}
    (h : ws.sum ≤ d.remaining) : ∃ a, m d = (some a, d.advance ws.sum) := by
  obtain ⟨h2, h1⟩ := hm d
  obtain ⟨a, ha⟩ := Option.isSome_iff_exists.mp (h1.mpr h)
  rw [consumed_of_sum_le h] at h2
  exact ⟨a, Prod.ext ha h2⟩

/-- Fields that do not fit make the parser fail. -/
lemma eq_none {ws : List ℕ} {m : Parse Deserializer α} (hm : Sequential ws m) {d : Deserializer}
    (h : ¬ ws.sum ≤ d.remaining) : m d = (none, d.advance (consumed ws d.remaining)) := by
  obtain ⟨h2, h1⟩ := hm d
  refine Prod.ext ?_ h2
  rw [← h1] at h
  simpa using h

end Sequential

/-- One field of one byte. -/
lemma sequential_deserialize8 : Sequential [1] deserialize8 := by
  intro d
  unfold deserialize8
  split_ifs with h
  · simp [consumed, ← h]
  · simp [consumed, show 1 ≤ d.remaining by omega]

/-- One field of two bytes. -/
lemma sequential_deserialize16 : Sequential [2] deserialize16 := by
  intro d
  unfold deserialize16
  split_ifs with h
  · simp [consumed, show ¬ 2 ≤ d.remaining by omega]
  · simp [consumed, show 2 ≤ d.remaining by omega]

/-- One field of the length of the array. -/
lemma sequential_deserializeBytes (n : ℕ) : Sequential [n] (deserializeBytes n) := by
  intro d
  unfold deserializeBytes
  split_ifs with h
  · simp [consumed, show ¬ n ≤ d.remaining by omega]
  · have hn : n ≤ d.remaining := by omega
    exact ⟨by simp [consumed, hn], iff_of_true rfl (by simpa using hn)⟩

/-- One field of four bytes. -/
lemma sequential_deserialize32 : Sequential [4] (deserialize32 false) := by
  intro d
  by_cases h : 4 ≤ d.remaining
  · rw [deserialize32, if_neg (by simp; omega), if_neg (by simp)]
    simp [consumed, h]
  · rw [deserialize32, if_pos (by simp; omega)]
    simp [consumed, h]

/-- With `_omit_last_byte`, one field of three bytes. -/
lemma sequential_deserialize24 : Sequential [3] (deserialize32 true) := by
  intro d
  by_cases h : 3 ≤ d.remaining
  · rw [deserialize32, if_neg (by simp; omega), if_pos rfl]
    simp [consumed, h]
  · rw [deserialize32, if_pos (by omega)]
    simp [consumed, h]

/-! ## Fields that are only tried -/

/-- The number of bytes read of fields of widths `ws` when `r` bytes may be read and every field is
tried, whether or not the ones before it could be read. -/
def attempted : List ℕ → ℕ → ℕ
  | [], _ => 0
  | w :: ws, r => if w ≤ r then w + attempted ws (r - w) else attempted ws r

/-- The parser `m` tries fields of widths `ws` in order and succeeds in any case. -/
def Tries {α : Type} (ws : List ℕ) (m : Parse Deserializer α) : Prop :=
  ∀ d, ∃ a, m d = (some a, d.advance (attempted ws d.remaining))

namespace Tries

variable {α β : Type}

/-- Returning a value tries no field. -/
lemma pure (a : α) : Tries [] (Pure.pure a : Parse Deserializer α) :=
  fun d => ⟨a, by simp [attempted]⟩

/-- A field read through `attempt` is only tried. -/
lemma attempt {w : ℕ} {m : Parse Deserializer α} (hm : Sequential [w] m) :
    Tries [w] (Parse.attempt m) := by
  intro d
  refine ⟨(m d).1, ?_⟩
  rw [Parse.attempt_apply, (hm d).1]
  rfl

/-- Fields that are tried one after the other. -/
lemma bind {w : ℕ} {ws : List ℕ} {m : Parse Deserializer α} {f : α → Parse Deserializer β}
    (hm : Tries [w] m) (hf : ∀ a, Tries ws (f a)) : Tries (w :: ws) (m >>= f) := by
  intro d
  obtain ⟨a, ha⟩ := hm d
  obtain ⟨b, hb⟩ := hf a (d.advance (attempted [w] d.remaining))
  refine ⟨b, ?_⟩
  rw [Parse.bind_of_some ha, hb, advance_advance, remaining_advance]
  by_cases h : w ≤ d.remaining <;> simp [attempted, h]

end Tries

/-! ## Fields behind the position -/

/-- Bytes inside the data are those of the data. -/
lemma byteAt_of_lt {d : Deserializer} {p : ℕ} (hp : p < d.data.length) :
    d.byteAt p = d.data.getD p 0 := by
  simp [byteAt, hp]

section Fields

variable {d : Deserializer} {n : ℕ}

/-- The byte `n` places behind the position, read after `n` others. -/
lemma deserialize8_advance (hr : n < d.remaining) : deserialize8 (d.advance n) =
    (some (d.byteAt (d.position + n)), d.advance (n + 1)) := by
  rw [deserialize8, if_neg (by simp only [remaining_advance]; omega), byteAt_advance,
    advance_advance, position_advance]

/-- The two bytes at the position, if they may be read. -/
lemma deserialize16_of_le (hr : 2 ≤ d.remaining) : deserialize16 d =
    (some (bytesToWord (d.byteAt d.position) (d.byteAt (d.position + 1))), d.advance 2) := by
  rw [deserialize16, if_neg (by omega)]

/-- The two bytes `n` places behind the position, read after `n` others. -/
lemma deserialize16_advance (hr : n + 2 ≤ d.remaining) : deserialize16 (d.advance n) =
    (some (bytesToWord (d.byteAt (d.position + n)) (d.byteAt (d.position + n + 1))),
      d.advance (n + 2)) := by
  rw [deserialize16_of_le (by simp only [remaining_advance]; omega), advance_advance]
  rfl

/-- The four bytes `n` places behind the position, read after `n` others. -/
lemma deserialize32_advance (hr : n + 4 ≤ d.remaining) :
    deserialize32 false (d.advance n) =
      (some (bytesToLong (d.byteAt (d.position + n)) (d.byteAt (d.position + n + 1))
        (d.byteAt (d.position + n + 2)) (d.byteAt (d.position + n + 3))), d.advance (n + 4)) := by
  rw [deserialize32, if_neg (by simp; omega), if_neg (by simp), advance_advance]
  rfl

end Fields

/-! ## Values recovered from their encoding -/

/-- The parser `m` recovers the value `a` from the bytes `bs`, wherever they stand in the data and
whatever follows them, and moves behind them. -/
def Decodes {α : Type} (m : Parse Deserializer α) (bs : List UInt8) (a : α) : Prop :=
  ∀ (d : Deserializer) (rest : List UInt8), d.data.drop d.position = bs ++ rest →
    bs.length ≤ d.remaining →
    ∃ d', m d = (some a, d') ∧ d'.data = d.data ∧ d'.position = d.position + bs.length ∧
      d'.remaining = d.remaining - bs.length

namespace Decodes

variable {α β : Type}

/-- A value that is returned needs no bytes. -/
lemma pure (a : α) : Decodes (Pure.pure a) [] a :=
  fun d _ _ _ => ⟨d, rfl, rfl, rfl, rfl⟩

/-- Encodings one after the other are recovered one after the other. -/
lemma bind {m : Parse Deserializer α} {f : α → Parse Deserializer β} {bs bs' : List UInt8} {a : α}
    {b : β} (hm : Decodes m bs a) (hf : Decodes (f a) bs' b) : Decodes (m >>= f) (bs ++ bs') b := by
  intro d rest hd hlen
  rw [List.length_append] at hlen
  obtain ⟨d₁, e₁, hd₁, hp₁, hr₁⟩ := hm d (bs' ++ rest) (by rw [hd, List.append_assoc]) (by omega)
  have hdrop : d₁.data.drop d₁.position = bs' ++ rest := by
    rw [hd₁, hp₁, ← List.drop_drop, hd, List.append_assoc, List.drop_left]
  obtain ⟨d₂, e₂, hd₂, hp₂, hr₂⟩ := hf d₁ rest hdrop (by omega)
  refine ⟨d₂, by rw [Parse.bind_of_some e₁, e₂], by rw [hd₂, hd₁], ?_, ?_⟩
  · rw [hp₂, hp₁, List.length_append, Nat.add_assoc]
  · rw [hr₂, hr₁, List.length_append, Nat.sub_sub]

/-- Wrapping the value that is recovered. -/
lemma wrap {m : Parse Deserializer α} {bs : List UInt8} {a : α} (hm : Decodes m bs a) (g : α → β) :
    Decodes (m >>= fun x => Pure.pure (g x)) bs (g a) := by
  have h := hm.bind (f := fun x => Pure.pure (g x)) (Decodes.pure (g a))
  rwa [List.append_nil] at h

/-- A value that is recovered is recovered through `attempt`. -/
lemma attempt {m : Parse Deserializer α} {bs : List UInt8} {a : α} (hm : Decodes m bs a) :
    Decodes (Parse.attempt m) bs (some a) := by
  intro d rest hd hlen
  obtain ⟨d', e, h⟩ := hm d rest hd hlen
  exact ⟨d', Parse.attempt_of_some e, h⟩

end Decodes

/-- The byte at an offset is the first of the data from there on. -/
lemma byteAt_of_drop {d : Deserializer} {p : ℕ} {b : UInt8} {l : List UInt8}
    (h : d.data.drop p = b :: l) : d.byteAt p = b := by
  have : d.data[p]? = some b := by
    rw [← Nat.add_zero p, ← List.getElem?_drop, h]
    rfl
  simp [byteAt, List.getD_eq_getElem?_getD, this]

/-- Dropping one byte more. -/
lemma drop_succ_of_drop {α : Type} {l l' : List α} {p : ℕ} {b : α} (h : l.drop p = b :: l') :
    l.drop (p + 1) = l' := by
  rw [← List.drop_drop, h, List.drop_one, List.tail_cons]

/-- The bytes from an offset on are those the data begin with there. -/
lemma bytesAt_of_drop {d : Deserializer} : ∀ {bs rest : List UInt8} {p : ℕ},
    d.data.drop p = bs ++ rest → d.bytesAt p bs.length = bs
  | [], _, _, _ => rfl
  | b :: bs, rest, p, h => by
    have ih := bytesAt_of_drop (drop_succ_of_drop h)
    simp only [bytesAt, List.length_cons, List.range'_succ, List.map_cons] at ih ⊢
    rw [byteAt_of_drop h, ih]

/-- Looking ahead into the encoding does not disturb what follows. -/
lemma Decodes.lookAhead {α : Type} {f : UInt8 → Parse Deserializer α} {bs : List UInt8} {a : α}
    {i : ℕ} {b : UInt8} (hb : bs[i]? = some b) (hf : Decodes (f b) bs a) :
    Decodes (Deserializer.lookAhead i >>= f) bs a := by
  intro d rest hd hlen
  have hdata : d.data[d.position + i]? = some b := by
    rw [← List.getElem?_drop, hd, List.getElem?_append_left (List.getElem?_eq_some_iff.mp hb).1, hb]
  have hlt := (List.getElem?_eq_some_iff.mp hdata).1
  have hbyte : d.byteAt (d.position + i) = b := by
    simp [byteAt, List.getD_eq_getElem?_getD, hdata]
  rw [Parse.bind_of_some (lookAhead_of_lt (show i < d.data.length by omega)), hbyte]
  exact hf (d.peek i) rest hd hlen

/-- A byte is recovered. -/
lemma decodes_deserialize8 (b : UInt8) : Decodes deserialize8 [b] b := by
  intro d rest hd hlen
  simp only [List.length_singleton] at hlen
  refine ⟨d.advance 1, ?_, rfl, rfl, rfl⟩
  rw [deserialize8, if_neg (by omega), byteAt_of_drop hd]

/-- A 16-bit number is recovered from its two bytes. -/
lemma decodes_deserialize16 (x : UInt16) :
    Decodes deserialize16 [wordByte1 x, wordByte0 x] x := by
  intro d rest hd hlen
  simp only [List.length_cons, List.length_nil] at hlen
  refine ⟨d.advance 2, ?_, rfl, rfl, rfl⟩
  rw [deserialize16, if_neg (by omega), byteAt_of_drop hd, byteAt_of_drop (drop_succ_of_drop hd),
    bytesToWord_wordByte]

/-- A 32-bit number is recovered from its four bytes. -/
lemma decodes_deserialize32 (x : UInt32) :
    Decodes (deserialize32 false) [longByte3 x, longByte2 x, longByte1 x, longByte0 x] x := by
  intro d rest hd hlen
  simp only [List.length_cons, List.length_nil] at hlen
  have h1 := drop_succ_of_drop hd
  have h2 := drop_succ_of_drop h1
  have h3 := drop_succ_of_drop h2
  refine ⟨d.advance 4, ?_, rfl, rfl, rfl⟩
  rw [deserialize32, if_neg (by simp; omega), if_neg (by simp), byteAt_of_drop hd, byteAt_of_drop h1,
    byteAt_of_drop h2, byteAt_of_drop h3, bytesToLong_longByte]

/-- A number below `2 ^ 24` is recovered from its three low bytes. -/
lemma decodes_deserialize24 {x : UInt32} (hx : x.toNat < 2 ^ 24) :
    Decodes (deserialize32 true) [longByte2 x, longByte1 x, longByte0 x] x := by
  intro d rest hd hlen
  simp only [List.length_cons, List.length_nil] at hlen
  have h1 := drop_succ_of_drop hd
  have h2 := drop_succ_of_drop h1
  refine ⟨d.advance 3, ?_, rfl, rfl, rfl⟩
  rw [deserialize32, if_neg (by simp; omega), if_pos rfl, byteAt_of_drop hd, byteAt_of_drop h1,
    byteAt_of_drop h2, bytesToLong_longByte_of_lt hx]

/-- An array is recovered from its bytes. -/
lemma decodes_deserializeBytes {n : ℕ} (v : List.Vector UInt8 n) :
    Decodes (deserializeBytes n) v.toList v := by
  intro d rest hd hlen
  obtain ⟨bs, rfl⟩ := v
  simp only [List.Vector.toList_mk] at hd hlen
  refine ⟨d.advance bs.length, ?_, rfl, rfl, rfl⟩
  rw [deserializeBytes, if_neg (by omega)]
  simp only [bytesAt_of_drop hd]

end Deserializer

end Vsomeip
