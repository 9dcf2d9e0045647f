import Vsomeip.Lib.Runs
import Vsomeip.Message.Deserializer

set_option relaxedAutoImplicit false
set_option autoImplicit false

/-!
# The cursor of a deserializer over its calls

All reads of a `deserializer` compare with `remaining_`, and rest on the position and the number of
remaining bytes adding up to the size of `data_`. Three of its functions break that. `drop_data` moves
the position and leaves `remaining_` as it is, and a length from `2 ^ 63` on moves it back. `look_ahead`
compares the index with the size of the whole buffer, also when the position has moved. `reset` takes
the position before it lets the vector give its storage back. As long as nothing is dropped from what
remains, `look_ahead` is asked for remaining bytes only and no `reset` shrinks the buffer, the cursor
stays consistent.

## Main definitions

* `Vsomeip.DeserializerObject` — a deserializer with what `reset` looks at.
* `Vsomeip.DeserializerObject.step` — one of its calls.
* `Vsomeip.DeserializerObject.Consistent` — position and remaining bytes add up to the size of the data.
* `Vsomeip.DeserializerObject.ReadsInside` — a look ahead reads inside the data.
* `Vsomeip.DeserializerObject.Sound` — a call keeps to both.
* `Vsomeip.DeserializerObject.Good` — the calls that keep to that.

## Main results

* `Vsomeip.DeserializerObject.cursor_consistent_along_iff` — a run keeps the cursor consistent and looks ahead
  inside the data only, exactly if all of its calls are good.
-/

namespace Vsomeip

open Deserializer

/-- `deserialize(std::vector<uint8_t>&)`: the vector is filled up to its capacity. -/
def Deserializer.deserializeVector (capacity : ℕ) : Parse Deserializer (List UInt8) := fun d =>
  if capacity > d.remaining then (none, d)
  else (some (d.bytesAt d.position capacity), d.advance capacity)

/-- One field of the length of the vector. -/
lemma Deserializer.sequential_deserializeVector (n : ℕ) : Sequential [n] (deserializeVector n) := by
  intro d
  unfold deserializeVector
  split_ifs with h
  · simp [consumed, show ¬ n ≤ d.remaining by omega]
  · have hn : n ≤ d.remaining := by omega
    exact ⟨by simp [consumed, hn], iff_of_true rfl (by simpa using hn)⟩

/-- An object of class `deserializer`: the cursor, the capacity of `data_` and `shrink_count_`. Two
members are not in the source: `attached` says whether `position_` points into the storage that `data_`
has now, or to its end, and `front n` is the byte found in memory `n + 1` bytes in front of `data_.begin()`. -/
structure DeserializerObject where
  cursor : Deserializer
  capacity : ℕ
  shrinkCount : UInt32
  attached : Bool
  front : ℕ → UInt8

/-- The calls of a deserializer. `set_data` gets a null pointer or the bytes, and `deserialize` of a
vector its capacity. -/
inductive DeserializerCall
  | deserialize8
  | deserialize16
  | deserialize32 (omitLastByte : Bool)
  | deserializeBytes (length : ℕ)
  | deserializeVector (capacity : ℕ)
  | lookAhead8 (index : UInt64)
  | lookAhead16 (index : UInt64)
  | lookAhead32 (index : UInt64)
  | setData (data : Option (List UInt8))
  | appendData (data : List UInt8)
  | dropData (length : UInt64)
  | reset
deriving DecidableEq, Repr

namespace DeserializerObject

/-! ## The functions -/

/-- Both constructors: the one without data starts with none. -/
def new (data : List UInt8) (stray front : ℕ → UInt8) : DeserializerObject :=
  { cursor := Deserializer.setData data stray
    capacity := data.length
    shrinkCount := 0
    attached := true
    front }

/-- The capacity of a vector of `size` bytes after `n` more are inserted. It stays if they fit; else the
vector chooses a new one, `grow size n`. -/
def reserve (grow : ℕ → ℕ → ℕ) (capacity size n : ℕ) : ℕ :=
  if size + n ≤ capacity then capacity else grow size n

/-- `set_data`. -/
def setData (grow : ℕ → ℕ → ℕ) (data : Option (List UInt8)) (o : DeserializerObject) :
    DeserializerObject :=
  match data with
  | some data =>
    { o with
      cursor := Deserializer.setData data o.cursor.stray
      capacity := reserve grow o.capacity 0 data.length
      attached := true }
  | none => { o with cursor := Deserializer.setData [] o.cursor.stray, attached := true }

/-- `append_data`: the position is kept as an offset. -/
def appendData (grow : ℕ → ℕ → ℕ) (data : List UInt8) (o : DeserializerObject) : DeserializerObject :=
  { o with
    cursor := { o.cursor with
      data := o.cursor.data ++ data
      remaining := o.cursor.remaining + data.length }
    capacity := reserve grow o.capacity o.cursor.data.length data.length }

/-- The offset of `position_ + _length`: the length is converted to the difference type of the iterator,
which is signed. -/
def dropped (o : DeserializerObject) (length : UInt64) : ℤ := o.cursor.position + length.toInt64.toInt

/-- `drop_data`: the position moves, at most to the end, and `remaining_` stays. A position in front of
`data_.begin()` does not point into the storage. -/
def dropData (length : UInt64) (o : DeserializerObject) : DeserializerObject :=
  if o.dropped length < o.cursor.data.length then
    { o with
      cursor := { o.cursor with position := (o.dropped length).toNat }
      attached := o.attached && decide (0 ≤ o.dropped length) }
  else
    { o with
      cursor := { o.cursor with position := o.cursor.data.length }
      attached := true }

/-- `reset`. When the data took up less than half of the capacity more than `threshold` times in a row,
then `shrink_to_fit` gives the storage of the empty vector back, into which `position_` still points. -/
def reset (threshold : UInt32) (o : DeserializerObject) : DeserializerObject :=
  let count :=
    if threshold ≠ 0 then
      if o.cursor.data.length < o.capacity >>> 1 then o.shrinkCount + 1 else 0
    else o.shrinkCount
  let cleared := { o with
    cursor := Deserializer.setData [] o.cursor.stray
    shrinkCount := count
    attached := true }
  if threshold ≠ 0 ∧ count > threshold then
    { cleared with capacity := 0, shrinkCount := 0, attached := decide (o.capacity = 0) }
  else cleared

/-- The offset of `*(position_ + _index + k)`: the index is converted to the difference type of the
iterator, which is signed. -/
def ahead (o : DeserializerObject) (index : UInt64) (k : ℕ) : ℤ :=
  o.cursor.position + index.toInt64.toInt + k

/-- The byte found at an offset from `data_.begin()`. -/
def byteAt (o : DeserializerObject) : ℤ → UInt8
  | .ofNat p => o.cursor.byteAt p
  | .negSucc n => o.front n

/-- `look_ahead(_index, uint8_t&)`. -/
def lookAhead8 (o : DeserializerObject) (index : UInt64) : Option UInt8 :=
  if index.toNat ≥ o.cursor.data.length then none
  else some (o.byteAt (o.ahead index 0))

/-- `look_ahead(_index, uint16_t&)`: the sum may wrap around. -/
def lookAhead16 (o : DeserializerObject) (index : UInt64) : Option UInt16 :=
  if (index + 1).toNat ≥ o.cursor.data.length then none
  else some (bytesToWord (o.byteAt (o.ahead index 0)) (o.byteAt (o.ahead index 1)))

/-- `look_ahead(_index, uint32_t&)`: the sum may wrap around. -/
def lookAhead32 (o : DeserializerObject) (index : UInt64) : Option UInt32 :=
  if (index + 3).toNat ≥ o.cursor.data.length then none
  else some (bytesToLong (o.byteAt (o.ahead index 0)) (o.byteAt (o.ahead index 1))
    (o.byteAt (o.ahead index 2)) (o.byteAt (o.ahead index 3)))

/-- The state after a read. -/
def read {α : Type} (m : Parse Deserializer α) (o : DeserializerObject) : DeserializerObject :=
  { o with cursor := (m o.cursor).2 }

/-- One call. -/
def step (grow : ℕ → ℕ → ℕ) (threshold : UInt32) (o : DeserializerObject) :
    DeserializerCall → DeserializerObject
  | .deserialize8 => o.read Deserializer.deserialize8
  | .deserialize16 => o.read Deserializer.deserialize16
  | .deserialize32 omitLastByte => o.read (Deserializer.deserialize32 omitLastByte)
  | .deserializeBytes length => o.read (Deserializer.deserializeBytes length)
  | .deserializeVector capacity => o.read (Deserializer.deserializeVector capacity)
  | .lookAhead8 _ | .lookAhead16 _ | .lookAhead32 _ => o
  | .setData data => o.setData grow data
  | .appendData data => o.appendData grow data
  | .dropData length => o.dropData length
  | .reset => o.reset threshold

/-! ## What is promised -/

/-- The position points into the data, and what remains are the bytes from there to the end. -/
structure Consistent (o : DeserializerObject) : Prop where
  attached : o.attached = true
  sum_eq : o.cursor.position + o.cursor.remaining = o.cursor.data.length

/-- The `n` bytes from `position_ + _index` on are bytes of the data. -/
def Inside (o : DeserializerObject) (index : UInt64) (n : ℕ) : Prop :=
  ∀ k < n, 0 ≤ o.ahead index k ∧ o.ahead index k < o.cursor.data.length

/-- A look ahead that returns true read bytes of the data only. -/
def ReadsInside (o : DeserializerObject) : DeserializerCall → Prop
  | .lookAhead8 index => (o.lookAhead8 index).isSome → o.Inside index 1
  | .lookAhead16 index => (o.lookAhead16 index).isSome → o.Inside index 2
  | .lookAhead32 index => (o.lookAhead32 index).isSome → o.Inside index 4
  | _ => True

/-- A call leads to a consistent cursor, and looks ahead inside the data. -/
def Sound (grow : ℕ → ℕ → ℕ) (threshold : UInt32) (o : DeserializerObject) (c : DeserializerCall) :
    Prop :=
  (o.step grow threshold c).Consistent ∧ o.ReadsInside c

/-! ## The calls that keep to it -/

/-- The bytes from `index` to `index + n` are among the remaining ones; a negative index does not go
back behind the begin. -/
def Remain (o : DeserializerObject) (index : UInt64) (n : ℕ) : Prop :=
  -(o.cursor.position : ℤ) ≤ index.toInt64.toInt ∧ index.toInt64.toInt + n ≤ o.cursor.remaining

/-- The next `reset` gives the storage back. -/
def Shrinks (threshold : UInt32) (o : DeserializerObject) : Prop :=
  threshold ≠ 0 ∧ o.cursor.data.length < o.capacity >>> 1 ∧ threshold < o.shrinkCount + 1

/-- Nothing that remains is dropped, the storage is not given back, and an index that the comparison of
`look_ahead` accepts is one of remaining bytes. -/
def Good (threshold : UInt32) (o : DeserializerObject) : DeserializerCall → Prop
  | .lookAhead8 index => index.toNat < o.cursor.data.length → o.Remain index 1
  | .lookAhead16 index => (index + 1).toNat < o.cursor.data.length → o.Remain index 2
  | .lookAhead32 index => (index + 3).toNat < o.cursor.data.length → o.Remain index 4
  | .dropData length => length = 0 ∨ (o.cursor.remaining = 0 ∧ length.toNat < 2 ^ 63)
  | .reset => ¬ o.Shrinks threshold
  | _ => True

/-! ## One call -/

variable {o : DeserializerObject}

/-- A new deserializer is consistent. -/
lemma consistent_new (data : List UInt8) (stray front : ℕ → UInt8) :
    (new data stray front).Consistent :=
  ⟨rfl, Nat.zero_add _⟩

/-- A read takes at most what remains, and moves the position by as much. -/
lemma Consistent.read {α : Type} {ws : List ℕ} {m : Parse Deserializer α} (hm : Sequential ws m)
    (h : o.Consistent) : (o.read m).Consistent := by
  obtain ⟨hmove, -⟩ := hm o.cursor
  have hle := consumed_le ws o.cursor.remaining
  have hsum := h.sum_eq
  refine ⟨h.attached, ?_⟩
  simp only [DeserializerObject.read, hmove, position_advance, remaining_advance, data_advance]
  omega

/-- `set_data` makes a deserializer consistent. -/
lemma consistent_setData (grow : ℕ → ℕ → ℕ) (data : Option (List UInt8)) (o : DeserializerObject) :
    (o.setData grow data).Consistent := by
  cases data with
  | some data => exact ⟨rfl, Nat.zero_add _⟩
  | none => exact ⟨rfl, rfl⟩

/-- `append_data` keeps a deserializer consistent. -/
lemma Consistent.appendData (h : o.Consistent) (grow : ℕ → ℕ → ℕ) (data : List UInt8) :
    (o.appendData grow data).Consistent := by
  refine ⟨h.attached, ?_⟩
  simp only [DeserializerObject.appendData, List.length_append, ← h.sum_eq, Nat.add_assoc]

/-- A length below `2 ^ 63` is what it is as a signed number. The others are negative. -/
lemma toInt_toInt64 (length : UInt64) :
    length.toInt64.toInt =
      if length.toNat < 2 ^ 63 then (length.toNat : ℤ) else (length.toNat : ℤ) - 2 ^ 64 := by
  change length.toBitVec.toInt = _
  rw [BitVec.toInt_eq_toNat_cond]
  change (if 2 * length.toNat < 2 ^ 64 then (length.toNat : ℤ) else length.toNat - (2 ^ 64 : ℕ)) = _
  split_ifs <;> omega

/-- `drop_data` moves the position alone, unless it does not move it at all. -/
lemma consistent_dropData_iff (h : o.Consistent) (length : UInt64) :
    (o.dropData length).Consistent ↔
      length = 0 ∨ (o.cursor.remaining = 0 ∧ length.toNat < 2 ^ 63) := by
  have hsum := h.sum_eq
  have hzero : length = 0 ↔ length.toNat = 0 := by
    rw [← UInt64.toNat_inj]
    rfl
  have hlt : length.toNat < 2 ^ 64 := length.toNat_lt
  have hdropped : o.dropped length =
      if length.toNat < 2 ^ 63 then (o.cursor.position + length.toNat : ℤ)
      else (o.cursor.position + length.toNat : ℤ) - 2 ^ 64 := by
    rw [dropped, toInt_toInt64]
    split_ifs
    · rfl
    · omega
  rw [hzero, dropData]
  by_cases hend : o.dropped length < o.cursor.data.length
  · -- the position is moved, forward or back, and the bytes that remain are not counted again
    rw [if_pos hend]
    have hiff : Consistent { o with
        cursor := { o.cursor with position := (o.dropped length).toNat }
        attached := o.attached && decide (0 ≤ o.dropped length) } ↔
        0 ≤ o.dropped length ∧ (o.dropped length).toNat + o.cursor.remaining = o.cursor.data.length :=
      ⟨fun h' => ⟨by simpa [h.attached] using h'.attached, h'.sum_eq⟩,
        fun h' => ⟨by simp [h.attached, h'.1], h'.2⟩⟩
    rw [hiff]
    split_ifs at hdropped <;> omega
  · rw [if_neg hend]
    have hiff : Consistent { o with
        cursor := { o.cursor with position := o.cursor.data.length }
        attached := true } ↔ o.cursor.data.length + o.cursor.remaining = o.cursor.data.length :=
      ⟨fun h' => h'.sum_eq, fun h' => ⟨rfl, h'⟩⟩
    rw [hiff]
    split_ifs at hdropped <;> omega

/-- The count passes the threshold only when it was just increased, which needs a capacity. -/
lemma consistent_reset_iff (threshold : UInt32) :
    (o.reset threshold).Consistent ↔ ¬ o.Shrinks threshold := by
  unfold reset Shrinks
  by_cases hzero : threshold ≠ 0
  · by_cases hsize : o.cursor.data.length < o.capacity >>> 1
    · have hcap : o.capacity ≠ 0 := by rintro h; simp [h] at hsize
      by_cases hcount : threshold < o.shrinkCount + 1
      · refine iff_of_false (fun h => ?_) (not_not_intro ⟨hzero, hsize, hcount⟩)
        have := h.attached
        simp [hzero, hsize, hcount, hcap] at this
      · refine iff_of_true ?_ (fun h => hcount h.2.2)
        simp only [hzero, hsize, hcount, ne_eq, not_false_eq_true, if_true, and_false, if_false]
        exact ⟨rfl, rfl⟩
    · refine iff_of_true ?_ (fun h => hsize h.2.1)
      have hcount : ¬ threshold < 0 := by simp
      simp only [hzero, hsize, hcount, ne_eq, not_false_eq_true, if_true, and_false, if_false]
      exact ⟨rfl, rfl⟩
  · refine iff_of_true ?_ (fun h => hzero h.1)
    simp only [hzero, false_and, if_false]
    exact ⟨rfl, rfl⟩

/-- With a consistent cursor, the bytes of the data behind the position are the remaining ones. -/
lemma inside_iff_remain (h : o.Consistent) (index : UInt64) {n : ℕ} (hn : 0 < n) :
    o.Inside index n ↔ o.Remain index n := by
  have hsum := h.sum_eq
  unfold Inside Remain ahead
  constructor
  · intro hin
    have hfirst := (hin 0 hn).1
    have hlast := (hin (n - 1) (by omega)).2
    omega
  · intro hin k hk
    omega

/-! A look ahead succeeds exactly if its comparison accepts the index. -/

/-- When a byte ahead can be read. -/
lemma isSome_lookAhead8 (index : UInt64) :
    (o.lookAhead8 index).isSome ↔ index.toNat < o.cursor.data.length := by
  unfold lookAhead8
  split_ifs with h
  · exact iff_of_false (by simp) (by omega)
  · exact iff_of_true rfl (by omega)

/-- When two bytes ahead can be read; the sum of the index wraps. -/
lemma isSome_lookAhead16 (index : UInt64) :
    (o.lookAhead16 index).isSome ↔ (index + 1).toNat < o.cursor.data.length := by
  unfold lookAhead16
  split_ifs with h
  · exact iff_of_false (by simp) (by omega)
  · exact iff_of_true rfl (by omega)

/-- When four bytes ahead can be read; the sum of the index wraps. -/
lemma isSome_lookAhead32 (index : UInt64) :
    (o.lookAhead32 index).isSome ↔ (index + 3).toNat < o.cursor.data.length := by
  unfold lookAhead32
  split_ifs with h
  · exact iff_of_false (by simp) (by omega)
  · exact iff_of_true rfl (by omega)

/-- From a consistent cursor, a call leads to a consistent one and looks ahead inside the data,
exactly if it is good. -/
lemma sound_iff_good (h : o.Consistent) (grow : ℕ → ℕ → ℕ) (threshold : UInt32)
    (c : DeserializerCall) : o.Sound grow threshold c ↔ o.Good threshold c := by
  cases c with
  | deserialize8 => exact iff_of_true ⟨h.read sequential_deserialize8, trivial⟩ trivial
  | deserialize16 => exact iff_of_true ⟨h.read sequential_deserialize16, trivial⟩ trivial
  | deserialize32 omitLastByte =>
    cases omitLastByte with
    | false => exact iff_of_true ⟨h.read sequential_deserialize32, trivial⟩ trivial
    | true => exact iff_of_true ⟨h.read sequential_deserialize24, trivial⟩ trivial
  | deserializeBytes length =>
    exact iff_of_true ⟨h.read (sequential_deserializeBytes length), trivial⟩ trivial
  | deserializeVector capacity =>
    exact iff_of_true ⟨h.read (sequential_deserializeVector capacity), trivial⟩ trivial
  | lookAhead8 index =>
    have hstep : (o.step grow threshold (.lookAhead8 index)).Consistent := h
    rw [Sound, and_iff_right hstep, ReadsInside, isSome_lookAhead8]
    exact imp_congr_right fun _ => inside_iff_remain h index (by decide)
  | lookAhead16 index =>
    have hstep : (o.step grow threshold (.lookAhead16 index)).Consistent := h
    rw [Sound, and_iff_right hstep, ReadsInside, isSome_lookAhead16]
    exact imp_congr_right fun _ => inside_iff_remain h index (by decide)
  | lookAhead32 index =>
    have hstep : (o.step grow threshold (.lookAhead32 index)).Consistent := h
    rw [Sound, and_iff_right hstep, ReadsInside, isSome_lookAhead32]
    exact imp_congr_right fun _ => inside_iff_remain h index (by decide)
  | setData data => exact iff_of_true ⟨consistent_setData grow data o, trivial⟩ trivial
  | appendData data => exact iff_of_true ⟨h.appendData grow data, trivial⟩ trivial
  | dropData length => exact (and_iff_left trivial).trans (consistent_dropData_iff h length)
  | reset => exact (and_iff_left trivial).trans (consistent_reset_iff threshold)

/-! ## Runs -/

/-- **The cursor over a run.** From a new deserializer on, after every call the position and the
remaining bytes add up to the size of the data, and every look ahead that returns true read bytes of the
data only, exactly if no call drops remaining bytes, no `reset` gives the storage back, and `look_ahead`
accepts only indices of remaining bytes.

**Proof sketch.** A new cursor is consistent. From a consistent one, a call is sound exactly if it is
good, and then leads to a consistent one; the rule for machines with bad steps gives the run. -/
theorem cursor_consistent_along_iff (grow : ℕ → ℕ → ℕ) (threshold : UInt32) (data : List UInt8)
    (stray front : ℕ → UInt8) (calls : List DeserializerCall) :
    Runs.Along (step grow threshold) (Sound grow threshold) (new data stray front) calls ↔
      Runs.Along (step grow threshold) (Good threshold) (new data stray front) calls := by
  refine Runs.along_iff (I := Consistent) (E := fun _ _ => True) ?_ ?_
    (consistent_new data stray front) ?_
  · intro o c h _ hgood
    have hstep := (sound_iff_good h grow threshold c).mpr hgood
    exact ⟨hstep.1, hstep⟩
  · intro o c h _ hbad hstep
    exact hbad ((sound_iff_good h grow threshold c).mp hstep)
  · exact Runs.along_of_forall (P := fun _ => True) fun _ _ => trivial

/-- Four runs that break the promise. Dropping two of four bytes leaves all four as remaining. Dropping
`2 ^ 64 - 1` bytes where nothing remains moves the position back by one. With two
bytes behind the position, looking ahead at the second and the one behind it reads behind the end. The
second `reset` of an empty buffer gives the storage back that `position_` points into, with a threshold
of one. -/
theorem not_consistent_along :
    ¬ Runs.Along (step (· + ·) 0) (Sound (· + ·) 0)
        (new [1, 2, 3, 4] (fun _ => 0) fun _ => 0) [.dropData 2] ∧
      ¬ Runs.Along (step (· + ·) 0) (Sound (· + ·) 0)
        (new [1] (fun _ => 0) fun _ => 0) [.deserialize8, .dropData 0xFFFFFFFFFFFFFFFF] ∧
      ¬ Runs.Along (step (· + ·) 0) (Sound (· + ·) 0)
        (new [1, 2, 3] (fun _ => 0) fun _ => 0) [.deserialize8, .lookAhead16 1] ∧
      ¬ Runs.Along (step (· + ·) 1) (Sound (· + ·) 1)
        (new [1, 2, 3, 4] (fun _ => 0) fun _ => 0) [.setData none, .reset, .reset] := by
  refine ⟨?_, ?_, ?_, ?_⟩
  · rintro ⟨⟨hcons, -⟩, -⟩
    exact absurd hcons.sum_eq (by decide)
  · rintro ⟨-, ⟨hcons, -⟩, -⟩
    exact absurd hcons.sum_eq (by decide)
  · rintro ⟨-, ⟨-, hinside⟩, -⟩
    exact absurd (hinside (by decide) 1 (by decide)).2 (by decide)
  · rintro ⟨-, -, ⟨hcons, -⟩, -⟩
    exact absurd hcons.attached (by decide)

end DeserializerObject

end Vsomeip
