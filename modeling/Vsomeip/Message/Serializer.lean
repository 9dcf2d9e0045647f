import Vsomeip.Lib.Parse
import Vsomeip.Message.Byteorder

set_option relaxedAutoImplicit false
set_option autoImplicit false

/-!
# The serializer

The serializer of `message/src/serializer.cpp` appends to a byte vector `data_`. A chain
`ok = ok && _to->serialize(x)` stops writing at its first failure and leaves in `data_` what was
written before, which is a `Parse` over the bytes written so far.

## Main definitions

* `Vsomeip.Serializer` — what a `serialize` function does to `data_`.
* `Vsomeip.Serializer.serialize8`, `serialize16`, `serialize32`, `serializeBytes` — the overloads of
  `serialize`.
* `Vsomeip.Serializer.Writes` — a serializer that succeeds and appends given bytes.
* `Vsomeip.Serializer.Appends` — a serializer that appends bytes, and may fail.

## Main results

* `Vsomeip.Serializer.Writes.bind` — bytes written one after the other are appended in order.
* `Vsomeip.Serializer.Appends.bind` — so are those of a sequence that fails on the way.
-/

namespace Vsomeip

/-- What a `serialize` function does to the bytes `data_` written so far. -/
abbrev Serializer : Type := Parse (List UInt8) Unit

namespace Serializer

/-- `serialize(const uint8_t)`. -/
def serialize8 (x : UInt8) : Serializer := fun out => (some (), out ++ [x])

/-- `serialize(const uint16_t)`. -/
def serialize16 (x : UInt16) : Serializer := fun out =>
  (some (), out ++ [wordByte1 x, wordByte0 x])

/-- `serialize(const uint32_t, bool _omit_last_byte)`. -/
def serialize32 (x : UInt32) (omitLastByte : Bool) : Serializer := fun out =>
  if omitLastByte then (some (), out ++ [longByte2 x, longByte1 x, longByte0 x])
  else (some (), out ++ [longByte3 x, longByte2 x, longByte1 x, longByte0 x])

/-- `serialize(const uint8_t *_data, uint32_t _length)`. -/
def serializeBytes (bs : List UInt8) : Serializer := fun out => (some (), out ++ bs)

/-- The serializer `m` succeeds and appends `bs`. -/
def Writes (m : Serializer) (bs : List UInt8) : Prop := ∀ out, m out = (some (), out ++ bs)

/-- Bytes written one after the other are appended in order. -/
lemma Writes.bind {m : Serializer} {f : Unit → Serializer} {bs bs' : List UInt8}
    (hm : Writes m bs) (hf : Writes (f ()) bs') : Writes (m >>= f) (bs ++ bs') := by
  intro out
  rw [Parse.bind_of_some (hm out), hf, List.append_assoc]

/-- Doing nothing writes no byte. -/
lemma Writes.pure : Writes (Pure.pure ()) [] := fun out => by simp

/-- A byte is written as it is. -/
lemma writes_serialize8 (x : UInt8) : Writes (serialize8 x) [x] := fun _ => rfl

/-- A 16-bit number is written as its two bytes, the high one first. -/
lemma writes_serialize16 (x : UInt16) : Writes (serialize16 x) [wordByte1 x, wordByte0 x] :=
  fun _ => rfl

/-- A 32-bit number is written as its four bytes, the highest one first. -/
lemma writes_serialize32 (x : UInt32) :
    Writes (serialize32 x false) [longByte3 x, longByte2 x, longByte1 x, longByte0 x] :=
  fun _ => rfl

/-- With `_omit_last_byte` the three low bytes are written. -/
lemma writes_serialize24 (x : UInt32) :
    Writes (serialize32 x true) [longByte2 x, longByte1 x, longByte0 x] :=
  fun _ => rfl

/-- A list written element by element. -/
lemma writes_forM {α : Type} {f : α → Serializer} {bytes : α → List UInt8} :
    ∀ {l : List α}, (∀ a ∈ l, Writes (f a) (bytes a)) → Writes (l.forM f) (l.flatMap bytes)
  | [], _ => Writes.pure
  | a :: _, h => (h a List.mem_cons_self).bind
      (writes_forM fun b hb => h b (List.mem_cons_of_mem a hb))

/-- A list with an element that cannot be written cannot be written. -/
lemma forM_fst_eq_none {α : Type} {f : α → Serializer} {a : α} (h : ∀ out, (f a out).1 = none) :
    ∀ {l : List α}, a ∈ l → ∀ out, (l.forM f out).1 = none
  | b :: l, ha => by
    obtain rfl | ha := List.mem_cons.mp ha
    · exact fun out => Parse.bind_fst_eq_none (h out)
    · exact Parse.bind_fst_eq_none_right fun _ => forM_fst_eq_none h ha

/-- An array of bytes is written as it is. -/
lemma writes_serializeBytes (bs : List UInt8) : Writes (serializeBytes bs) bs := fun _ => rfl

/-- The serializer `m` appends at least `n` bytes, which do not depend on those written so far, and
succeeds if `ok` is set. -/
def Appends (m : Serializer) (ok : Bool) (n : ℕ) : Prop :=
  ∃ bs : List UInt8, n ≤ bs.length ∧ ∀ out, m out = (if ok then some () else none, out ++ bs)

/-- A serializer that writes bytes appends them and succeeds. -/
lemma Writes.appends {m : Serializer} {bs : List UInt8} (h : Writes m bs) :
    Appends m true bs.length := ⟨bs, Nat.le_refl _, h⟩

/-- A smaller number of bytes may be asked for. -/
lemma Appends.mono {m : Serializer} {ok : Bool} {n n' : ℕ} (h : Appends m ok n) (hn : n' ≤ n) :
    Appends m ok n' := by
  obtain ⟨bs, hlength, hbs⟩ := h
  exact ⟨bs, Nat.le_trans hn hlength, hbs⟩

/-- Doing nothing succeeds. -/
lemma appends_pure : Appends (Pure.pure ()) true 0 := Writes.pure.appends

/-- Failing appends nothing. -/
lemma appends_fail : Appends Parse.fail false 0 := ⟨[], Nat.le_refl _, fun out => by simp [Parse.fail]⟩

/-- A sequence appends what its parts append, up to the one that fails. -/
lemma Appends.bind {m : Serializer} {f : Unit → Serializer} {ok ok' : Bool} {n n' : ℕ}
    (hm : Appends m ok n) (hf : Appends (f ()) ok' n') : Appends (m >>= f) (ok && ok') n := by
  obtain ⟨bs, hlength, hm⟩ := hm
  obtain ⟨bs', -, hf⟩ := hf
  cases ok with
  | false => exact ⟨bs, hlength, fun out => Parse.bind_of_none (hm out)⟩
  | true =>
    refine ⟨bs ++ bs', ?_, fun out => ?_⟩
    · rw [List.length_append]
      exact Nat.le_add_right_of_le hlength
    · rw [Parse.bind_of_some (hm out), hf, List.append_assoc, Bool.true_and]

/-- A list written element by element. -/
lemma appends_forM {α : Type} {f : α → Serializer} {ok : α → Bool} (h : ∀ a, Appends (f a) (ok a) 0) :
    ∀ l : List α, Appends (l.forM f) (l.all ok) 0
  | [] => appends_pure
  | a :: l => (h a).bind (appends_forM h l)

end Serializer

end Vsomeip
