import Mathlib.Data.UInt
import Std.Data.TreeMap.Lemmas
import Vsomeip.Lib.Checked

set_option relaxedAutoImplicit false
set_option autoImplicit false

/-!
# The debounce filter

For an event with a debounce configuration, `routing_manager_base::register_event` makes a function that
tells whether a new payload is to be forwarded. With `on_change` it compares the payloads byte by byte
under the masks of the configuration. In the bytes that only one payload has, the test looks for a byte
whose index has no mask, and reads the mask through the iterator that is the end of the map.

Reading the end of the map has no defined result; it is an error here.

## Main definitions

* `Vsomeip.loadEventDebounceIgnore` — the masks of a configuration.
* `Vsomeip.Debounce.epsilonChange` — the function of `register_event`.
* `Vsomeip.Debounce.Changed` — a bit that is not ignored has changed.

## Main results

* `Vsomeip.Debounce.reports_iff` — when the function reports exactly these changes.
-/

namespace Vsomeip

open Checked
open Std (TreeMap)

/-- A payload is shorter than 2 ^ 32 bytes. -/
structure Payload where
  data : List UInt8
  length_lt : data.length < 2 ^ 32

/-- `get_length`. -/
def Payload.getLength (p : Payload) : UInt32 := UInt32.ofNat p.data.length

/-- The length of a payload. -/
lemma Payload.toNat_getLength (p : Payload) : p.getLength.toNat = p.data.length := by
  rw [getLength, UInt32.toNat_ofNat', Nat.mod_eq_of_lt p.length_lt]

/-! ## The configuration -/

/-- An element of the array `ignore`: an index, or an object with an index and a mask, as far as they are
there. A number is the one that the stream makes of the text. -/
inductive IgnoreElement
  | index (i : ℕ)
  | object (index : Option ℕ) (mask : Option ℤ)

/-- A round of the loop of `load_event_debounce_ignore`. -/
def loadIgnoreElement : ℕ × TreeMap ℕ UInt8 → IgnoreElement → ℕ × TreeMap ℕ UInt8
  | (_, ignore), .index i => (i, ignore.insert i 0xFF)
  | (ignored, ignore), .object index mask =>
    let ignored := index.getD ignored
    (ignored, ignore.insert ignored (mask.elim 0xFF UInt8.ofInt))

/-- `load_event_debounce_ignore`. The variable of the index is not initialized, and it keeps its value
from one element to the next. -/
def loadEventDebounceIgnore (uninitialized : ℕ) (elements : List IgnoreElement) : TreeMap ℕ UInt8 :=
  (elements.foldl loadIgnoreElement (uninitialized, ∅)).2

/-- Loading the elements of the list enters each of them. -/
lemma foldl_loadIgnoreElement (l : List (ℕ × UInt8)) (loaded : ℕ × TreeMap ℕ UInt8) :
    ((l.map fun e => .object (some e.1) (some e.2.toNat)).foldl loadIgnoreElement loaded).2 =
      l.foldl (fun ignore e => ignore.insert e.1 e.2) loaded.2 := by
  induction l generalizing loaded with
  | nil => rfl
  | cons e l ih =>
    have hmask : UInt8.ofInt e.2.toNat = e.2 := by
      rw [UInt8.ofInt, ← UInt8.toNat_inj]
      have := e.2.toNat_lt
      simp
      omega
    simp only [List.map_cons, List.foldl_cons, ih, loadIgnoreElement, Option.elim_some,
      Option.getD_some, hmask]

/-- Every table of masks is the one of a configuration. -/
lemma exists_loadEventDebounceIgnore_equiv (uninitialized : ℕ) (ignore : TreeMap ℕ UInt8) :
    ∃ elements, (loadEventDebounceIgnore uninitialized elements).Equiv ignore := by
  refine ⟨ignore.toList.map fun e => .object (some e.1) (some e.2.toNat),
    TreeMap.Equiv.of_forall_constGet?_eq fun i => ?_⟩
  rw [loadEventDebounceIgnore, foldl_loadIgnoreElement,
    ← TreeMap.ofList_equiv_foldl.getElem?_eq]
  cases hmask : ignore[i]? with
  | none =>
    refine TreeMap.getElem?_ofList_of_contains_eq_false ?_
    rw [TreeMap.map_fst_toList_eq_keys]
    simpa using hmask
  | some mask =>
    refine TreeMap.getElem?_ofList_of_mem Std.ReflCmp.compare_self TreeMap.distinct_keys_toList ?_
    exact TreeMap.mem_toList_iff_getElem?_eq_some.mpr hmask

/-- `debounce`. The interval `never` is -1, and the largest time point is none. Times are those of the
steady clock, in nanoseconds. -/
structure Debounce where
  onChange : Bool
  onChangeResetsInterval : Bool
  ignore : TreeMap ℕ UInt8
  interval : ℤ
  lastForwarded : Option ℤ

/-- The undefined result of a read. -/
inductive UndefinedRead
  | endOfMap

namespace Debounce

section Masks

variable (ignore : TreeMap ℕ UInt8)

/-- The loop over the bytes that only one payload has: `n` bytes from the index `i` on. -/
def additionalChanged (i : ℕ) : ℕ → Except UndefinedRead Bool
  | 0 => pure false
  | n + 1 => do
    let isHit ←
      match ignore[i]? with
      | none => throw .endOfMap
      | some _ => pure false
    if isHit then pure true else additionalChanged (i + 1) n

/-- The loop over the bytes that both payloads have, from the index `i` on. -/
def commonChanged (i : ℕ) : List UInt8 → List UInt8 → Bool
  | itsOld :: old, itsNew :: new =>
    let isHit :=
      match ignore[i]? with
      | none => itsOld != itsNew
      | some mask => mask != 0xFF && (itsOld &&& ~~~mask) != (itsNew &&& ~~~mask)
    if isHit then true else commonChanged (i + 1) old new
  | _, _ => false

/-- The mask of an index. -/
def mask (i : ℕ) : UInt8 := (ignore[i]?).getD 0

end Masks

variable (d : Debounce) (old new : Payload)

/-- The test for a change. -/
def isChanged : Except UndefinedRead Bool := do
  if d.onChange then
    let minLength := if old.getLength < new.getLength then old.getLength else new.getLength
    let maxLength := if old.getLength < new.getLength then new.getLength else old.getLength
    if ← additionalChanged d.ignore minLength.toNat (maxLength.toNat - minLength.toNat) then pure true
    else pure (commonChanged d.ignore 0 old.data new.data)
  else pure false

/-- The function of `register_event` at a time, and the time that it notes. -/
def epsilonChange (now : ℤ) : Except UndefinedRead (Bool × Debounce) := do
  let isChanged ← d.isChanged old new
  if d.interval > -1 then
    let isElapsed := d.lastForwarded.elim true fun last => decide ((now - last).tdiv 1000000 ≥ d.interval)
    let d := if isElapsed || (isChanged && d.onChangeResetsInterval) then
      { d with lastForwarded := some now } else d
    pure (isChanged || isElapsed, d)
  else pure (isChanged, d)

/-! ## The changes that count -/

/-- A bit of a byte that both payloads have has changed, and is not ignored. -/
def CommonChanged (ignore : TreeMap ℕ UInt8) (old new : List UInt8) : Prop :=
  ∃ (i : ℕ) (h : i < old.length) (h' : i < new.length), ∃ bit < 8,
    old[i].toNat.testBit bit ≠ new[i].toNat.testBit bit ∧ (mask ignore i).toNat.testBit bit = false

/-- An index is between the lengths of the payloads. -/
def IsAdditional (old new : List UInt8) (i : ℕ) : Prop :=
  min old.length new.length ≤ i ∧ i < max old.length new.length

/-- A bit that is not ignored has changed, or there is a byte that is not fully ignored in one payload
only. -/
def Changed (ignore : TreeMap ℕ UInt8) (old new : List UInt8) : Prop :=
  CommonChanged ignore old new ∨ ∃ i, IsAdditional old new i ∧ mask ignore i ≠ 0xFF

/-- The function reports exactly the changes that count. -/
def Reports (now : ℤ) : Prop :=
  ∃ isReported d', d.epsilonChange old new now = .ok (isReported, d') ∧
    (isReported ↔ Changed d.ignore old.data new.data)

/-! ## The loops -/

section Masks

variable {ignore : TreeMap ℕ UInt8}

/-- The loop over the additional bytes reads the end of the map if an index has no mask, and never finds
a change. -/
lemma additionalChanged_eq_ok_iff {i n : ℕ} {isChanged : Bool} :
    additionalChanged ignore i n = .ok isChanged ↔
      isChanged = false ∧ ∀ j, i ≤ j → j < i + n → (ignore[j]?).isSome := by
  induction n generalizing i with
  | zero =>
    constructor
    · intro h
      cases h
      exact ⟨rfl, fun j hj hlt => absurd hlt (Nat.not_lt.mpr hj)⟩
    · rintro ⟨rfl, -⟩
      rfl
  | succ n ih =>
    rw [additionalChanged]
    cases hmask : ignore[i]? with
    | none =>
      refine iff_of_false (fun h => by cases h) fun h => ?_
      have hsome := h.2 i (Nat.le_refl i) (Nat.lt_add_of_pos_right n.succ_pos)
      rw [hmask] at hsome
      exact Bool.false_ne_true hsome
    | some mask =>
      change additionalChanged ignore (i + 1) n = _ ↔ _
      rw [ih]
      refine and_congr_right fun _ => ⟨fun h j hj hlt => ?_, fun h j hj hlt => h j (by omega) (by omega)⟩
      rcases Nat.eq_or_lt_of_le hj with rfl | hj
      · rw [hmask]
        rfl
      · exact h j hj (by omega)

/-- Two bytes differ under a mask exactly if a bit differs that the mask does not have. -/
lemma masked_ne_iff (x y m : UInt8) : x &&& ~~~m ≠ y &&& ~~~m ↔
    ∃ bit < 8, x.toNat.testBit bit ≠ y.toNat.testBit bit ∧ m.toNat.testBit bit = false := by
  have hbit (z : UInt8) (bit : ℕ) (h : bit < 8) : (z &&& ~~~m).toBitVec.getLsbD bit =
      (z.toNat.testBit bit && !m.toNat.testBit bit) := by
    rw [UInt8.toBitVec_and, UInt8.toBitVec_not, BitVec.getLsbD_and, BitVec.getLsbD_not]
    simp only [h, decide_true, Bool.true_and]
    rfl
  constructor
  · intro hne
    by_contra hall
    push Not at hall
    refine hne (UInt8.toBitVec_inj.mp (BitVec.eq_of_getLsbD_eq fun bit hlt => ?_))
    rw [hbit x bit hlt, hbit y bit hlt]
    by_cases heq : x.toNat.testBit bit = y.toNat.testBit bit
    · rw [heq]
    · rw [Bool.not_eq_false _ |>.mp (hall bit hlt heq), Bool.not_true, Bool.and_false, Bool.and_false]
  · rintro ⟨bit, hlt, hne, hm⟩ heq
    have hbits := congrArg (fun z : UInt8 => z.toBitVec.getLsbD bit) heq
    rw [hbit x bit hlt, hbit y bit hlt, hm, Bool.not_false, Bool.and_true, Bool.and_true] at hbits
    exact hne hbits

/-- The test of the loop over the common bytes is the comparison under the mask of the index. -/
lemma commonChanged_cons (i : ℕ) (itsOld itsNew : UInt8) (old new : List UInt8) :
    commonChanged ignore i (itsOld :: old) (itsNew :: new) = true ↔
      itsOld &&& ~~~mask ignore i ≠ itsNew &&& ~~~mask ignore i ∨
        commonChanged ignore (i + 1) old new = true := by
  rw [commonChanged, mask]
  cases ignore[i]? with
  | none => simp
  | some m =>
    have hall : ~~~(0xFF : UInt8) = 0 := rfl
    by_cases hm : m = 0xFF
    · subst hm
      simp [hall]
    · simp [hm]

/-- A change among the common bytes, from a position on. -/
lemma commonChanged_iff (i : ℕ) (old new : List UInt8) : commonChanged ignore i old new = true ↔
    ∃ (j : ℕ) (h : j < old.length) (h' : j < new.length),
      old[j] &&& ~~~mask ignore (i + j) ≠ new[j] &&& ~~~mask ignore (i + j) := by
  induction old generalizing i new with
  | nil => exact iff_of_false Bool.false_ne_true fun ⟨j, h, _⟩ => absurd h (Nat.not_lt_zero j)
  | cons itsOld old ih =>
    cases new with
    | nil => exact iff_of_false Bool.false_ne_true fun ⟨j, _, h, _⟩ => absurd h (Nat.not_lt_zero j)
    | cons itsNew new =>
      rw [commonChanged_cons, ih]
      constructor
      · rintro (h | ⟨j, h, h', hne⟩)
        · exact ⟨0, Nat.succ_pos _, Nat.succ_pos _, h⟩
        · refine ⟨j + 1, Nat.succ_lt_succ h, Nat.succ_lt_succ h', ?_⟩
          rwa [Nat.add_right_comm, Nat.add_assoc] at hne
      · rintro ⟨j, h, h', hne⟩
        cases j with
        | zero => exact Or.inl hne
        | succ j =>
          refine Or.inr ⟨j, Nat.lt_of_succ_lt_succ h, Nat.lt_of_succ_lt_succ h', ?_⟩
          rwa [Nat.add_right_comm, Nat.add_assoc]

/-- The loop of the source finds a change among the common bytes. -/
lemma commonChanged_iff_commonChanged (old new : List UInt8) :
    commonChanged ignore 0 old new = true ↔ CommonChanged ignore old new := by
  rw [commonChanged_iff]
  simp only [Nat.zero_add, masked_ne_iff]
  rfl

end Masks

/-! ## Main result -/

/-- The test for a change, if the payloads are compared. -/
lemma isChanged_eq_ok_iff {d : Debounce} (honChange : d.onChange = true) {old new : Payload}
    {isChanged : Bool} : d.isChanged old new = .ok isChanged ↔
      (∀ i, IsAdditional old.data new.data i → i ∈ d.ignore) ∧
        isChanged = commonChanged d.ignore 0 old.data new.data := by
  have hmask : (∀ i, IsAdditional old.data new.data i → i ∈ d.ignore) ↔
      ∀ i, min old.data.length new.data.length ≤ i →
        i < min old.data.length new.data.length +
          (max old.data.length new.data.length - min old.data.length new.data.length) →
        (d.ignore[i]?).isSome := by
    simp only [TreeMap.isSome_getElem?_iff_mem, IsAdditional, and_imp]
    refine forall_congr' fun i => imp_congr_right fun _ => imp_congr_left ?_
    omega
  have hlt : old.getLength < new.getLength ↔ old.data.length < new.data.length := by
    rw [UInt32.lt_iff_toNat_lt, old.toNat_getLength, new.toNat_getLength]
  have hmin : (if old.getLength < new.getLength then old.getLength else new.getLength).toNat =
      min old.data.length new.data.length := by
    simp only [hlt]
    split <;> simp only [Payload.toNat_getLength] <;> omega
  have hmax : (if old.getLength < new.getLength then new.getLength else old.getLength).toNat =
      max old.data.length new.data.length := by
    simp only [hlt]
    split <;> simp only [Payload.toNat_getLength] <;> omega
  rw [Debounce.isChanged, if_pos honChange]
  dsimp only
  rw [hmin, hmax, hmask, bind_eq_ok_iff]
  constructor
  · rintro ⟨isAdditional, hadditional, hrest⟩
    obtain ⟨rfl, hsome⟩ := additionalChanged_eq_ok_iff.mp hadditional
    cases hrest
    exact ⟨hsome, rfl⟩
  · rintro ⟨hsome, rfl⟩
    exact ⟨false, additionalChanged_eq_ok_iff.mpr ⟨rfl, hsome⟩, rfl⟩

/-- **For every table of masks and every two payloads, the function reports exactly the changes that
count, exactly if every index between the lengths has a mask, and if one of these does not ignore its
byte, then the common bytes have changed.** -/
theorem reports_iff (ignore : TreeMap ℕ UInt8) (onChangeResetsInterval : Bool)
    (lastForwarded : Option ℤ) (old new : Payload) (now : ℤ) :
    let d : Debounce := { onChange := true, interval := -1, ignore, onChangeResetsInterval, lastForwarded }
    d.Reports old new now ↔
      (∀ i, IsAdditional old.data new.data i → i ∈ ignore) ∧
        ((∃ i, IsAdditional old.data new.data i ∧ mask ignore i ≠ 0xFF) →
          CommonChanged ignore old.data new.data) := by
  intro d
  have hok (isReported : Bool) (d' : Debounce) : d.epsilonChange old new now = .ok (isReported, d') ↔
      d.isChanged old new = .ok isReported ∧ d' = d := by
    rw [epsilonChange, bind_eq_ok_iff]
    constructor
    · rintro ⟨isChanged, hchanged, hrest⟩
      cases hrest
      exact ⟨hchanged, rfl⟩
    · rintro ⟨hchanged, rfl⟩
      exact ⟨isReported, hchanged, rfl⟩
  simp only [Reports, hok, isChanged_eq_ok_iff (show d.onChange = true from rfl)]
  constructor
  · rintro ⟨isReported, d', ⟨⟨hmem, rfl⟩, rfl⟩, hiff⟩
    rw [commonChanged_iff_commonChanged] at hiff
    exact ⟨hmem, fun hadditional => hiff.mpr (Or.inr hadditional)⟩
  · rintro ⟨hmem, hcommon⟩
    refine ⟨_, d, ⟨⟨hmem, rfl⟩, rfl⟩, ?_⟩
    rw [commonChanged_iff_commonChanged]
    exact ⟨Or.inl, fun h => h.elim id hcommon⟩

/-- The second byte is there in one payload only, and four of its bits are not ignored. -/
theorem not_reports_additional : ¬ ∀ d old new now, d.onChange = true → d.interval = -1 →
    Debounce.Reports d old new now := by
  intro h
  obtain ⟨isReported, d', hok, hiff⟩ := h
    { onChange := true, onChangeResetsInterval := false, ignore := (∅ : TreeMap ℕ UInt8).insert 1 0x0F,
      interval := -1, lastForwarded := none }
    ⟨[0x00], by decide⟩ ⟨[0x00, 0xFF], by decide⟩ 0 rfl rfl
  have hfalse : isReported = false := by
    cases hok
    rfl
  refine Bool.eq_false_iff.mp hfalse (hiff.mpr (Or.inr ⟨1, ⟨by decide, by decide⟩, ?_⟩))
  decide

end Debounce

end Vsomeip
