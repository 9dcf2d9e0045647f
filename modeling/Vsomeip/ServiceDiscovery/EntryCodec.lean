import Mathlib.Data.List.Sort
import Vsomeip.ServiceDiscovery.Entry

set_option relaxedAutoImplicit false
set_option autoImplicit false

/-!
# Entries on the wire

An entry that was built with `set_…` and `assign_option` is recovered from its sixteen bytes. The
option runs are the interesting part: `assign_option` only joins an index that extends a run, so
a run is always an interval of indices, and an interval is determined by its first index and its
length, which is all the wire carries.

## Main definitions

* `Vsomeip.Sd.EntryImpl.Assigned` — the entries that `set_…` and `assign_option` build.
* `Vsomeip.Sd.IsRun` — intervals of option indices.
* `Vsomeip.Sd.Entry.Built` — the entries of messages built with the API of `message_impl`.
* `Vsomeip.Sd.Entry.received` — an entry as its receiver holds it.

## Main results

* `Vsomeip.Sd.EntryImpl.Assigned.isRun` — assigned options form two runs.
* `Vsomeip.Sd.Entry.Built.writes_serialize`, `Vsomeip.Sd.ServiceentryImpl.decodes_deserialize`,
  `Vsomeip.Sd.EventgroupentryImpl.decodes_deserialize` — the codec of entries.
-/

namespace Vsomeip.Sd

open Deserializer Serializer

/-! ## Option runs -/

/-- An interval of option indices. -/
def IsRun (run : List UInt8) : Prop :=
  ∃ a n, a + n ≤ 256 ∧ run = (List.range' a n).map UInt8.ofNat

/-- An empty list of indices is a run. -/
lemma isRun_nil : IsRun [] := ⟨0, 0, by omega, rfl⟩

/-- Indices of an interval are in increasing order. -/
lemma pairwise_le_range' {a n : ℕ} (h : a + n ≤ 256) :
    ((List.range' a n).map UInt8.ofNat).Pairwise (· ≤ ·) := by
  rw [List.pairwise_map]
  refine List.Pairwise.imp_of_mem ?_ (List.pairwise_lt_range' (s := a) (n := n))
  intro x y hx hy hxy
  rw [List.mem_range'_1] at hx hy
  rw [UInt8.le_iff_toNat_le, UInt8.toNat_ofNat', UInt8.toNat_ofNat']
  omega

/-- Sorting a permutation of an interval gives the interval. -/
lemma mergeSort_eq_range' {l : List UInt8} {a n : ℕ} (h : a + n ≤ 256)
    (hp : l.Perm ((List.range' a n).map UInt8.ofNat)) :
    l.mergeSort (fun x y => decide (x ≤ y)) = (List.range' a n).map UInt8.ofNat := by
  have hsorted : (l.mergeSort (fun x y => decide (x ≤ y))).Pairwise (· ≤ ·) := by
    have hle := @List.pairwise_mergeSort UInt8 (fun x y => decide (x ≤ y))
      (by simpa using fun a b c => UInt8.le_trans) (by simpa using UInt8.le_total) l
    simpa using hle
  exact List.Perm.eq_of_pairwise (fun a b _ _ hab hba => UInt8.le_antisymm hab hba) hsorted
    (pairwise_le_range' h) ((List.mergeSort_perm _ _).trans hp)

/-- An index can be joined to an interval if it stands right before or right behind it. -/
lemma canJoin_range' {a n : ℕ} (h : a + (n + 1) ≤ 256) {i : UInt8}
    (hi : EntryImpl.canJoin ((List.range' a (n + 1)).map UInt8.ofNat) i = true) :
    a = i.toNat + 1 ∨ a + n + 1 = i.toNat := by
  have hlast (hne : (List.range' a (n + 1)).map UInt8.ofNat ≠ []) :
      ((List.range' a (n + 1)).map UInt8.ofNat).getLast hne = UInt8.ofNat (a + n) := by
    simp [List.range'_1_concat]
  rw [List.range'_succ, List.map_cons] at hi hlast
  simp only [EntryImpl.canJoin, Bool.or_eq_true, beq_iff_eq] at hi
  rw [hlast, UInt8.toNat_ofNat', UInt8.toNat_ofNat'] at hi
  omega

/-- Joining an index that extends a run gives a run. -/
lemma IsRun.join {run : List UInt8} (h : IsRun run) {i : UInt8}
    (hi : EntryImpl.canJoin run i = true) :
    IsRun ((run ++ [i]).mergeSort (fun a b => decide (a ≤ b))) := by
  obtain ⟨a, n, han, rfl⟩ := h
  have hi256 := i.toNat_lt
  cases n with
  | zero => exact ⟨i.toNat, 1, by omega, by simp⟩
  | succ n =>
    rcases canJoin_range' han hi with rfl | hback
    · refine ⟨i.toNat, n + 2, by omega, mergeSort_eq_range' (by omega) ?_⟩
      rw [List.range'_succ (s := i.toNat), List.map_cons, UInt8.ofNat_toNat]
      exact List.perm_append_singleton _ _
    · refine ⟨a, n + 2, by omega, mergeSort_eq_range' (by omega) ?_⟩
      rw [List.range'_1_concat (n := n + 1), List.map_append, ← Nat.add_assoc, hback]
      simp

/-- A run is recovered from its first index and its length. -/
lemma IsRun.readRun_eq {run : List UInt8} (h : IsRun run) (hlen : run.length < 256) :
    EntryImpl.readRun (run.headD 0) (UInt8.ofNat run.length) = run := by
  obtain ⟨a, n, han, rfl⟩ := h
  rw [List.length_map, List.length_range'] at hlen ⊢
  cases n with
  | zero => rfl
  | succ n =>
    have hhead : ((List.range' a (n + 1)).map UInt8.ofNat).headD 0 = UInt8.ofNat a := rfl
    rw [hhead, EntryImpl.readRun, UInt8.toNat_ofNat', UInt8.toNat_ofNat',
      Nat.mod_eq_of_lt (show a < 2 ^ 8 by omega), Nat.mod_eq_of_lt (show n + 1 < 2 ^ 8 by omega)]

/-! ## Entries built with the API -/

/-- The entries that the setters and `assign_option` build from a new entry. The setters change
the members that are not option runs. -/
inductive EntryImpl.Assigned : EntryImpl → Prop
  | init : EntryImpl.Assigned EntryImpl.init
  | set (e : EntryImpl) (type : EntryType) (service instance_ : UInt16) (majorVersion : UInt8)
      (ttl : UInt32) : EntryImpl.Assigned e →
      EntryImpl.Assigned { e with type, service, instance_, majorVersion, ttl }
  | assignOption (e : EntryImpl) (optionIndex : UInt8) : EntryImpl.Assigned e →
      EntryImpl.Assigned (e.assignOption optionIndex)

/-- The options of an entry form two runs. -/
lemma EntryImpl.Assigned.isRun {e : EntryImpl} (h : e.Assigned) :
    IsRun e.options1 ∧ IsRun e.options2 := by
  induction h with
  | init => exact ⟨isRun_nil, isRun_nil⟩
  | set e type service instance_ majorVersion ttl _ ih => exact ih
  | assignOption e i _ ih =>
    unfold EntryImpl.assignOption
    split_ifs with h1 h2
    · exact ⟨ih.1.join h1, ih.2⟩
    · exact ⟨ih.1, ih.2.join h2⟩
    · exact ih

/-- What the four fields of an entry that are not option runs, the runs and the bit fields must
satisfy to fit on the wire. -/
structure EntryImpl.Fits (e : EntryImpl) : Prop where
  assigned : e.Assigned
  ttl : e.ttl.toNat < 2 ^ 24
  options1 : e.options1.length ≤ 15
  options2 : e.options2.length ≤ 15

/-- The entries of messages built with the API of `message_impl`: the type of an entry is one of
its class, and its bit fields fit. -/
def Entry.Built : Entry → Prop
  | .service e => e.toEntryImpl.Fits ∧ e.type.isService
  | .eventgroup e => e.toEntryImpl.Fits ∧ e.type.isEventgroup ∧ e.counter.toNat < 16 ∧
      e.reserved.toNat < 2 ^ 12

/-- The common part of an entry as its receiver holds it: the first index and the length of each
run are kept beside the run. -/
def EntryImpl.received (e : EntryImpl) : EntryImpl :=
  { e with
    numOptions1 := UInt8.ofNat e.options1.length
    numOptions2 := UInt8.ofNat e.options2.length
    index1 := e.options1.headD 0
    index2 := e.options2.headD 0 }

/-- An entry as its receiver holds it. -/
def Entry.received : Entry → Entry
  | .service e => .service { e with toEntryImpl := e.toEntryImpl.received }
  | .eventgroup e => .eventgroup { e with toEntryImpl := e.toEntryImpl.received }

/-! ## The bytes of an entry -/

/-- The bytes of the common part. -/
def EntryImpl.bytes (e : EntryImpl) : List UInt8 :=
  [e.type.toByte, e.options1.headD 0, e.options2.headD 0, e.numberOfOptions,
    wordByte1 e.service, wordByte0 e.service, wordByte1 e.instance_, wordByte0 e.instance_]

/-- What serializing the common part of an entry writes. -/
lemma EntryImpl.writes_serialize (e : EntryImpl) : Writes e.serialize e.bytes :=
  (writes_serialize8 _).bind <| (writes_serialize8 _).bind <| (writes_serialize8 _).bind <|
    (writes_serialize8 _).bind <| (writes_serialize16 _).bind <| writes_serialize16 _

/-- The two four-bit counts are recovered from their byte. -/
lemma nibbles {a b : ℕ} (ha : a ≤ 15) (hb : b ≤ 15) :
    ((UInt8.ofNat a <<< 4) ||| (UInt8.ofNat b &&& 0x0F)) >>> 4 = UInt8.ofNat a ∧
      ((UInt8.ofNat a <<< 4) ||| (UInt8.ofNat b &&& 0x0F)) &&& 0xF = UInt8.ofNat b := by
  have h : ∀ x y : Fin 16,
      ((UInt8.ofNat x <<< 4) ||| (UInt8.ofNat y &&& 0x0F)) >>> 4 = UInt8.ofNat x ∧
      ((UInt8.ofNat x <<< 4) ||| (UInt8.ofNat y &&& 0x0F)) &&& 0xF = UInt8.ofNat y := by
    decide +kernel
  exact h ⟨a, by omega⟩ ⟨b, by omega⟩

/-- The common part as it is read back from its bytes: the runs are made from the first index and the
four-bit count of each. -/
def EntryImpl.readBack (e : EntryImpl) : EntryImpl :=
  { type := e.type, service := e.service, instance_ := e.instance_, majorVersion := 0, ttl := 0,
    options1 := readRun (e.options1.headD 0) (e.numberOfOptions >>> 4),
    options2 := readRun (e.options2.headD 0) (e.numberOfOptions &&& 0xF),
    numOptions1 := e.numberOfOptions >>> 4, numOptions2 := e.numberOfOptions &&& 0xF,
    index1 := e.options1.headD 0, index2 := e.options2.headD 0 }

/-- The common part of an entry is read back. -/
lemma EntryImpl.decodes_deserialize (e : EntryImpl) :
    Decodes EntryImpl.deserialize e.bytes e.readBack := by
  have hval : { e.readBack with type := EntryType.ofByte e.type.toByte } = e.readBack := by
    rw [EntryType.ofByte_toByte]
    rfl
  rw [← hval]
  exact (decodes_deserialize8 _).bind <| (decodes_deserialize8 _).bind <|
    (decodes_deserialize8 _).bind <| (decodes_deserialize8 _).bind <|
    (decodes_deserialize16 _).bind <| (decodes_deserialize16 _).bind <| Decodes.pure _

/-- Runs of at most 15 indices are read back. -/
lemma EntryImpl.readBack_eq {e : EntryImpl} (hrun1 : IsRun e.options1) (hrun2 : IsRun e.options2)
    (hlen1 : e.options1.length ≤ 15) (hlen2 : e.options2.length ≤ 15) :
    e.readBack = { e.received with majorVersion := 0, ttl := 0 } := by
  obtain ⟨hnum1, hnum2⟩ := nibbles hlen1 hlen2
  simp only [EntryImpl.readBack, EntryImpl.numberOfOptions, hnum1, hnum2,
    hrun1.readRun_eq (by omega), hrun2.readRun_eq (by omega), EntryImpl.received]

/-- The common part is recovered from its bytes. -/
lemma EntryImpl.Fits.decodes_deserialize {e : EntryImpl} (h : e.Fits) :
    Decodes EntryImpl.deserialize e.bytes { e.received with majorVersion := 0, ttl := 0 } := by
  obtain ⟨hrun1, hrun2⟩ := h.assigned.isRun
  rw [← EntryImpl.readBack_eq hrun1 hrun2 h.options1 h.options2]
  exact e.decodes_deserialize

/-! ### Service entries -/

namespace ServiceentryImpl

/-- The bytes of a service entry. -/
def bytes (e : ServiceentryImpl) : List UInt8 :=
  e.toEntryImpl.bytes ++
    [e.majorVersion, longByte2 e.ttl, longByte1 e.ttl, longByte0 e.ttl,
      longByte3 e.minorVersion, longByte2 e.minorVersion, longByte1 e.minorVersion,
      longByte0 e.minorVersion]

/-- What serializing a service entry writes. -/
lemma writes_serialize (e : ServiceentryImpl) : Writes e.serialize e.bytes :=
  e.toEntryImpl.writes_serialize.bind <| (writes_serialize8 _).bind <|
    (writes_serialize24 _).bind <| writes_serialize32 _

/-- A service entry is recovered from its bytes. -/
lemma decodes_deserialize {e : ServiceentryImpl} (h : e.toEntryImpl.Fits) :
    Decodes ServiceentryImpl.deserialize e.bytes
      { e with toEntryImpl := e.toEntryImpl.received } :=
  h.decodes_deserialize.bind <| (decodes_deserialize8 _).bind <|
    (decodes_deserialize24 h.ttl).bind <| (decodes_deserialize32 _).bind <| Decodes.pure _

end ServiceentryImpl

/-! ### Eventgroup entries -/

namespace EventgroupentryImpl

/-- The bytes of an eventgroup entry. -/
def bytes (e : EventgroupentryImpl) : List UInt8 :=
  e.toEntryImpl.bytes ++
    [e.majorVersion, longByte2 e.ttl, longByte1 e.ttl, longByte0 e.ttl,
      (e.counterAndReserved >>> 8).toUInt8, e.counterAndReserved.toUInt8,
      wordByte1 e.eventgroup, wordByte0 e.eventgroup]

/-- What serializing an eventgroup entry writes, if its counter has four bits. -/
lemma writes_serialize {e : EventgroupentryImpl} (h : e.counter.toNat < 16) :
    Writes e.serialize e.bytes := by
  have hc : ¬ e.counter ≥ 16 := by
    rw [ge_iff_le, UInt8.le_iff_toNat_le]
    change ¬ 16 ≤ e.counter.toNat
    omega
  refine e.toEntryImpl.writes_serialize.bind <| (writes_serialize8 _).bind <|
    (writes_serialize24 _).bind ?_
  rw [if_neg hc]
  exact (writes_serialize8 _).bind <| (writes_serialize8 _).bind <| writes_serialize16 _

/-- An entry whose counter needs more than four bits cannot be written. -/
lemma serialize_fst_eq_none {e : EventgroupentryImpl} (h : 16 ≤ e.counter.toNat)
    (out : List UInt8) : (e.serialize out).1 = none := by
  refine Parse.bind_fst_eq_none_right (fun _ => Parse.bind_fst_eq_none_right fun _ =>
    Parse.bind_fst_eq_none_right fun _ => ?_) out
  rw [if_pos (show e.counter ≥ 16 from UInt8.le_iff_toNat_le.mpr h)]
  exact fun _ => rfl

/-- The number made of the reserved field and the counter. -/
lemma toNat_counterAndReserved {e : EventgroupentryImpl} (hc : e.counter.toNat < 16)
    (hr : e.reserved.toNat < 2 ^ 12) :
    e.counterAndReserved.toNat = e.reserved.toNat * 16 + e.counter.toNat := by
  unfold counterAndReserved
  split_ifs with h0
  · simp [h0]
  · have hshift : (e.reserved <<< 4).toNat = e.reserved.toNat <<< 4 := by
      rw [UInt16.toNat_shiftLeft, Nat.shiftLeft_eq, Nat.shiftLeft_eq]
      change e.reserved.toNat * 2 ^ 4 % 2 ^ 16 = _
      omega
    have hcounter : e.counter.toUInt16.toNat = e.counter.toNat := UInt8.toNat_toUInt16 _
    rw [UInt16.toNat_or, hshift, hcounter, shiftLeft_or_eq_add hc]
    omega

/-- The reserved field and the counter are recovered from their two bytes. -/
lemma counterAndReserved_fields {e : EventgroupentryImpl} (hc : e.counter.toNat < 16)
    (hr : e.reserved.toNat < 2 ^ 12) :
    (((e.counterAndReserved >>> 8).toUInt8.toUInt16 <<< 8) |||
        e.counterAndReserved.toUInt8.toUInt16) >>> 4 = e.reserved ∧
      e.counterAndReserved.toUInt8 &&& ~~~0xF0 = e.counter := by
  have hx := toNat_counterAndReserved hc hr
  generalize e.counterAndReserved = x at hx
  have hx16 := x.toNat_lt
  have hlow : x.toUInt8.toNat = x.toNat % 256 := UInt16.toNat_toUInt8 _
  have hhigh : (x >>> 8).toUInt8.toNat = x.toNat / 256 := by
    rw [UInt16.toNat_toUInt8, UInt16.toNat_shiftRight, Nat.shiftRight_eq_div_pow]
    change x.toNat / 2 ^ 8 % 2 ^ 8 = _
    omega
  constructor
  · have hword := bytesToWord_toNat (x >>> 8).toUInt8 x.toUInt8
    apply UInt16.toNat_inj.mp
    change ((bytesToWord (x >>> 8).toUInt8 x.toUInt8) >>> 4).toNat = _
    rw [UInt16.toNat_shiftRight, hword, hlow, hhigh, Nat.shiftRight_eq_div_pow]
    change (x.toNat / 256 * 2 ^ 8 + x.toNat % 256) / 2 ^ 4 = _
    omega
  · apply UInt8.toNat_inj.mp
    rw [UInt8.toNat_and, hlow]
    change x.toNat % 256 &&& (2 ^ 4 - 1) = _
    rw [Nat.and_two_pow_sub_one_eq_mod]
    omega

/-- An eventgroup entry is recovered from its bytes. -/
lemma decodes_deserialize {e : EventgroupentryImpl} (h : e.toEntryImpl.Fits)
    (hc : e.counter.toNat < 16) (hr : e.reserved.toNat < 2 ^ 12) :
    Decodes EventgroupentryImpl.deserialize e.bytes
      { e with toEntryImpl := e.toEntryImpl.received } := by
  obtain ⟨hres, hcnt⟩ := counterAndReserved_fields hc hr
  refine h.decodes_deserialize.bind <| (decodes_deserialize8 _).bind <|
    (decodes_deserialize24 h.ttl).bind <| (decodes_deserialize8 _).bind <|
    (decodes_deserialize8 _).bind ?_
  have hlt : ¬ e.counter ≥ 16 := by
    rw [← hcnt]
    exact low_nibble_lt _
  simp only [hres, hcnt, if_neg hlt]
  exact (decodes_deserialize16 _).bind <| Decodes.pure _

end EventgroupentryImpl

/-! ### Entries -/

/-- The bytes of an entry. -/
def Entry.bytes : Entry → List UInt8
  | .service e => e.bytes
  | .eventgroup e => e.bytes

/-- Every entry takes sixteen bytes. -/
@[simp] lemma Entry.length_bytes (e : Entry) : e.bytes.length = 16 := by cases e <;> rfl

/-- What serializing an entry writes. -/
lemma Entry.Built.writes_serialize {e : Entry} (h : e.Built) : Writes e.serialize e.bytes := by
  cases e with
  | service e => exact e.writes_serialize
  | eventgroup e => exact EventgroupentryImpl.writes_serialize h.2.2.1

end Vsomeip.Sd
