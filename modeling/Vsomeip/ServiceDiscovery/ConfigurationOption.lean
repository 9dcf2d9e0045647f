import Vsomeip.Lib.Runs
import Vsomeip.ServiceDiscovery.RoundTrip

set_option relaxedAutoImplicit false
set_option autoImplicit false

/-!
# The configuration option

A configuration option holds a map from keys to values. `add_item` and `remove_item` keep its length
field up to date, but an item that is replaced by another one is not taken off the length. The encoder
writes the items one after the other, each behind its length, and a zero behind the last one.

The decoder does not stop at that zero but when nothing is left of the message, and it keeps every item
in a string of 256 characters, so that the zeros behind an item become part of its value. It thus gives
back nothing but the empty map, and only from the end of a message.

## Main definitions

* `Vsomeip.Sd.ItemAction`, `Vsomeip.Sd.ConfigurationOptionImpl.act` — `add_item` and `remove_item`.
* `Vsomeip.Sd.ConfigurationOptionImpl.replacedAlong` — the bytes of the items that were replaced.
* `Vsomeip.Sd.ConfigurationOptionImpl.Codec` — an option is read back from its bytes.

## Main results

* `Vsomeip.Sd.ConfigurationOptionImpl.Consistent.act` — the length field counts the bytes of all items,
  and those of the replaced ones.
* `Vsomeip.Sd.ConfigurationOptionImpl.readBack_iff` — when an option is read back.
-/

namespace Vsomeip.Sd

open Deserializer Serializer

/-! ## The map -/

/-- The bytes of an item, with its length and the sign between key and value. -/
def itemSize (kv : List UInt8 × List UInt8) : ℕ := kv.1.length + kv.2.length + 2

/-- The bytes of a list of items. -/
def itemsSize (configuration : List (List UInt8 × List UInt8)) : ℕ :=
  (configuration.map itemSize).sum

/-- `configuration_.find(_key)`, the value that is found. -/
def findItem (key : List UInt8) (configuration : List (List UInt8 × List UInt8)) :
    Option (List UInt8) :=
  (configuration.find? fun kv => kv.1 == key).map Prod.snd

/-- `configuration_[_key] = _value`. -/
def assignItem (key value : List UInt8) (configuration : List (List UInt8 × List UInt8)) :
    List (List UInt8 × List UInt8) :=
  if (findItem key configuration).isSome then
    configuration.map fun kv => if kv.1 == key then (key, value) else kv
  else ConfigurationOptionImpl.insertItem key value configuration

/-- `configuration_.erase(it)` for the item with the given key. -/
def eraseItem (key : List UInt8) (configuration : List (List UInt8 × List UInt8)) :
    List (List UInt8 × List UInt8) :=
  configuration.filter fun kv => !(kv.1 == key)

/-- The calls that change a configuration option. -/
inductive ItemAction
  | addItem (key value : List UInt8)
  | removeItem (key : List UInt8)

/-- The length of an item that is added fits into its length byte. -/
def ItemAction.Fits : ItemAction → Prop
  | .addItem key value => 1 + key.length + value.length ≤ 255
  | .removeItem _ => True

section Items

variable {key value old : List UInt8} {l : List (List UInt8 × List UInt8)}

/-- The size of an item. -/
lemma itemSize_mk (key value : List UInt8) : itemSize (key, value) = key.length + value.length + 2 :=
  rfl

/-- The size of two lists of items. -/
lemma itemsSize_append (as bs : List (List UInt8 × List UInt8)) :
    itemsSize (as ++ bs) = itemsSize as + itemsSize bs := by
  rw [itemsSize, List.map_append, List.sum_append, itemsSize, itemsSize]

/-- The size of a list with one item more. -/
lemma itemsSize_cons (kv : List UInt8 × List UInt8) (l : List (List UInt8 × List UInt8)) :
    itemsSize (kv :: l) = itemSize kv + itemsSize l := rfl

/-- A new item stands somewhere among the others. -/
lemma perm_insertItem (key value : List UInt8) (l : List (List UInt8 × List UInt8)) :
    (ConfigurationOptionImpl.insertItem key value l).Perm ((key, value) :: l) := by
  induction l with
  | nil => exact .refl _
  | cons kv l ih =>
    rw [ConfigurationOptionImpl.insertItem]
    split_ifs
    · exact .refl _
    · exact (ih.cons kv).trans (.swap _ _ _)

/-- The place of an item that is found: no other item has its key. -/
lemma split_of_findItem (hnodup : (l.map Prod.fst).Nodup) (h : findItem key l = some old) :
    ∃ as bs, l = as ++ (key, old) :: bs ∧ ∀ kv ∈ as ++ bs, (kv.1 == key) = false := by
  obtain ⟨⟨key', old'⟩, hfind, rfl⟩ := Option.map_eq_some_iff.mp h
  obtain ⟨hkey, as, bs, rfl, -⟩ := List.find?_eq_some_iff_append.mp hfind
  obtain rfl : key' = key := by simpa using hkey
  refine ⟨as, bs, rfl, fun kv hkv => ?_⟩
  rw [List.map_append, List.map_cons, List.nodup_middle, List.nodup_cons, ← List.map_append] at hnodup
  rw [beq_eq_false_iff_ne]
  intro heq
  exact hnodup.1 (List.mem_map.mpr ⟨kv, hkv, heq⟩)

/-- A key that is not found is not in the map. -/
lemma notMem_of_findItem (h : findItem key l = none) : key ∉ l.map Prod.fst := by
  intro hmem
  obtain ⟨kv, hkv, rfl⟩ := List.mem_map.mp hmem
  have hnone := List.find?_eq_none.mp (Option.map_eq_none_iff.mp h) kv hkv
  simp at hnone

/-- The items but the one with the key stay as they are. -/
lemma map_assign_of_ne (h : ∀ kv ∈ l, (kv.1 == key) = false) :
    l.map (fun kv => if kv.1 == key then (key, value) else kv) = l := by
  refine (List.map_congr_left fun kv hkv => ?_).trans (List.map_id l)
  simp [h kv hkv]

/-- Erasing a key that is not there changes nothing. -/
lemma eraseItem_of_ne (h : ∀ kv ∈ l, (kv.1 == key) = false) : eraseItem key l = l :=
  List.filter_eq_self.mpr fun kv hkv => by simp [h kv hkv]

end Items

/-! ## The option -/

/-- An option has bytes. -/
lemma SdOption.bytes_ne_nil (o : SdOption) : o.bytes ≠ [] := by
  cases o <;> simp [SdOption.bytes, IpOptionImpl.bytes, OptionImpl.bytes]

namespace ConfigurationOptionImpl

/-- `configuration_option_impl::configuration_option_impl()`. -/
def create : ConfigurationOptionImpl :=
  { length := 2, type := .configuration, configuration := [] }

/-- `add_item` and `remove_item`. The sums are cut down to 16 bits. -/
def act (o : ConfigurationOptionImpl) : ItemAction → ConfigurationOptionImpl
  | .addItem key value =>
    { o with
      configuration := assignItem key value o.configuration
      length := o.length + UInt16.ofNat (key.length + value.length + 2) }
  | .removeItem key =>
    match findItem key o.configuration with
    | some value =>
      { o with
        length := o.length - UInt16.ofNat (key.length + value.length + 2)
        configuration := eraseItem key o.configuration }
    | none => o

/-- The bytes of the item that a call replaces. -/
def replacedBytes (o : ConfigurationOptionImpl) : ItemAction → ℕ
  | .addItem key _ =>
    match findItem key o.configuration with
    | some old => key.length + old.length + 2
    | none => 0
  | .removeItem _ => 0

/-- The bytes of all items that are replaced by a sequence of calls. -/
def replacedAlong : ConfigurationOptionImpl → List ItemAction → ℕ
  | _, [] => 0
  | o, a :: as => o.replacedBytes a + replacedAlong (o.act a) as

/-- The invariant: the keys are distinct, every item fits into its length byte, and the length counts
the bytes of the items and of those that were replaced. -/
structure Consistent (o : ConfigurationOptionImpl) (replaced : ℕ) : Prop where
  type : o.type = .configuration
  nodup : (o.configuration.map Prod.fst).Nodup
  short : ∀ kv ∈ o.configuration, kv.1.length + kv.2.length ≤ 254
  length : o.length = UInt16.ofNat (2 + itemsSize o.configuration + replaced)

/-- A new option is consistent. -/
lemma consistent_create : Consistent create 0 :=
  ⟨rfl, List.nodup_nil, fun _ h => absurd h List.not_mem_nil, rfl⟩

section Act

variable {o : ConfigurationOptionImpl} {replaced : ℕ}

/-- The type of an option, the distinct keys and what the length counts, for items of any size. -/
structure Counts (o : ConfigurationOptionImpl) (replaced : ℕ) : Prop where
  type : o.type = .configuration
  nodup : (o.configuration.map Prod.fst).Nodup
  length : o.length = UInt16.ofNat (2 + itemsSize o.configuration + replaced)

/-- An item that is added is counted, the one that it replaces stays counted. -/
lemma Counts.addItem (h : o.Counts replaced) (key value : List UInt8) :
    (o.act (.addItem key value)).Counts (replaced + o.replacedBytes (.addItem key value)) := by
  cases hfind : findItem key o.configuration with
  | none =>
    have hact : (o.act (.addItem key value)).configuration = insertItem key value o.configuration := by
      rw [act, assignItem, if_neg (by simp [hfind])]
    have hperm := perm_insertItem key value o.configuration
    refine ⟨h.type, ?_, ?_⟩
    · rw [hact, (hperm.map Prod.fst).nodup_iff, List.map_cons]
      exact List.nodup_cons.mpr ⟨notMem_of_findItem hfind, h.nodup⟩
    · rw [hact, itemsSize, (hperm.map itemSize).sum_eq]
      simp only [act, replacedBytes, hfind, h.length, ← UInt16.ofNat_add]
      rw [← itemsSize, itemsSize_cons, itemSize_mk]
      congr 1
      omega
  | some old =>
    obtain ⟨as, bs, hsplit, hother⟩ := split_of_findItem h.nodup hfind
    obtain ⟨has, hbs⟩ := List.forall_mem_append.mp hother
    have hact : (o.act (.addItem key value)).configuration = as ++ (key, value) :: bs := by
      rw [act, assignItem, if_pos (by simp [hfind])]
      simp only [hsplit, List.map_append, List.map_cons, beq_self_eq_true, if_true,
        map_assign_of_ne has, map_assign_of_ne hbs]
    have hnodup := h.nodup
    have hlength := h.length
    rw [hsplit] at hnodup hlength
    refine ⟨h.type, ?_, ?_⟩
    · rw [hact]
      simpa using hnodup
    · rw [hact]
      simp only [act, replacedBytes, hfind, hlength, ← UInt16.ofNat_add, itemsSize_append,
        itemsSize_cons, itemSize_mk]
      congr 1
      omega

/-- An item that is removed is not counted any more. -/
lemma Counts.removeItem (h : o.Counts replaced) (key : List UInt8) :
    (o.act (.removeItem key)).Counts replaced := by
  cases hfind : findItem key o.configuration with
  | none =>
    rw [act, hfind]
    exact h
  | some value =>
    obtain ⟨as, bs, hsplit, hother⟩ := split_of_findItem h.nodup hfind
    obtain ⟨has, hbs⟩ := List.forall_mem_append.mp hother
    have hact : o.act (.removeItem key) =
        { o with
          length := o.length - UInt16.ofNat (key.length + value.length + 2)
          configuration := as ++ bs } := by
      rw [act, hfind]
      simp only [hsplit, eraseItem, List.filter_append, List.filter_cons, beq_self_eq_true,
        Bool.not_true, Bool.false_eq_true, if_false]
      rw [← eraseItem, ← eraseItem, eraseItem_of_ne has, eraseItem_of_ne hbs]
    have hnodup := h.nodup
    have hlength := h.length
    rw [hsplit] at hnodup hlength
    rw [hact]
    refine ⟨h.type, ?_, ?_⟩
    · rw [List.map_append, List.map_cons, List.nodup_middle, List.nodup_cons] at hnodup
      rw [List.map_append]
      exact hnodup.2
    · have hsum : 2 + itemsSize (as ++ (key, value) :: bs) + replaced =
          2 + itemsSize (as ++ bs) + replaced + (key.length + value.length + 2) := by
        rw [itemsSize_append, itemsSize_cons, itemsSize_append, itemSize_mk]
        omega
      change o.length - _ = _
      rw [hlength, hsum, UInt16.ofNat_add, UInt16.add_sub_cancel]

/-- The items behind a call are those before, and the one that is added. -/
lemma mem_act {a : ItemAction} {kv : List UInt8 × List UInt8} (h : kv ∈ (o.act a).configuration) :
    kv ∈ o.configuration ∨ a = .addItem kv.1 kv.2 := by
  cases a with
  | addItem key value =>
    simp only [act, assignItem] at h
    split_ifs at h
    · obtain ⟨old, hold, rfl⟩ := List.mem_map.mp h
      split_ifs
      · exact .inr rfl
      · exact .inl hold
    · rw [(perm_insertItem _ _ _).mem_iff] at h
      obtain rfl | h := List.mem_cons.mp h
      · exact .inr rfl
      · exact .inl h
  | removeItem key =>
    rw [act] at h
    split at h
    · exact .inl (List.mem_filter.mp h).1
    · exact .inl h

/-- What the length counts is kept by every call. -/
lemma Counts.act (h : o.Counts replaced) (a : ItemAction) :
    (o.act a).Counts (replaced + o.replacedBytes a) := by
  cases a with
  | addItem key value => exact h.addItem key value
  | removeItem key => exact h.removeItem key

/-- What the length counts is kept by every sequence of calls. -/
lemma Counts.run {as : List ItemAction} (h : o.Counts replaced) :
    (Runs.run ConfigurationOptionImpl.act o as).Counts (replaced + replacedAlong o as) := by
  induction as generalizing o replaced with
  | nil => exact h
  | cons a as ih =>
    rw [replacedAlong, ← Nat.add_assoc]
    exact ih (h.act a)

/-- A consistent option counts its items. -/
lemma Consistent.counts (h : o.Consistent replaced) : o.Counts replaced :=
  ⟨h.type, h.nodup, h.length⟩

/-- An option that counts its items is consistent, if these are short. -/
lemma Counts.consistent (h : o.Counts replaced)
    (hshort : ∀ kv ∈ o.configuration, kv.1.length + kv.2.length ≤ 254) : o.Consistent replaced :=
  ⟨h.type, h.nodup, hshort, h.length⟩

/-- **A call keeps the invariant.** -/
theorem Consistent.act (h : o.Consistent replaced) {a : ItemAction} (hfits : a.Fits) :
    (o.act a).Consistent (replaced + o.replacedBytes a) := by
  refine (h.counts.act a).consistent fun kv hkv => ?_
  obtain hkv | rfl := mem_act hkv
  · exact h.short kv hkv
  · change 1 + _ + _ ≤ 255 at hfits
    omega

/-- A sequence of calls keeps the invariant. -/
lemma Consistent.run {as : List ItemAction} (h : o.Consistent replaced)
    (hfits : ∀ a ∈ as, a.Fits) :
    (Runs.run ConfigurationOptionImpl.act o as).Consistent (replaced + replacedAlong o as) := by
  induction as generalizing o replaced with
  | nil => exact h
  | cons a as ih =>
    obtain ⟨ha, has⟩ := List.forall_mem_cons.mp hfits
    rw [replacedAlong, ← Nat.add_assoc]
    exact ih (h.act ha) has

end Act

/-! ## Encoding and decoding -/

/-- The length of the configuration string. -/
lemma length_configurationString (o : ConfigurationOptionImpl) :
    o.configurationString.length = 1 + itemsSize o.configuration := by
  rw [configurationString, List.length_append, List.length_flatMap, itemsSize, Nat.add_comm]
  congr 2
  refine List.map_congr_left fun kv _ => ?_
  simp only [List.length_cons, List.length_append, itemSize]
  omega

/-- The number of bytes of an option. -/
lemma length_bytes (o : ConfigurationOptionImpl) :
    (SdOption.configuration o).bytes.length = 4 + (1 + itemsSize o.configuration) % 2 ^ 32 := by
  rw [SdOption.bytes, List.length_append, writtenString, List.length_take, UInt32.toNat_ofNat',
    length_configurationString, Nat.min_eq_left (Nat.mod_le _ _)]
  rfl

/-- The items that are too long to have been encoded. -/
def Wide (configuration : List (List UInt8 × List UInt8)) : Prop :=
  ∀ kv ∈ configuration, 255 ≤ kv.1.length + kv.2.length

section Decode

variable {conf conf' : List (List UInt8 × List UInt8)} {d d' : Deserializer}

/-- The string that holds an item has 256 characters, and all of them but the sign between key and
value are kept. -/
lemma splitItem_wide {item : List UInt8} (h : item.length ≤ 256) :
    255 ≤ (splitItem item).1.length + (splitItem item).2.length := by
  simp only [splitItem, List.length_take, List.length_drop, List.length_append,
    List.length_replicate]
  omega

/-- What a round behind the length byte has done when it succeeds. -/
lemma addItem_eq_some {itemLength : UInt8} (h : addItem conf itemLength d = (some conf', d')) :
    (∃ n ≤ d.remaining, d' = d.advance n) ∧ (Wide conf → Wide conf') := by
  unfold addItem at h
  split_ifs at h with hpos
  · by_cases hroom : itemLength.toNat > d.remaining
    · have hread : deserializeBytes itemLength.toNat d = (none, d) := by
        rw [deserializeBytes, if_pos hroom]
      rw [Parse.bind_of_none hread] at h
      cases h
    · rw [Parse.bind_apply, deserializeBytes, if_neg hroom] at h
      dsimp only at h
      split_ifs at h with hkey
      · cases h
      · cases h
        refine ⟨⟨itemLength.toNat, by omega, rfl⟩, fun hwide kv hkv => ?_⟩
        rw [(perm_insertItem _ _ _).mem_iff] at hkv
        obtain rfl | hkv := List.mem_cons.mp hkv
        · refine splitItem_wide ?_
          have := itemLength.toNat_lt
          simp [bytesAt]
          omega
        · exact hwide kv hkv
  · cases h
    exact ⟨⟨0, Nat.zero_le _, (advance_zero d).symm⟩, id⟩

/-- What a round has done when it succeeds. -/
lemma deserializeItem_eq_some (h : deserializeItem conf d = (some conf', d')) :
    (∃ n ≤ d.remaining, d' = d.advance n) ∧ (Wide conf → Wide conf') := by
  rw [deserializeItem, Parse.bind_apply, deserialize8] at h
  split_ifs at h with hzero
  · cases h
  · obtain ⟨⟨n, hn, rfl⟩, hwide⟩ := addItem_eq_some h
    refine ⟨⟨1 + n, ?_, advance_advance d 1 n⟩, hwide⟩
    rw [remaining_advance] at hn
    omega

/-- What the loop has done when it succeeds. -/
lemma deserializeItems_eq_some (fuel : ℕ) : ∀ {conf conf' : List (List UInt8 × List UInt8)}
    {d d' : Deserializer}, deserializeItems fuel conf d = (some conf', d') →
      (∃ n ≤ d.remaining, d' = d.advance n) ∧ (Wide conf → Wide conf') := by
  induction fuel with
  | zero => exact deserializeItem_eq_some
  | succ fuel ih =>
    intro conf conf' d d' h
    rcases hitem : deserializeItem conf d with ⟨_ | c, d₁⟩
    · rw [deserializeItems, Parse.bind_of_none hitem] at h
      cases h
    · obtain ⟨⟨n, hn, rfl⟩, hwide⟩ := deserializeItem_eq_some hitem
      rw [deserializeItems, Parse.bind_of_some hitem, Parse.get_bind] at h
      split_ifs at h
      · obtain ⟨⟨n', hn', rfl⟩, hwide'⟩ := ih h
        refine ⟨⟨n + n', ?_, advance_advance d n n'⟩, hwide' ∘ hwide⟩
        rw [remaining_advance] at hn'
        omega
      · cases h
        exact ⟨⟨n, hn, rfl⟩, hwide⟩

end Decode

/-- The length of an option tells how many bytes `serialize` writes, and from these bytes, with those
of other options behind them at the end of a message, `deserialize` gives back the map and stops behind
the bytes. -/
def Codec (o : ConfigurationOptionImpl) (followers : List SdOption) : Prop :=
  ∃ out, o.serialize [] = (some (), out) ∧ o.length.toNat + 3 = out.length ∧
    ∀ d : Deserializer, d.data.drop d.position = out ++ followers.flatMap SdOption.bytes →
      d.remaining = (out ++ followers.flatMap SdOption.bytes).length →
      ∃ o' d', deserialize d = (some o', d') ∧ o'.configuration = o.configuration ∧
        d'.position = d.position + (o.length.toNat + 3)

/-- What serializing a configuration option writes. -/
lemma serialize_eq (o : ConfigurationOptionImpl) :
    o.serialize [] = (some (), (SdOption.configuration o).bytes) :=
  (SdOption.configuration o).writes_serialize []

section Main

variable {o : ConfigurationOptionImpl} {replaced : ℕ}

/-- An option that is read back has no items, and nothing follows it. -/
lemma Consistent.eq_nil_of_codec (h : o.Consistent replaced) {followers : List SdOption}
    (hcodec : o.Codec followers) : o.configuration = [] ∧ followers = [] := by
  obtain ⟨out, hout, hlength, hdecode⟩ := hcodec
  rw [serialize_eq] at hout
  obtain rfl := (Prod.mk.inj hout).2
  set rest := followers.flatMap SdOption.bytes with hrest
  have hsize := o.length_bytes
  obtain ⟨o', d', hrun, hmap, hposition⟩ := hdecode
    (setData ((SdOption.configuration o).bytes ++ rest) fun _ => 0) rfl rfl
  obtain ⟨d₁, hbase, -, hposition₁, hremaining₁⟩ := OptionImpl.decodes_deserialize
    (o := o.toOptionImpl) (by rw [h.type]; decide)
    (setData ((SdOption.configuration o).bytes ++ rest) fun _ => 0) _
    (by rw [SdOption.bytes, List.append_assoc]; rfl)
    (by change 4 ≤ (_ ++ rest).length; rw [List.length_append]; omega)
  change d₁.position = 0 + 4 at hposition₁
  change d₁.remaining = (_ ++ rest).length - 4 at hremaining₁
  rw [deserialize, Parse.bind_of_some hbase, Parse.get_bind] at hrun
  rcases hitems : deserializeItems d₁.remaining [] d₁ with ⟨_ | conf, d₂⟩
  · rw [Parse.bind_of_none hitems] at hrun
    cases hrun
  · rw [Parse.bind_of_some hitems] at hrun
    cases hrun
    have hend := remaining_deserializeItems _ _ _ _ _ le_rfl hitems
    obtain ⟨⟨n, hn, rfl⟩, hwide⟩ := deserializeItems_eq_some _ hitems
    rw [remaining_advance] at hend
    change (d₁.advance n).position = 0 + (o.length.toNat + 3) at hposition
    rw [position_advance, hposition₁] at hposition
    rw [List.length_append] at hremaining₁
    change conf = o.configuration at hmap
    constructor
    · -- no item that was encoded is as long as one that is decoded
      rw [List.eq_nil_iff_forall_not_mem]
      intro kv hkv
      have hshort := h.short kv hkv
      have hlong := hwide (fun _ hmem => absurd hmem List.not_mem_nil) kv (hmap ▸ hkv)
      omega
    · cases followers with
      | nil => rfl
      | cons f fs =>
        have hnil : rest = [] := List.eq_nil_of_length_eq_zero (by omega)
        rw [hrest, List.flatMap_cons] at hnil
        exact absurd (List.append_eq_nil_iff.mp hnil).1 f.bytes_ne_nil

/-- An option without items that has the length of one is read back from the end of a message. -/
lemma codec_of_eq_nil (htype : o.type = .configuration) (hconf : o.configuration = [])
    (hlength : o.length = 2) : o.Codec [] := by
  have hsize := o.length_bytes
  rw [hconf] at hsize
  refine ⟨_, o.serialize_eq, by rw [hlength, hsize]; rfl, fun d hdata hremaining => ?_⟩
  rw [List.flatMap_nil, List.append_nil] at hdata hremaining
  have hstring : o.writtenString = [0x00] := by rw [writtenString, configurationString, hconf]; rfl
  rw [SdOption.bytes, hstring] at hdata
  obtain ⟨d₁, hbase, hdata₁, hposition₁, hremaining₁⟩ := OptionImpl.decodes_deserialize
    (o := o.toOptionImpl) (by rw [htype]; decide) d _ hdata
    (by rw [hremaining, hsize]; change 4 ≤ 5; decide)
  change d₁.position = d.position + 4 at hposition₁
  change d₁.remaining = d.remaining - 4 at hremaining₁
  have hone : d₁.remaining = 1 := by rw [hremaining₁, hremaining, hsize]; rfl
  have hbyte : d₁.byteAt d₁.position = 0x00 := by
    refine byteAt_of_drop (l := []) ?_
    rw [hdata₁, hposition₁, ← List.drop_drop, hdata]
    rfl
  have hread : deserialize8 d₁ = (some 0x00, d₁.advance 1) := by
    rw [deserialize8, if_neg (by omega), hbyte]
  refine ⟨{ o.toOptionImpl with configuration := [] }, d₁.advance 1, ?_, hconf.symm, ?_⟩
  · rw [deserialize, Parse.bind_of_some hbase, Parse.get_bind, hone]
    have hitem : deserializeItem [] d₁ = (some [], d₁.advance 1) := by
      rw [deserializeItem, Parse.bind_of_some hread]
      rfl
    have hitems : deserializeItems 1 [] d₁ = (some [], d₁.advance 1) := by
      rw [deserializeItems, Parse.bind_of_some hitem, Parse.get_bind, remaining_advance, hone]
      rfl
    rw [Parse.bind_of_some hitems]
    rfl
  · rw [position_advance, hposition₁, hlength]
    rfl

end Main

/-- **A configuration option is read back** exactly if it has no items and nothing follows it in the
message, and its length has not been spoilt by items that were replaced: for every sequence of calls
of `add_item` and `remove_item` with items that fit into their length byte. -/
theorem readBack_iff (as : List ItemAction) (hfits : ∀ a ∈ as, a.Fits) (followers : List SdOption) :
    (Runs.run act create as).Codec followers ↔
      (Runs.run act create as).configuration = [] ∧ followers = [] ∧
        replacedAlong create as % 2 ^ 16 = 0 := by
  have h := consistent_create.run hfits
  rw [Nat.zero_add] at h
  have hlength (hnil : (Runs.run act create as).configuration = []) :
      (Runs.run act create as).length.toNat = (2 + replacedAlong create as) % 2 ^ 16 := by
    rw [h.length, hnil, UInt16.toNat_ofNat']
    rfl
  constructor
  · intro hcodec
    obtain ⟨hnil, hlast⟩ := h.eq_nil_of_codec hcodec
    refine ⟨hnil, hlast, ?_⟩
    obtain ⟨out, hout, hbytes, -⟩ := hcodec
    rw [serialize_eq] at hout
    obtain rfl := (Prod.mk.inj hout).2
    rw [length_bytes, hnil, hlength hnil] at hbytes
    change _ + 3 = 5 + 0 at hbytes
    omega
  · rintro ⟨hnil, rfl, hreplaced⟩
    refine codec_of_eq_nil h.type hnil (UInt16.toNat_inj.mp ?_)
    rw [hlength hnil]
    change _ = 2
    omega

/-- An item is added and removed again. -/
theorem readBack_iff_removed :
    (Runs.run act create [.addItem [0x6B] [0x31], .removeItem [0x6B]]).Codec [] :=
  (readBack_iff [.addItem [0x6B] [0x31], .removeItem [0x6B]]
    (List.forall_mem_cons.mpr ⟨by change 1 + 1 + 1 ≤ 255; decide,
      List.forall_mem_singleton.mpr trivial⟩) []).mpr ⟨by decide, rfl, by decide⟩

/-- **One item is not read back**: its value comes with 253 zeros. -/
theorem not_codec_item :
    ¬ ∀ as : List ItemAction, (∀ a ∈ as, a.Fits) → ∀ followers : List SdOption,
      (Runs.run act create as).Codec followers := by
  intro hall
  obtain ⟨out, hout, -, hdecode⟩ := hall [.addItem [0x6B] [0x31]]
    (List.forall_mem_singleton.mpr (by change 1 + 1 + 1 ≤ 255; decide)) []
  rw [serialize_eq] at hout
  obtain rfl := (Prod.mk.inj hout).2
  obtain ⟨o', d', hrun, hmap, -⟩ := hdecode
    (setData [0x00, 0x06, 0x01, 0x00, 0x03, 0x6B, 0x3D, 0x31, 0x00] fun _ => 0) rfl rfl
  have hread : (deserialize
      (setData [0x00, 0x06, 0x01, 0x00, 0x03, 0x6B, 0x3D, 0x31, 0x00] fun _ => 0)).1.map
        (fun o => o.configuration.map fun kv => kv.2.length) = some [254] := by decide +kernel
  rw [hrun, Option.map_some, hmap] at hread
  revert hread
  decide

end ConfigurationOptionImpl

end Vsomeip.Sd
