import Vsomeip.ServiceDiscovery.ConfigurationOption

set_option relaxedAutoImplicit false
set_option autoImplicit false

/-!
# The length fields of a service discovery message

`message_impl::get_length` adds up the parts of a message from the sizes of its entries and the lengths
that its options keep. The length field of the options array is counted for every message, the one of
the entries array only when there is an entry, although `serialize` writes both of them always.

The lengths that options keep are right for all kinds but one: a configuration option keeps sixteen
bits, and an item that is replaced is not taken off.

## Main definitions

* `Vsomeip.Sd.ApiCall`, `Vsomeip.Sd.MessageImpl.act` — the calls that build a message.
* `Vsomeip.Sd.MessageImpl.LengthFields` — the length fields of a message count its bytes.
* `Vsomeip.Sd.Countable` — the calls that build such a message.

## Main results

* `Vsomeip.Sd.MessageImpl.lengthFields_iff` — when the length fields count the bytes of the message.
-/

namespace Vsomeip.Sd

open Serializer

/-! ## Messages built with the API -/

/-- A `create_…_option` of `message_impl` and the setters that are called on the option. -/
inductive NewOption
  | configuration (calls : List ItemAction)
  | ipv4 (isMulticast : Bool) (address : List.Vector UInt8 4) (protocol : LayerFourProtocol)
      (port : UInt16)
  | ipv6 (isMulticast : Bool) (address : List.Vector UInt8 16) (protocol : LayerFourProtocol)
      (port : UInt16)
  | loadBalancing (priority weight : UInt16)
  | protection (counter crc : UInt32)

/-- The option that is built. The constructors of the classes set the length and the type. -/
def NewOption.create : NewOption → SdOption
  | configuration calls =>
    .configuration (Runs.run ConfigurationOptionImpl.act ConfigurationOptionImpl.create calls)
  | ipv4 isMulticast address protocol port => .ipv4
    { length := ipv4OptionLength, type := if isMulticast then .ip4Multicast else .ip4Endpoint,
      address, protocol, port }
  | ipv6 isMulticast address protocol port => .ipv6
    { length := ipv6OptionLength, type := if isMulticast then .ip6Multicast else .ip6Endpoint,
      address, protocol, port }
  | loadBalancing priority weight => .loadBalancing
    { length := 1 + 2 + 2, type := .loadBalancing, priority, weight }
  | protection counter crc => .protection
    { length := 1 + 4 + 4, type := .protection, counter, crc }

/-- The calls that build a message. A call that creates an entry or an option stands for that call
and the setters that are called on the object, whatever else is created between them. -/
inductive ApiCall
  | setHeader (header : MessageHeaderImpl)
  | setRebootFlag (isSet : Bool)
  | setUnicastFlag (isSet : Bool)
  | createServiceEntry (e : ServiceentryImpl)
  | createEventgroupEntry (e : EventgroupentryImpl)
  | createOption (o : NewOption)

/-- The effect of a call on a message. -/
def MessageImpl.act (m : MessageImpl) : ApiCall → MessageImpl
  | .setHeader header => { m with header }
  | .setRebootFlag isSet =>
    { m with flags := if isSet then m.flags ||| 0x80 else m.flags &&& ~~~0x80 }
  | .setUnicastFlag isSet =>
    { m with flags := if isSet then m.flags ||| 0x40 else m.flags &&& ~~~0x40 }
  | .createServiceEntry e => { m with entries := m.entries ++ [.service e] }
  | .createEventgroupEntry e => { m with entries := m.entries ++ [.eventgroup e] }
  | .createOption o => { m with options := m.options ++ [o.create] }

/-- The entry that a call creates. -/
def ApiCall.entry : ApiCall → Option Entry
  | createServiceEntry e => some (.service e)
  | createEventgroupEntry e => some (.eventgroup e)
  | _ => none

/-- The option that a call creates. -/
def ApiCall.option : ApiCall → Option NewOption
  | createOption o => some o
  | _ => none

/-- The calls on the configuration option that is created. -/
def NewOption.itemCalls : NewOption → Option (List ItemAction)
  | configuration calls => some calls
  | _ => none

/-- The message that a sequence of calls builds. -/
def MessageImpl.build (calls : List ApiCall) : MessageImpl :=
  Runs.run MessageImpl.act MessageImpl.init calls

/-- What a call appends to the entries and to the options. -/
lemma MessageImpl.act_eq (m : MessageImpl) (c : ApiCall) :
    (m.act c).entries = m.entries ++ c.entry.toList ∧
      (m.act c).options = m.options ++ (c.option.map NewOption.create).toList := by
  cases c with
  | setHeader _ | setRebootFlag _ | setUnicastFlag _ =>
    exact ⟨(List.append_nil _).symm, (List.append_nil _).symm⟩
  | createServiceEntry e | createEventgroupEntry e => exact ⟨rfl, (List.append_nil _).symm⟩
  | createOption o => exact ⟨(List.append_nil _).symm, rfl⟩

/-- The entries and the options after some calls. -/
lemma MessageImpl.run_act (calls : List ApiCall) (m : MessageImpl) :
    (Runs.run MessageImpl.act m calls).entries = m.entries ++ calls.filterMap ApiCall.entry ∧
      (Runs.run MessageImpl.act m calls).options =
        m.options ++ (calls.filterMap ApiCall.option).map NewOption.create := by
  induction calls generalizing m with
  | nil => exact ⟨(List.append_nil _).symm, (List.append_nil _).symm⟩
  | cons c calls ih =>
    obtain ⟨hentries, hoptions⟩ := ih (m.act c)
    rw [(m.act_eq c).1, List.append_assoc] at hentries
    rw [(m.act_eq c).2, List.append_assoc] at hoptions
    refine ⟨hentries.trans ?_, hoptions.trans ?_⟩ <;> cases c <;> rfl

/-- The entries of a message are those that were created, in their order. -/
lemma MessageImpl.entries_build (calls : List ApiCall) :
    (build calls).entries = calls.filterMap ApiCall.entry := (run_act calls init).1

/-- The options of a message are those that were created, in their order. -/
lemma MessageImpl.options_build (calls : List ApiCall) :
    (build calls).options = (calls.filterMap ApiCall.option).map NewOption.create :=
  (run_act calls init).2

/-! ## The sizes of options -/

/-- The number that a configuration option keeps as its length after a sequence of calls. -/
def keptLength (calls : List ItemAction) : ℕ :=
  (2 + itemsSize (Runs.run ConfigurationOptionImpl.act .create calls).configuration +
    ConfigurationOptionImpl.replacedAlong .create calls) % 2 ^ 16

/-- The number of bytes of the items that are written, with the reserved byte in front of them. -/
def writtenLength (calls : List ItemAction) : ℕ :=
  1 + (1 + itemsSize (Runs.run ConfigurationOptionImpl.act .create calls).configuration) % 2 ^ 32

namespace NewOption

/-- The number of bytes of an option. -/
def size : NewOption → ℕ
  | configuration calls => 3 + writtenLength calls
  | ipv4 .. => 12
  | ipv6 .. => 24
  | loadBalancing .. => 8
  | protection .. => 12

/-- The bytes of an option are as many as its size says. -/
lemma length_bytes (o : NewOption) : o.create.bytes.length = o.size := by
  cases o with
  | configuration calls =>
    rw [create, ConfigurationOptionImpl.length_bytes, size, writtenLength]
    omega
  | ipv4 isMulticast address protocol port | ipv6 isMulticast address protocol port =>
    simp [create, SdOption.bytes, IpOptionImpl.bytes, OptionImpl.bytes, size]
  | loadBalancing priority weight | protection counter crc => rfl

/-- The length of an option counts its bytes but for the first three, unless the option is a
configuration option. -/
lemma toNat_length (o : NewOption) :
    o.create.base.length.toNat + 3 + (o.itemCalls.map writtenLength).getD 0 =
      o.size + (o.itemCalls.map keptLength).getD 0 := by
  cases o with
  | configuration calls =>
    have hlength := (@ConfigurationOptionImpl.Counts.run _ _ calls
      ConfigurationOptionImpl.consistent_create.counts).length
    have hkept : (create (configuration calls)).base.length.toNat = keptLength calls := by
      rw [create, SdOption.base, hlength, UInt16.toNat_ofNat', Nat.zero_add, keptLength]
    rw [hkept, itemCalls, size, Option.map_some, Option.map_some, Option.getD_some, Option.getD_some]
    omega
  | ipv4 isMulticast address protocol port | ipv6 isMulticast address protocol port
  | loadBalancing priority weight | protection counter crc => rfl

end NewOption

/-- The numbers of a list of options, added up. -/
lemma sum_length : ∀ options : List NewOption,
    (options.map fun o => o.create.base.length.toNat + 3).sum +
        ((options.filterMap NewOption.itemCalls).map writtenLength).sum =
      (options.map NewOption.size).sum +
        ((options.filterMap NewOption.itemCalls).map keptLength).sum
  | [] => rfl
  | o :: options => by
    have ho := o.toNat_length
    have hoptions := sum_length options
    cases hcalls : o.itemCalls with
    | none =>
      rw [hcalls] at ho
      rw [List.filterMap_cons_none hcalls, List.map_cons, List.map_cons, List.sum_cons, List.sum_cons]
      change _ + 3 + 0 = _ + 0 at ho
      omega
    | some calls =>
      rw [hcalls, Option.map_some, Option.map_some, Option.getD_some, Option.getD_some] at ho
      simp only [List.filterMap_cons_some hcalls, List.map_cons, List.sum_cons]
      omega

/-! ## The length fields -/

/-- A number that is found in the bytes. -/
lemma longAt_append (pre rest : List UInt8) (x : UInt32) :
    longAt (pre ++ (longByte3 x :: longByte2 x :: longByte1 x :: longByte0 x :: rest)) pre.length =
      x := by
  simp [longAt]

namespace MessageImpl

/-- **The length fields count the bytes of a message.** The message is written, `get_length` is the
number of bytes behind the length field, which stands behind service and method and has this number
as its value, and the two arrays have the number of their bytes in front of them. -/
def LengthFields (m : MessageImpl) : Prop :=
  ∃ out entries options, m.serialize [] = (some (), out) ∧
    m.entries.forM Entry.serialize [] = (some (), entries) ∧
    m.options.forM SdOption.serialize [] = (some (), options) ∧
    out.length = m.getLength.toNat + 8 ∧ longAt out 4 = m.getLength ∧
    (longAt out 20).toNat = entries.length ∧
    (longAt out (24 + entries.length)).toNat = options.length

/-- The length of the options, as the source sums it with 32 bits. -/
lemma toNat_foldl_length (os : List SdOption) (n : UInt32) :
    (os.foldl (fun n o => n + (o.base.length.toUInt32 + sdOptionHeaderSize)) n).toNat =
      (n.toNat + (os.map fun o => o.base.length.toNat + 3).sum) % 2 ^ 32 := by
  induction os generalizing n with
  | nil => exact (Nat.mod_eq_of_lt n.toNat_lt).symm
  | cons o os ih =>
    rw [List.foldl_cons, ih, UInt32.toNat_add, UInt32.toNat_add, UInt16.toNat_toUInt32, List.map_cons,
      List.sum_cons]
    change ((n.toNat + (o.base.length.toNat + 3) % 2 ^ 32) % 2 ^ 32 + _) % 2 ^ 32 = _
    omega

/-- The length field of the options array. -/
lemma toNat_optionsByteLength (calls : List ApiCall) :
    (build calls).optionsByteLength.toNat =
      ((calls.filterMap ApiCall.option).map fun o => o.create.base.length.toNat + 3).sum % 2 ^ 32 := by
  rw [optionsByteLength, toNat_foldl_length, options_build, List.map_map]
  exact congrArg (· % 2 ^ 32) (Nat.zero_add _)

/-- The number of bytes of the options array. -/
lemma length_options_build (calls : List ApiCall) :
    ((build calls).options.flatMap SdOption.bytes).length =
      ((calls.filterMap ApiCall.option).map NewOption.size).sum := by
  rw [options_build, List.length_flatMap, List.map_map]
  exact congrArg List.sum (List.map_congr_left fun o _ => o.length_bytes)

/-- The length field of the message. -/
lemma toNat_getLength (m : MessageImpl) : m.getLength.toNat =
    ((if m.entries = [] then 16 else 20 + 16 * m.entries.length) + m.optionsByteLength.toNat) %
      2 ^ 32 := by
  rw [getLength]
  by_cases hnil : m.entries = []
  · rw [if_neg (by simp [hnil]), if_pos hnil, UInt32.toNat_add]
    rfl
  · rw [if_pos (by simpa using hnil), if_neg hnil, UInt32.toNat_add, UInt32.toNat_add,
      UInt32.toNat_add, toNat_entriesLength]
    change (((16 + 16 * m.entries.length % 2 ^ 32) % 2 ^ 32 + 4) % 2 ^ 32 + _) % 2 ^ 32 = _
    omega

/-- The length fields of a message that can be written. -/
lemma lengthFields_iff_of_writes {m : MessageImpl}
    (h : ∀ e ∈ m.entries, Writes e.serialize e.bytes) : m.LengthFields ↔
      28 + (16 * m.entries.length + (m.options.flatMap SdOption.bytes).length) =
          m.getLength.toNat + 8 ∧
        m.entriesLength.toNat = 16 * m.entries.length ∧
        m.optionsByteLength.toNat = (m.options.flatMap SdOption.bytes).length := by
  have hout := writes_serialize h []
  have hentries := writes_forM h []
  have hoptions := @writes_forM _ _ _ m.options (fun o _ => o.writes_serialize) []
  rw [List.nil_append] at hout hentries hoptions
  have hlength := m.length_bytes
  have hfield : longAt m.bytes 4 = m.getLength := bytesToLong_longByte _
  have hentriesField : longAt m.bytes 20 = m.entriesLength := bytesToLong_longByte _
  have hoptionsField : longAt m.bytes (24 + (m.entries.flatMap Entry.bytes).length) =
      m.optionsByteLength := by
    have hpre : (m.preludeBytes ++ m.entries.flatMap Entry.bytes).length =
        24 + (m.entries.flatMap Entry.bytes).length := List.length_append
    rw [← hpre, bytes, ← List.append_assoc]
    exact longAt_append _ _ _
  constructor
  · rintro ⟨out, entries, options, hout', hentries', hoptions', htotal, -, he, ho⟩
    obtain rfl := (Prod.mk.inj (hout'.symm.trans hout)).2
    obtain rfl := (Prod.mk.inj (hentries'.symm.trans hentries)).2
    obtain rfl := (Prod.mk.inj (hoptions'.symm.trans hoptions)).2
    rw [hentriesField, length_flatMap_entries] at he
    rw [hoptionsField] at ho
    exact ⟨by omega, he, ho⟩
  · rintro ⟨htotal, he, ho⟩
    refine ⟨_, _, _, hout, hentries, hoptions, by omega, hfield, ?_, ?_⟩
    · rw [hentriesField, he, length_flatMap_entries]
    · rw [hoptionsField, ho]

/-- A message whose length fields count its bytes has only entries that can be written. -/
lemma LengthFields.writes {m : MessageImpl} (h : m.LengthFields) :
    ∀ e ∈ m.entries, Writes e.serialize e.bytes := by
  obtain ⟨-, entries, -, -, hentries, -⟩ := h
  intro e he
  cases e with
  | service e => exact e.writes_serialize
  | eventgroup e =>
    refine EventgroupentryImpl.writes_serialize (Nat.lt_of_not_le fun hcounter => ?_)
    have hnone := @forM_fst_eq_none _ Entry.serialize (.eventgroup e)
      (e.serialize_fst_eq_none hcounter) _ he []
    rw [hentries] at hnone
    cases hnone

end MessageImpl

/-! ## When they count the bytes -/

/-- **The calls that build a message whose length fields are right.** There is an entry, no counter
needs more than four bits, the bytes of the message can be counted in 32 bits, and what the
configuration options keep as their lengths adds up to the number of bytes of their items. -/
structure Countable (calls : List ApiCall) : Prop where
  entries : calls.filterMap ApiCall.entry ≠ []
  counters : ∀ e, ApiCall.createEventgroupEntry e ∈ calls → e.counter.toNat < 16
  size : 20 + 16 * (calls.filterMap ApiCall.entry).length +
    ((calls.filterMap ApiCall.option).map NewOption.size).sum < 2 ^ 32
  kept : (((calls.filterMap ApiCall.option).filterMap NewOption.itemCalls).map keptLength).sum %
      2 ^ 32 =
    (((calls.filterMap ApiCall.option).filterMap NewOption.itemCalls).map writtenLength).sum % 2 ^ 32

namespace MessageImpl

/-- The eventgroup entries of a message are those that were created. -/
lemma mem_entries_build {calls : List ApiCall} {e : EventgroupentryImpl} :
    Entry.eventgroup e ∈ (build calls).entries ↔ ApiCall.createEventgroupEntry e ∈ calls := by
  rw [entries_build, List.mem_filterMap]
  constructor
  · rintro ⟨c, hc, hentry⟩
    cases c <;> cases hentry
    exact hc
  · exact fun he => ⟨_, he, rfl⟩

/-- All entries of a message can be written exactly if no counter needs more than four bits. -/
lemma writes_build_iff {calls : List ApiCall} :
    (∀ e ∈ (build calls).entries, Writes e.serialize e.bytes) ↔
      ∀ e, ApiCall.createEventgroupEntry e ∈ calls → e.counter.toNat < 16 := by
  constructor
  · refine fun h e he => Nat.lt_of_not_le fun hcounter => ?_
    have hfail := e.serialize_fst_eq_none hcounter []
    have hwrites : e.serialize [] = _ := h _ (mem_entries_build.mpr he) []
    rw [hwrites] at hfail
    cases hfail
  · intro h e he
    cases e with
    | service e => exact e.writes_serialize
    | eventgroup e => exact EventgroupentryImpl.writes_serialize (h e (mem_entries_build.mp he))

/-- **The length fields of a message count its bytes** exactly if its calls are countable: for every
message built with the API of `message_impl`. -/
theorem lengthFields_iff (calls : List ApiCall) :
    (build calls).LengthFields ↔ Countable calls := by
  have hsum := sum_length (calls.filterMap ApiCall.option)
  have hoptions := toNat_optionsByteLength calls
  have hsize := length_options_build calls
  have hlength := toNat_getLength (build calls)
  have hmod := (build calls).toNat_entriesLength
  rw [entries_build] at hlength hmod
  constructor
  · intro h
    obtain ⟨htotal, hentries, hopts⟩ := (lengthFields_iff_of_writes h.writes).mp h
    rw [entries_build] at htotal hentries
    rw [hsize] at htotal hopts
    have hne : calls.filterMap ApiCall.entry ≠ [] := by
      intro hnil
      rw [if_pos hnil] at hlength
      rw [hnil] at htotal
      change 28 + (16 * 0 + _) = _ at htotal
      omega
    rw [if_neg hne] at hlength
    exact ⟨hne, writes_build_iff.mp h.writes, by omega, by omega⟩
  · rintro ⟨hne, hcounters, hfits, hkept⟩
    rw [lengthFields_iff_of_writes (writes_build_iff.mpr hcounters), entries_build, hsize]
    rw [if_neg hne] at hlength
    omega

/-- **A message without entries** has a length that is four too small. -/
theorem not_lengthFields_noEntries : ¬ ∀ calls : List ApiCall, (build calls).LengthFields := by
  intro hall
  obtain ⟨out, -, -, hout, -, -, hlength, -⟩ := hall [.setUnicastFlag true]
  have hbytes : out.length = 28 := by
    have hfst := congrArg (fun r => r.2.length) hout
    exact hfst.symm
  rw [hbytes] at hlength
  revert hlength
  decide

end MessageImpl

end Vsomeip.Sd
