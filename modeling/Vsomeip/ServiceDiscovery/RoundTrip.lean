import Vsomeip.ServiceDiscovery.Bounds
import Vsomeip.ServiceDiscovery.EntryCodec

set_option relaxedAutoImplicit false
set_option autoImplicit false

/-!
# Round trip of service discovery messages

A message built with the API of `message_impl` is recovered from the bytes that `serialize` writes:
the flags, the entries in their order, with both option runs, and the options in their order. The
length of the entries array is a 32-bit number of bytes, so this needs fewer than `2 ^ 28` entries.

## Main definitions

* `Vsomeip.Sd.SdOption.Built`, `Vsomeip.Sd.MessageImpl.Built` — options and messages built with
  the API.
* `Vsomeip.Sd.MessageImpl.RoundTrips` — a message is recovered from its bytes.

## Main results

* `Vsomeip.Sd.MessageImpl.Built.roundTrips` — built messages are recovered.
* `Vsomeip.Sd.MessageImpl.not_roundTrips_findEntries` — a message with `2 ^ 28` entries is not.
-/

namespace Vsomeip.Sd

open Deserializer Serializer

/-! ## Options -/

/-- The IP options that `create_ipv4_option`, `create_ipv6_option` and the setters build. -/
structure IpOptionImpl.Built {n : ℕ} (o : IpOptionImpl n) (optionLength : UInt16)
    (endpoint multicast : OptionType) : Prop where
  length : o.length = optionLength
  type : o.type = endpoint ∨ o.type = multicast

/-- The options that the API of `message_impl` builds, configuration options left out. -/
def SdOption.Built : SdOption → Prop
  | .ipv4 o => o.Built ipv4OptionLength .ip4Endpoint .ip4Multicast
  | .ipv6 o => o.Built ipv6OptionLength .ip6Endpoint .ip6Multicast
  | .loadBalancing o => o.length = 5 ∧ o.type = .loadBalancing
  | .protection o => o.length = 9 ∧ o.type = .protection
  | _ => False

/-- The bytes of the common part of an option. -/
def OptionImpl.bytes (o : OptionImpl) : List UInt8 :=
  [wordByte1 o.length, wordByte0 o.length, o.type.toByte, 0x00]

/-- The bytes of an IP option. -/
def IpOptionImpl.bytes {n : ℕ} (o : IpOptionImpl n) : List UInt8 :=
  o.toOptionImpl.bytes ++ (o.address.toList ++
    [0x00, o.protocol.toByte, wordByte1 o.port, wordByte0 o.port])

/-- The bytes of an option, for the classes that are read back. -/
def SdOption.bytes : SdOption → List UInt8
  | .plain o => o.bytes
  | .configuration o => o.toOptionImpl.bytes ++ o.writtenString
  | .loadBalancing o => o.toOptionImpl.bytes ++
      [wordByte1 o.priority, wordByte0 o.priority, wordByte1 o.weight, wordByte0 o.weight]
  | .protection o => o.toOptionImpl.bytes ++
      [longByte3 o.counter, longByte2 o.counter, longByte1 o.counter, longByte0 o.counter,
        longByte3 o.crc, longByte2 o.crc, longByte1 o.crc, longByte0 o.crc]
  | .ipv4 o => o.bytes
  | .ipv6 o => o.bytes

/-- What serializing the header of an option writes. -/
lemma OptionImpl.writes_serialize (o : OptionImpl) : Writes o.serialize o.bytes :=
  (writes_serialize16 _).bind <| (writes_serialize8 _).bind <| writes_serialize8 _

/-- What serializing an address option writes. -/
lemma IpOptionImpl.writes_serialize {n : ℕ} (o : IpOptionImpl n) : Writes o.serialize o.bytes :=
  o.toOptionImpl.writes_serialize.bind <| (writes_serializeBytes _).bind <|
    (writes_serialize8 _).bind <| (writes_serialize8 _).bind <| writes_serialize16 _

/-- What serializing an option writes. -/
lemma SdOption.writes_serialize (o : SdOption) : Writes o.serialize o.bytes := by
  cases o with
  | plain o => exact o.writes_serialize
  | configuration o => exact o.toOptionImpl.writes_serialize.bind <| writes_serializeBytes _
  | loadBalancing o =>
    exact o.toOptionImpl.writes_serialize.bind <| (writes_serialize16 _).bind <|
      writes_serialize16 _
  | protection o =>
    exact o.toOptionImpl.writes_serialize.bind <| (writes_serialize32 _).bind <|
      writes_serialize32 _
  | ipv4 o | ipv6 o => exact o.writes_serialize

/-- The length field of an option counts its bytes but for the length field and the type. -/
lemma SdOption.Built.length_bytes {o : SdOption} (h : o.Built) :
    o.bytes.length = o.base.length.toNat + 3 ∧ o.bytes.length ≤ 24 ∧ 8 ≤ o.bytes.length := by
  cases o with
  | plain o | configuration o => exact h.elim
  | loadBalancing o | protection o =>
    have hl := h.1
    simp [SdOption.bytes, OptionImpl.bytes, SdOption.base, hl]
  | ipv4 o | ipv6 o =>
    have hl := h.length
    simp [SdOption.bytes, IpOptionImpl.bytes, OptionImpl.bytes, SdOption.base, hl,
      ipv4OptionLength, ipv6OptionLength]

/-- The common part of an option of known type is recovered from its bytes. -/
lemma OptionImpl.decodes_deserialize {o : OptionImpl} (h : o.type ≠ .unknown) :
    Decodes OptionImpl.deserialize o.bytes o := by
  refine (decodes_deserialize16 _).bind <| (decodes_deserialize8 _).bind <|
    (decodes_deserialize8 _).bind ?_
  rw [OptionType.ofByte_toByte]
  obtain ⟨length, type⟩ := o
  cases type <;> first
    | exact absurd rfl h
    | exact Decodes.pure _

/-- An IP option of the right length is recovered from its bytes. -/
lemma IpOptionImpl.decodes_deserialize {n : ℕ} {o : IpOptionImpl n} {optionLength : UInt16}
    (ht : o.type ≠ .unknown) (hl : o.length = optionLength) :
    Decodes (IpOptionImpl.deserialize n optionLength) o.bytes o := by
  refine (OptionImpl.decodes_deserialize ht).attempt.bind <|
    (decodes_deserializeBytes o.address).attempt.bind <| (decodes_deserialize8 _).attempt.bind <|
    (decodes_deserialize8 o.protocol.toByte).attempt.bind <|
    (decodes_deserialize16 o.port).attempt.bind ?_
  simp only [hl, if_true, Option.getD_some, LayerFourProtocol.ofByte_toByte]
  obtain ⟨⟨length, type⟩, address, protocol, port⟩ := o
  cases hl
  exact Decodes.pure _

/-- An option built with the API is recovered from its bytes. -/
lemma SdOption.Built.decodes_deserializeOption {o : SdOption} (h : o.Built) :
    Decodes MessageImpl.deserializeOption o.bytes o := by
  cases o with
  | plain o | configuration o => exact h.elim
  | loadBalancing o =>
    refine Decodes.lookAhead (b := o.type.toByte) rfl ?_
    rw [h.2]
    have hbody : Decodes LoadBalancingOptionImpl.deserialize (SdOption.loadBalancing o).bytes o :=
      (OptionImpl.decodes_deserialize (by rw [h.2]; decide)).bind <|
        (decodes_deserialize16 _).bind <| (decodes_deserialize16 _).bind <| Decodes.pure _
    exact hbody.wrap _
  | protection o =>
    refine Decodes.lookAhead (b := o.type.toByte) rfl ?_
    rw [h.2]
    have hbody : Decodes ProtectionOptionImpl.deserialize (SdOption.protection o).bytes o :=
      (OptionImpl.decodes_deserialize (by rw [h.2]; decide)).bind <|
        (decodes_deserialize32 _).bind <| (decodes_deserialize32 _).bind <| Decodes.pure _
    exact hbody.wrap _
  | ipv4 o =>
    refine Decodes.lookAhead (b := o.type.toByte) rfl ?_
    obtain ⟨hl, ht⟩ := h
    have hbody : Decodes (IpOptionImpl.deserialize 4 ipv4OptionLength) o.bytes o :=
      IpOptionImpl.decodes_deserialize (by rcases ht with ht | ht <;> rw [ht] <;> decide) hl
    rcases ht with ht | ht <;> rw [ht] <;> exact hbody.wrap _
  | ipv6 o =>
    refine Decodes.lookAhead (b := o.type.toByte) rfl ?_
    obtain ⟨hl, ht⟩ := h
    have hbody : Decodes (IpOptionImpl.deserialize 16 ipv6OptionLength) o.bytes o :=
      IpOptionImpl.decodes_deserialize (by rcases ht with ht | ht <;> rw [ht] <;> decide) hl
    rcases ht with ht | ht <;> rw [ht] <;> exact hbody.wrap _

/-! ## Entries -/

/-- An entry built with the API is recovered from its bytes. -/
lemma Entry.Built.decodes_deserializeEntry {e : Entry} (h : e.Built) :
    Decodes MessageImpl.deserializeEntry e.bytes e.received := by
  cases e with
  | service e =>
    obtain ⟨hf, ht⟩ := h
    refine Decodes.lookAhead (b := e.type.toByte) rfl ?_
    simp only [EntryType.ofByte_toByte, if_pos ht]
    exact (ServiceentryImpl.decodes_deserialize hf).wrap _
  | eventgroup e =>
    obtain ⟨hf, ht, hc, hr⟩ := h
    have hs : ¬ e.type.isService := by
      rcases ht with ht | ht | ht | ht <;> rw [ht] <;> decide
    refine Decodes.lookAhead (b := e.type.toByte) rfl ?_
    simp only [EntryType.ofByte_toByte, if_neg hs, if_pos ht]
    exact (EventgroupentryImpl.decodes_deserialize hf hc hr).wrap _

/-- Two `SUBSCRIBE_EVENTGROUP` entries for the same eventgroup with the same options, which a
receiver takes for one. -/
def SameSubscription : Entry → Entry → Prop
  | .eventgroup e, .eventgroup f =>
    e.type = .subscribeEventgroup ∧ f.type = .subscribeEventgroup ∧ e.ttl = f.ttl ∧
      e.service = f.service ∧ e.instance_ = f.instance_ ∧ e.eventgroup = f.eventgroup ∧
      e.options1 = f.options1 ∧ e.options2 = f.options2 ∧ e.majorVersion = f.majorVersion ∧
      e.counter = f.counter
  | _, _ => False

/-- Runs with the same first index and the same length are the same. -/
lemma IsRun.eq_of_eq {r s : List UInt8} (hr : IsRun r) (hs : IsRun s) (hrl : r.length ≤ 15)
    (hsl : s.length ≤ 15) (hhead : r.headD 0 = s.headD 0)
    (hlen : UInt8.ofNat r.length = UInt8.ofNat s.length) : r = s := by
  rw [← hr.readRun_eq (by omega), ← hs.readRun_eq (by omega), hhead, hlen]

/-- Entries that the receiver takes for one are the same subscription. -/
lemma sameSubscription_of_received {e f : Entry} (he : e.Built) (hf : f.Built)
    (ht : f.base.type = .subscribeEventgroup)
    (h : MessageImpl.sameSubscribe e.received f.received = true) : SameSubscription e f := by
  cases e with
  | service e => cases f <;> exact absurd h (by simp [Entry.received, MessageImpl.sameSubscribe])
  | eventgroup e =>
    cases f with
    | service f => exact absurd h (by simp [Entry.received, MessageImpl.sameSubscribe])
    | eventgroup f =>
      simp only [Entry.received, MessageImpl.sameSubscribe, EventgroupentryImpl.equal,
        EntryImpl.received, Bool.and_eq_true, beq_iff_eq] at h
      obtain ⟨hte, ⟨⟨⟨⟨⟨⟨⟨⟨⟨h1, h2⟩, h3⟩, h4⟩, h5⟩, h6⟩, h7⟩, h8⟩, h9⟩, h10⟩⟩ := h
      obtain ⟨hr1, hr2⟩ := he.1.assigned.isRun
      obtain ⟨hs1, hs2⟩ := hf.1.assigned.isRun
      exact ⟨hte, ht, h1, h2, h3, h4, hr1.eq_of_eq hs1 he.1.options1 hf.1.options1 h5 h7,
        hr2.eq_of_eq hs2 he.1.options2 hf.1.options2 h6 h8, h9, h10⟩

/-- An entry that is not taken for one read before is appended. -/
lemma entries_addEntry {m : MessageImpl} {e : Entry}
    (h : e.base.type = .subscribeEventgroup →
      ∀ f ∈ m.entries, MessageImpl.sameSubscribe f e = false) :
    (m.addEntry e).entries = m.entries ++ [e] := by
  unfold MessageImpl.addEntry
  split_ifs with ht hany
  · obtain ⟨f, hf, hfe⟩ := List.any_eq_true.mp hany
    rw [h ht f hf] at hfe
    cases hfe
  all_goals rfl

/-- The entries do not touch the flags. -/
lemma flags_foldl_addEntry : ∀ (es : List Entry) (m : MessageImpl),
    (es.foldl MessageImpl.addEntry m).flags = m.flags
  | [], _ => rfl
  | e :: es, m => by
    rw [List.foldl_cons, flags_foldl_addEntry es]
    unfold MessageImpl.addEntry
    split_ifs <;> rfl

/-- Entries that are pairwise not taken for one are all appended. -/
lemma entries_foldl_addEntry : ∀ (es : List Entry) (m : MessageImpl),
    (m.entries ++ es).Pairwise (fun f e => e.base.type = .subscribeEventgroup →
      MessageImpl.sameSubscribe f e = false) →
    (es.foldl MessageImpl.addEntry m).entries = m.entries ++ es
  | [], m, _ => by simp
  | e :: es, m, h => by
    have hadd : (m.addEntry e).entries = m.entries ++ [e] := by
      refine entries_addEntry fun ht f hf => ?_
      exact (List.pairwise_append.mp h).2.2 f hf e List.mem_cons_self ht
    rw [List.foldl_cons, entries_foldl_addEntry es (m.addEntry e), hadd, List.append_assoc,
      List.singleton_append]
    rwa [hadd, List.append_assoc, List.singleton_append]

/-- The loop over the entries reads an array of entries to its end. -/
lemma entriesLoop_eq : ∀ (es : List Entry), (∀ e ∈ es, e.Built) →
    ∀ (fuel : ℕ) (m : MessageImpl) (d : Deserializer) (rest : List UInt8),
    d.data.drop d.position = es.flatMap Entry.bytes ++ rest → d.remaining = 16 * es.length →
    d.remaining ≤ fuel →
    ∃ d', MessageImpl.entriesLoop fuel m d =
        (some ((es.map Entry.received).foldl MessageImpl.addEntry m), d') ∧
      d'.data = d.data ∧ d'.position = d.position + 16 * es.length
  | [], _, fuel, m, d, _, _, hr, _ => ⟨d, entriesLoop_of_remaining_eq_zero hr fuel m, rfl, rfl⟩
  | e :: es, hes, fuel, m, d, rest, hd, hr, hfuel => by
    rw [List.length_cons] at hr
    obtain ⟨fuel, rfl⟩ : ∃ k, fuel = k + 1 := ⟨fuel - 1, by omega⟩
    rw [List.flatMap_cons, List.append_assoc] at hd
    obtain ⟨d₁, h₁, hdata₁, hpos₁, hrem₁⟩ :=
      (hes e List.mem_cons_self).decodes_deserializeEntry d _ hd (by rw [e.length_bytes]; omega)
    rw [e.length_bytes] at hpos₁ hrem₁
    have hd₁ : d₁.data.drop d₁.position = es.flatMap Entry.bytes ++ rest := by
      rw [hdata₁, hpos₁, ← List.drop_drop, hd, ← e.length_bytes, List.drop_left]
    obtain ⟨d', h', hdata', hpos'⟩ := entriesLoop_eq es
      (fun f hf => hes f (List.mem_cons_of_mem e hf)) fuel (m.addEntry e.received) d₁ rest hd₁
      (by omega) (by omega)
    refine ⟨d', ?_, hdata'.trans hdata₁, ?_⟩
    · rw [entriesLoop_of_some (by omega) h₁, h', List.map_cons, List.foldl_cons]
    · rw [hpos', hpos₁, List.length_cons]
      omega

/-- The loop over the options reads an array of options to its end. -/
lemma optionsLoop_eq : ∀ (os : List SdOption), (∀ o ∈ os, o.Built) →
    ∀ (fuel : ℕ) (options : List SdOption) (d : Deserializer) (rest : List UInt8),
    d.data.drop d.position = os.flatMap SdOption.bytes ++ rest →
    d.remaining = (os.flatMap SdOption.bytes).length → d.remaining ≤ fuel →
    ∃ d', MessageImpl.optionsLoop fuel options d = (some (options ++ os), d')
  | [], _, fuel, options, d, _, _, hr, _ =>
    ⟨d, by rw [optionsLoop_of_remaining_eq_zero hr, List.append_nil]⟩
  | o :: os, hos, fuel, options, d, rest, hd, hr, hfuel => by
    have ho := hos o List.mem_cons_self
    have hlen := ho.length_bytes.2.2
    rw [List.flatMap_cons, List.length_append] at hr
    obtain ⟨fuel, rfl⟩ : ∃ k, fuel = k + 1 := ⟨fuel - 1, by omega⟩
    rw [List.flatMap_cons, List.append_assoc] at hd
    obtain ⟨d₁, h₁, hdata₁, hpos₁, hrem₁⟩ := ho.decodes_deserializeOption d _ hd (by omega)
    have hd₁ : d₁.data.drop d₁.position = os.flatMap SdOption.bytes ++ rest := by
      rw [hdata₁, hpos₁, ← List.drop_drop, hd, List.drop_left]
    obtain ⟨d', h'⟩ := optionsLoop_eq os (fun p hp => hos p (List.mem_cons_of_mem o hp)) fuel
      (options ++ [o]) d₁ rest hd₁ (by omega) (by omega)
    exact ⟨d', by rw [optionsLoop_of_some (by omega) h₁, h', List.append_assoc,
      List.singleton_append]⟩

/-! ## Messages -/

namespace MessageImpl

/-- The messages built with the API of `message_impl`: any flags and header, entries and options
built with the API, at most 255 options, and no subscription twice. -/
structure Built (m : MessageImpl) : Prop where
  entries : ∀ e ∈ m.entries, e.Built
  options : ∀ o ∈ m.options, o.Built
  count : m.options.length ≤ 255
  distinct : m.entries.Pairwise (fun e f => ¬ SameSubscription e f)

/-- The bytes in front of the entries. -/
def preludeBytes (m : MessageImpl) : List UInt8 :=
  m.header.bytes m.getLength ++
    [m.flags, 0, 0, 0, longByte3 m.entriesLength, longByte2 m.entriesLength,
      longByte1 m.entriesLength, longByte0 m.entriesLength]

/-- The bytes of a message. -/
def bytes (m : MessageImpl) : List UInt8 :=
  m.preludeBytes ++ (m.entries.flatMap Entry.bytes ++
    ([longByte3 m.optionsByteLength, longByte2 m.optionsByteLength, longByte1 m.optionsByteLength,
      longByte0 m.optionsByteLength] ++ m.options.flatMap SdOption.bytes))

/-- The flags, the entries and the options of a message are recovered from the bytes that
`serialize` writes for it. An entry is received with its option runs and, beside them, their first
indices and lengths. -/
def RoundTrips (m : MessageImpl) : Prop :=
  ∃ out, m.serialize [] = (some (), out) ∧ ∀ stray, ∃ r, (deserializeSdMessage out stray).1 = some r ∧
    r.flags = m.flags ∧ r.entries = m.entries.map Entry.received ∧ r.options = m.options

/-- What serializing a message writes, if its entries can be written. -/
lemma writes_serialize {m : MessageImpl} (h : ∀ e ∈ m.entries, Writes e.serialize e.bytes) :
    Writes m.serialize m.bytes := by
  have hprelude : m.bytes = m.header.bytes m.getLength ++ ([m.flags] ++ ([0, 0, 0] ++
      ([longByte3 m.entriesLength, longByte2 m.entriesLength, longByte1 m.entriesLength,
        longByte0 m.entriesLength] ++ (m.entries.flatMap Entry.bytes ++
      ([longByte3 m.optionsByteLength, longByte2 m.optionsByteLength,
        longByte1 m.optionsByteLength, longByte0 m.optionsByteLength] ++
        m.options.flatMap SdOption.bytes))))) := by
    simp [bytes, preludeBytes]
  rw [hprelude]
  exact (m.header.writes_serialize _).bind <| (writes_serialize8 _).bind <|
    (writes_serialize24 0).bind <| (writes_serialize32 _).bind <|
    (writes_forM h).bind <| (writes_serialize32 _).bind <|
    writes_forM fun o _ => o.writes_serialize

/-- The message that a receiver holds before it reads the entries. -/
def start (m : MessageImpl) : MessageImpl :=
  { init with header := { m.header with length := m.getLength }, flags := m.flags }

/-- The fields in front of the entries are recovered. -/
lemma decodes_deserializePrelude (m : MessageImpl) :
    Decodes deserializePrelude m.preludeBytes (m.start, m.entriesLength) :=
  (m.header.decodes_deserialize _).bind <| (decodes_deserialize8 _).bind <|
    (decodes_deserialize24 (x := 0) (by decide)).bind <| (decodes_deserialize32 _).bind <|
    Decodes.pure _

/-- The options array of a built message takes at most 24 bytes for each option. -/
lemma length_flatMap_bytes_le : ∀ {os : List SdOption}, (∀ o ∈ os, o.Built) →
    (os.flatMap SdOption.bytes).length ≤ 24 * os.length
  | [], _ => le_rfl
  | o :: os, h => by
    have ho := (h o List.mem_cons_self).length_bytes.2.1
    have hos := length_flatMap_bytes_le fun p hp => h p (List.mem_cons_of_mem o hp)
    rw [List.flatMap_cons, List.length_append, List.length_cons]
    omega

/-- The length field of the options array is the number of its bytes. -/
lemma foldl_optionLength : ∀ {os : List SdOption}, (∀ o ∈ os, o.Built) → ∀ n : UInt32,
    os.foldl (fun n o => n + (o.base.length.toUInt32 + sdOptionHeaderSize)) n =
      n + UInt32.ofNat (os.flatMap SdOption.bytes).length
  | [], _, n => by simp
  | o :: os, h, n => by
    have ho := (h o List.mem_cons_self).length_bytes.1
    have hlen : o.base.length.toUInt32 + sdOptionHeaderSize = UInt32.ofNat o.bytes.length := by
      have hword := o.base.length.toNat_lt
      apply UInt32.toNat_inj.mp
      rw [ho, UInt32.toNat_add, UInt16.toNat_toUInt32, UInt32.toNat_ofNat']
      rfl
    rw [List.foldl_cons, foldl_optionLength (fun p hp => h p (List.mem_cons_of_mem o hp)),
      List.flatMap_cons, List.length_append, UInt32.ofNat_add, hlen, UInt32.add_assoc]

/-- The length of the options of a message that is built. -/
lemma Built.optionsByteLength_toNat {m : MessageImpl} (h : m.Built) :
    m.optionsByteLength.toNat = (m.options.flatMap SdOption.bytes).length := by
  have hle := length_flatMap_bytes_le h.options
  have hcount := h.count
  rw [optionsByteLength, foldl_optionLength h.options, UInt32.zero_add, UInt32.toNat_ofNat',
    Nat.mod_eq_of_lt (by omega)]

/-- The length field of the entries array. -/
lemma toNat_entriesLength (m : MessageImpl) :
    m.entriesLength.toNat = 16 * m.entries.length % 2 ^ 32 := by
  rw [entriesLength, UInt32.toNat_ofNat', sdEntrySize, Nat.mul_comm]

/-- The length field of the entries array, for a number of entries whose bytes can be counted in 32
bits. -/
lemma entriesLength_toNat {m : MessageImpl} (h : m.entries.length < 2 ^ 28) :
    m.entriesLength.toNat = 16 * m.entries.length := by
  rw [toNat_entriesLength, Nat.mod_eq_of_lt (by omega)]

/-- Entries take 16 bytes each. -/
lemma length_flatMap_entries (es : List Entry) :
    (es.flatMap Entry.bytes).length = 16 * es.length := by
  induction es with
  | nil => rfl
  | cons e es ih =>
    rw [List.flatMap_cons, List.length_append, ih, e.length_bytes, List.length_cons]
    omega

/-- The number of bytes of a message. -/
lemma length_bytes (m : MessageImpl) : m.bytes.length =
    24 + (16 * m.entries.length + (4 + (m.options.flatMap SdOption.bytes).length)) := by
  rw [bytes, List.length_append, List.length_append, List.length_append, length_flatMap_entries]
  rfl

/-- The receiver appends all entries of a built message. -/
lemma Built.entries_received {m : MessageImpl} (h : m.Built) (m₀ : MessageImpl)
    (h₀ : m₀.entries = []) :
    ((m.entries.map Entry.received).foldl addEntry m₀).entries =
      m.entries.map Entry.received := by
  rw [entries_foldl_addEntry, h₀, List.nil_append]
  rw [h₀, List.nil_append, List.pairwise_map]
  refine h.distinct.imp_of_mem fun {e f} he hf hne ht => ?_
  have ht' : f.base.type = .subscribeEventgroup := by cases f <;> exact ht
  by_contra hsame
  exact hne (sameSubscription_of_received (h.entries e he) (h.entries f hf) ht' (by simpa using hsame))

/-- Messages built with the API are recovered from their bytes, as long as the bytes of their
entries can be counted in 32 bits.

**Proof sketch.** The fields in front of the entries are recovered by `decodes_deserializePrelude`,
the entries by `entriesLoop_eq`, and no entry is taken for another one. What remains behind the
entries is the number of bytes of the options array and its length field, even when the message is
longer than `2 ^ 32` bytes, because the difference of the two 32-bit numbers is; so the options are
recovered by `optionsLoop_eq`. -/
theorem Built.roundTrips {m : MessageImpl} (h : m.Built) (hlen : m.entries.length < 2 ^ 28) :
    m.RoundTrips := by
  refine ⟨m.bytes, by
    simpa using writes_serialize (fun e he => (h.entries e he).writes_serialize) [], fun stray => ?_⟩
  have hn := m.length_bytes
  have hopt := length_flatMap_bytes_le h.options
  have hcount := h.count
  have hE := entriesLength_toNat hlen
  set d := setData m.bytes stray with hd
  obtain ⟨d₁, h₁, hdata₁, hpos₁, hrem₁⟩ := m.decodes_deserializePrelude d _
    (show m.bytes.drop 0 = m.preludeBytes ++ _ from rfl)
    (show m.preludeBytes.length ≤ m.bytes.length by simp [bytes])
  change d₁.data = m.bytes at hdata₁
  change d₁.position = 0 + 24 at hpos₁
  change d₁.remaining = m.bytes.length - 24 at hrem₁
  have hdrop₁ : d₁.data.drop d₁.position = m.entries.flatMap Entry.bytes ++
      ([longByte3 m.optionsByteLength, longByte2 m.optionsByteLength,
        longByte1 m.optionsByteLength, longByte0 m.optionsByteLength] ++
        m.options.flatMap SdOption.bytes) := by
    rw [hdata₁, hpos₁, show 0 + 24 = m.preludeBytes.length from rfl, bytes, List.drop_left]
  obtain ⟨d₂, h₂, hdata₂, hpos₂⟩ := entriesLoop_eq m.entries h.entries m.entriesLength.toNat
    m.start (d₁.setRemaining m.entriesLength.toNat) _ hdrop₁ hE le_rfl
  change d₂.data = d₁.data at hdata₂
  change d₂.position = d₁.position + _ at hpos₂
  have hentries := deserializeEntries_of_some h₁
  rw [h₂] at hentries
  have hrest : (UInt32.ofNat d₁.remaining - m.entriesLength).toNat =
      4 + (m.options.flatMap SdOption.bytes).length := by
    rw [hrem₁, UInt32.toNat_sub, UInt32.toNat_ofNat', hE, hn]
    omega
  rw [hrest] at hentries
  have hdrop₂ : d₂.data.drop d₂.position = [longByte3 m.optionsByteLength,
      longByte2 m.optionsByteLength, longByte1 m.optionsByteLength,
      longByte0 m.optionsByteLength] ++ m.options.flatMap SdOption.bytes := by
    rw [hdata₂, hpos₂, ← List.drop_drop, hdrop₁, ← length_flatMap_entries, List.drop_left]
  obtain ⟨d₃, h₃, hdata₃, hpos₃, hrem₃⟩ := decodes_deserialize32 m.optionsByteLength
    (d₂.setRemaining (4 + (m.options.flatMap SdOption.bytes).length)) _ hdrop₂
    (show 4 ≤ 4 + _ by omega)
  change d₃.data = d₂.data at hdata₃
  change d₃.position = d₂.position + 4 at hpos₃
  change d₃.remaining = 4 + _ - 4 at hrem₃
  have hmin : min d₃.remaining ((some m.optionsByteLength).getD 0).toNat =
      (m.options.flatMap SdOption.bytes).length := by
    rw [Option.getD_some, h.optionsByteLength_toNat]
    omega
  have hdrop₃ : d₃.data.drop d₃.position = m.options.flatMap SdOption.bytes ++ [] := by
    rw [hdata₃, hpos₃, ← List.drop_drop, hdrop₂, List.append_nil]
    rfl
  obtain ⟨d₄, h₄⟩ := optionsLoop_eq m.options h.options _ []
    (d₃.setRemaining (m.options.flatMap SdOption.bytes).length) [] hdrop₃ rfl le_rfl
  rw [remaining_setRemaining, ← hmin, List.nil_append] at h₄
  set m₂ := (m.entries.map Entry.received).foldl addEntry m.start with hm₂
  have hresult := deserializeOptions_eq (some m₂) (show 0 < 4 + _ by omega) h₃ h₄
  refine ⟨{ m₂ with optionsLength := m.optionsByteLength, options := m.options }, ?_, ?_, ?_, rfl⟩
  · have hrun : deserializeSdMessage m.bytes stray = MessageImpl.deserialize d := rfl
    rw [hrun, MessageImpl.deserialize, Parse.bind_of_some hentries, hresult]
  · exact flags_foldl_addEntry _ _
  · exact h.entries_received _ rfl

/-- A message that subscribes to an eventgroup with an IPv4 endpoint option. -/
def subscription : MessageImpl :=
  { init with
    flags := 0xC0
    entries := [.eventgroup
      { ({ EntryImpl.init with
            type := .subscribeEventgroup, service := 0x1234, instance_ := 0x5678,
            majorVersion := 1, ttl := 3 } : EntryImpl).assignOption 0 with
        eventgroup := 0x4465, reserved := 0, counter := 0 }]
    options := [.ipv4
      { length := 9, type := .ip4Endpoint, address := ⟨[10, 0, 3, 1], rfl⟩, protocol := .udp,
        port := 30509 }] }

/-- The subscription of the example is built. -/
lemma built_subscription : subscription.Built where
  entries := by
    intro e he
    rw [List.mem_singleton.mp he]
    exact ⟨⟨.assignOption _ 0 (.set _ _ _ _ _ _ .init), by decide,
      by simp [EntryImpl.assignOption, EntryImpl.canJoin, EntryImpl.init],
      by simp [EntryImpl.assignOption, EntryImpl.canJoin, EntryImpl.init]⟩,
      by decide, by decide, by decide⟩
  options := by
    intro o ho
    rw [List.mem_singleton.mp ho]
    exact ⟨rfl, Or.inl rfl⟩
  count := by decide
  distinct := List.pairwise_singleton _ _

/-- The subscription is recovered from its bytes. -/
theorem roundTrips_subscription : subscription.RoundTrips :=
  built_subscription.roundTrips (by decide)

/-! ### Too many entries -/

/-- Behind the entries no entry is added. -/
lemma entries_deserializeOptions {m r : MessageImpl} {d : Deserializer}
    (h : (deserializeOptions (some m) d).1 = some r) : r.entries = m.entries := by
  rcases Nat.eq_zero_or_pos d.remaining with hz | hz
  · rw [deserializeOptions, Parse.get_bind, if_pos hz] at h
    cases h
    rfl
  · rcases hl : deserialize32 false d with ⟨length, d₁⟩
    obtain ⟨options, d₂, ho⟩ := optionsLoop_eq_some (min d₁.remaining (length.getD 0).toNat) []
      (d₁.setRemaining (min d₁.remaining (length.getD 0).toNat))
    rw [deserializeOptions_eq (some m) hz hl ho] at h
    cases length <;> cases h
    rfl

/-- A message whose entries array has the length zero in 32 bits is received without entries. -/
lemma not_roundTrips_of_entriesLength_eq_zero {m : MessageImpl} (h : ∀ e ∈ m.entries, e.Built)
    (hlen : m.entriesLength = 0) (hne : m.entries ≠ []) : ¬ m.RoundTrips := by
  rintro ⟨out, hout, hr⟩
  have hbytes : out = m.bytes := by
    have hw := writes_serialize (fun e he => (h e he).writes_serialize) []
    rw [hout] at hw
    simpa using congrArg Prod.snd hw
  subst hbytes
  obtain ⟨r, hr, -, hentries, -⟩ := hr (fun _ => 0)
  set d := setData m.bytes (fun _ => 0) with hd
  obtain ⟨d₁, h₁, -⟩ := m.decodes_deserializePrelude d _
    (show m.bytes.drop 0 = m.preludeBytes ++ _ from rfl)
    (show m.preludeBytes.length ≤ m.bytes.length by simp [bytes])
  rw [hlen] at h₁
  have hrun : deserializeSdMessage m.bytes (fun _ => 0) = MessageImpl.deserialize d := rfl
  rw [hrun, MessageImpl.deserialize, Parse.bind_of_some (deserializeEntries_of_some h₁)] at hr
  have hnil : r.entries = [] := entries_deserializeOptions hr
  rw [hnil] at hentries
  exact hne (List.map_eq_nil_iff.mp hentries.symm)

/-- A message with `n` entries that look for any service. -/
def findEntries (n : ℕ) : MessageImpl :=
  { init with
    entries := List.replicate n (.service
      { ({ EntryImpl.init with type := .findService, service := 0xFFFF } : EntryImpl) with
        minorVersion := 0 }) }

/-- A message of find entries is built. -/
lemma built_findEntries (n : ℕ) : (findEntries n).Built where
  entries := by
    intro e he
    rw [List.eq_of_mem_replicate he]
    exact ⟨⟨.set _ _ _ _ _ _ .init, by decide, by decide, by decide⟩, by decide⟩
  options := fun o ho => absurd ho List.not_mem_nil
  count := Nat.zero_le _
  distinct := List.pairwise_replicate.mpr (Or.inr id)

/-- A message whose length of entries wraps to zero is not read back. -/
lemma not_roundTrips_of_dvd {n : ℕ} (h0 : n ≠ 0) (h : 2 ^ 32 ∣ n * 16) :
    ¬ (findEntries n).RoundTrips := by
  have hlen : (findEntries n).entries.length = n := List.length_replicate
  refine not_roundTrips_of_entriesLength_eq_zero (built_findEntries n).entries ?_ ?_
  · apply UInt32.toNat_inj.mp
    rw [entriesLength, hlen, UInt32.toNat_ofNat', sdEntrySize, Nat.mod_eq_zero_of_dvd h]
    rfl
  · intro hnil
    rw [hnil] at hlen
    exact h0 hlen.symm

/-- A message with `2 ^ 28` entries is built with the API and not recovered: the length of its
entries array is `2 ^ 32`, which is zero in 32 bits. -/
theorem not_roundTrips_findEntries :
    (findEntries (2 ^ 28)).Built ∧ ¬ (findEntries (2 ^ 28)).RoundTrips :=
  ⟨built_findEntries _, not_roundTrips_of_dvd (by omega) (by omega)⟩

end MessageImpl

end Vsomeip.Sd
