import Vsomeip.ServiceDiscovery.LengthField
import Vsomeip.ServiceDiscovery.RemoteOffers

set_option relaxedAutoImplicit false
set_option autoImplicit false

/-!
# Endpoint options of entries

`service_discovery_impl::insert_option` makes an entry refer to the option for an endpoint. If the
message has such an option, the entry refers to it, and else the option is created.

An entry is an object that its message points to. Here it is a value, which is put into its message
when it is complete; nothing reads the entries of the message before.

## Main definitions

* `Vsomeip.Sd.findExistingOption`, `Vsomeip.Sd.insertOption` — the functions of the source.
* `Vsomeip.Sd.EntryImpl.references` — the indices that an entry has on the wire.
* `Vsomeip.Sd.MessageImpl.contentSize` — the bytes of the entries and of the options.

## Main results

* `Vsomeip.Sd.insertOption_eq` — the option is added if it is new, and the entry gets its index.
* `Vsomeip.Sd.EntryImpl.references_assignOption_assignOption` — an entry refers to two options as well.
-/

namespace Vsomeip.Sd

/-! ## Options for addresses -/

namespace IpAddress

/-- `is_v6`. -/
def isV6 : IpAddress → Bool
  | v4 _ => false
  | v6 _ => true

/-- The type of an option with an address. -/
def optionType (isMulticast : Bool) : IpAddress → OptionType
  | v4 _ => if isMulticast then .ip4Multicast else .ip4Endpoint
  | v6 _ => if isMulticast then .ip6Multicast else .ip6Endpoint

/-- `VSOMEIP_SOMEIP_SD_IPV4_OPTION_SIZE` or `VSOMEIP_SOMEIP_SD_IPV6_OPTION_SIZE`. -/
def optionSize : IpAddress → ℕ
  | v4 _ => 12
  | v6 _ => 24

/-- `create_ipv4_option` or `create_ipv6_option`, and the setters that are called on the option. -/
def createOption (isMulticast : Bool) (protocol : LayerFourProtocol) (port : UInt16) :
    IpAddress → NewOption
  | v4 bytes => .ipv4 isMulticast bytes protocol port
  | v6 bytes => .ipv6 isMulticast bytes protocol port

/-- The option for an endpoint that has the address. -/
def endpointOption (address : IpAddress) (protocol : LayerFourProtocol) (port : UInt16) : SdOption :=
  (address.createOption false protocol port).create

/-- An endpoint option takes 24 bytes at most. -/
lemma optionSize_le (address : IpAddress) : address.optionSize ≤ 24 := by
  cases address with
  | v4 _ => exact Nat.le_of_ble_eq_true rfl
  | v6 _ => exact Nat.le_refl 24

/-- The bytes of an endpoint option are as many as its size says. -/
lemma length_endpointOption (address : IpAddress) (protocol : LayerFourProtocol) (port : UInt16) :
    (address.endpointOption protocol port).bytes.length = address.optionSize := by
  rw [endpointOption, NewOption.length_bytes]
  cases address <;> rfl

/-- Endpoint options of one address are equal if protocol and port are. -/
lemma endpointOption_inj {address : IpAddress} {protocol protocol' : LayerFourProtocol}
    {port port' : UInt16} : address.endpointOption protocol port = address.endpointOption protocol' port' ↔
      protocol = protocol' ∧ port = port' := by
  cases address <;> simp [endpointOption, createOption, NewOption.create]

end IpAddress

/-- The test of `find_existing_option`. The type and the length of an option determine its class. -/
def SdOption.isExisting (address : IpAddress) (port : UInt16) (protocol : LayerFourProtocol)
    (type : OptionType) (opt : SdOption) : Bool :=
  match address, opt with
  | .v4 bytes, .ipv4 o =>
    o.length == 0x9 && o.type == type && o.protocol == protocol && o.port == port && o.address == bytes
  | .v6 bytes, .ipv6 o =>
    o.length == 0x15 && o.type == type && o.protocol == protocol && o.port == port && o.address == bytes
  | _, _ => false

/-- `find_existing_option`, with the position of the option that is found. -/
def findExistingOption (options : List SdOption) (address : IpAddress) (port : UInt16)
    (protocol : LayerFourProtocol) (type : OptionType) : Option ℕ :=
  options.findIdx? (SdOption.isExisting address port protocol type)

/-- The protocol of an endpoint. -/
def layerFourProtocol (isReliable : Bool) : LayerFourProtocol :=
  if isReliable then .tcp else .udp

/-- `insert_option`, with the options of the message and the entry. -/
def insertOption (unicast : IpAddress) (options : List SdOption) (e : EntryImpl) (address : IpAddress)
    (port : UInt16) (isReliable : Bool) : List SdOption × EntryImpl :=
  let protocol := layerFourProtocol isReliable
  let isMulticast := decide (unicast ≠ address)
  match findExistingOption options address port protocol (address.optionType isMulticast) with
  | some i => (options, e.assignOption (UInt8.ofNat i))
  | none => (options ++ [(address.createOption isMulticast protocol port).create],
      e.assignOption (UInt8.ofNat options.length))

/-- An option is there behind the others, unless it is there already. -/
def addOption (options : List SdOption) (o : SdOption) : List SdOption :=
  if o ∈ options then options else options ++ [o]

/-- `runtime_impl::create_message`, but for the header. -/
def createMessage : MessageImpl := { MessageImpl.init with flags := 0x40 }

/-- The bytes of the entries and of the options. -/
def MessageImpl.contentSize (m : MessageImpl) : ℕ :=
  m.entries.length * sdEntrySize + (m.options.map fun o => o.bytes.length).sum

/-- The indices that an entry has on the wire: its runs are given by their first index and their
number. -/
def EntryImpl.references (e : EntryImpl) : List ℕ :=
  List.range' (e.options1.headD 0).toNat e.options1.length ++
    List.range' (e.options2.headD 0).toNat e.options2.length

/-! ## Finding options -/

section Options

variable {options : List SdOption} {o : SdOption}

/-- The test finds options that are like one that is created. -/
lemma isExisting_eq (address : IpAddress) (isMulticast : Bool) (protocol : LayerFourProtocol)
    (port : UInt16) (opt : SdOption) :
    opt.isExisting address port protocol (address.optionType isMulticast) =
      (opt == (address.createOption isMulticast protocol port).create) := by
  rw [Bool.eq_iff_iff, beq_iff_eq]
  cases address with
  | v4 bytes =>
    cases opt with
    | ipv4 o =>
      obtain ⟨⟨length, type⟩, bytes', protocol', port'⟩ := o
      simp only [SdOption.isExisting, IpAddress.createOption, NewOption.create, IpAddress.optionType,
        Bool.and_eq_true, beq_iff_eq, SdOption.ipv4.injEq, IpOptionImpl.mk.injEq, OptionImpl.mk.injEq,
        ipv4OptionLength]
      tauto
    | _ => exact iff_of_false Bool.false_ne_true fun h => SdOption.noConfusion h
  | v6 bytes =>
    cases opt with
    | ipv6 o =>
      obtain ⟨⟨length, type⟩, bytes', protocol', port'⟩ := o
      simp only [SdOption.isExisting, IpAddress.createOption, NewOption.create, IpAddress.optionType,
        Bool.and_eq_true, beq_iff_eq, SdOption.ipv6.injEq, IpOptionImpl.mk.injEq, OptionImpl.mk.injEq,
        ipv6OptionLength]
      tauto
    | _ => exact iff_of_false Bool.false_ne_true fun h => SdOption.noConfusion h

/-- The search for an option with these values is the search for the option that they make. -/
lemma findExistingOption_eq (options : List SdOption) (address : IpAddress) (isMulticast : Bool)
    (protocol : LayerFourProtocol) (port : UInt16) :
    findExistingOption options address port protocol (address.optionType isMulticast) =
      options.idxOf? (address.createOption isMulticast protocol port).create := by
  unfold findExistingOption List.idxOf?
  exact congrArg (options.findIdx? ·) (funext fun opt => isExisting_eq _ _ _ _ opt)

/-- The option for an endpoint is looked up. -/
lemma findExistingOption_isSome (options : List SdOption) (address : IpAddress)
    (protocol : LayerFourProtocol) (port : UInt16) :
    (findExistingOption options address port protocol (address.optionType false)).isSome ↔
      address.endpointOption protocol port ∈ options := by
  rw [findExistingOption_eq, List.isSome_idxOf?]
  rfl

/-- The option for an endpoint is added if it is new, and the entry gets its index. -/
lemma insertOption_eq (unicast : IpAddress) (options : List SdOption) (e : EntryImpl) (port : UInt16)
    (isReliable : Bool) : insertOption unicast options e unicast port isReliable =
      let o := unicast.endpointOption (layerFourProtocol isReliable) port
      (addOption options o, e.assignOption (UInt8.ofNat ((addOption options o).idxOf o))) := by
  have hunicast : decide (unicast ≠ unicast) = false := decide_eq_false (not_not_intro rfl)
  unfold insertOption
  dsimp only
  rw [hunicast, findExistingOption_eq]
  change (match options.idxOf? (unicast.endpointOption (layerFourProtocol isReliable) port) with
    | some i => _
    | none => (options ++ [unicast.endpointOption (layerFourProtocol isReliable) port], _)) = _
  generalize unicast.endpointOption (layerFourProtocol isReliable) port = o
  by_cases h : o ∈ options
  · rw [idxOf?_of_mem h, addOption, if_pos h]
  · rw [List.idxOf?_eq_none_iff.mpr h, addOption, if_neg h, List.idxOf_append_of_notMem h,
      List.idxOf_cons_self]
    rfl

/-- An option that is there is not added. -/
lemma addOption_of_mem (h : o ∈ options) : addOption options o = options := if_pos h

/-- An option is there after it is added. -/
lemma mem_addOption_self : o ∈ addOption options o := by
  unfold addOption
  split_ifs with h
  · exact h
  · exact List.mem_append_right _ (List.mem_singleton_self o)

/-- What is there after an option is added. -/
lemma mem_addOption_iff {o' : SdOption} : o' ∈ addOption options o ↔ o' ∈ options ∨ o' = o := by
  unfold addOption
  split_ifs with h
  · exact ⟨Or.inl, fun h' => h'.elim id fun heq => heq ▸ h⟩
  · rw [List.mem_append, List.mem_singleton]

/-- An option that is added does not move the others. -/
lemma prefix_addOption (options : List SdOption) (o : SdOption) : options <+: addOption options o := by
  unfold addOption
  split_ifs
  · exact List.prefix_rfl
  · exact List.prefix_append _ _

end Options

/-! ## The references of an entry -/

namespace EntryImpl

variable {e : EntryImpl} {i j : ℕ}

/-- An entry without options. -/
def Bare (e : EntryImpl) : Prop := e.options1 = [] ∧ e.options2 = []

/-- A bare entry references no option. -/
lemma Bare.references (h : e.Bare) : e.references = [] := by
  rw [EntryImpl.references, h.1, h.2]
  rfl

/-- The members of an entry that are not about options. -/
def identity (e : EntryImpl) : EntryType × UInt16 × UInt16 × UInt8 × UInt32 :=
  (e.type, e.service, e.instance_, e.majorVersion, e.ttl)

/-- The identity of an entry: its type, service, instance, major version and time to live. -/
lemma identity_inj {e e' : EntryImpl} : e.identity = e'.identity ↔
    e.type = e'.type ∧ e.service = e'.service ∧ e.instance_ = e'.instance_ ∧
      e.majorVersion = e'.majorVersion ∧ e.ttl = e'.ttl := by
  simp only [identity, Prod.mk.injEq]

/-- Assigning an option keeps the identity. -/
lemma identity_assignOption (e : EntryImpl) (index : UInt8) :
    (e.assignOption index).identity = e.identity := by
  unfold assignOption
  split_ifs <;> rfl

/-- The first option of an entry goes to its first run. -/
lemma assignOption_of_bare (h : e.Bare) (index : UInt8) :
    (e.assignOption index).options1 = [index] ∧ (e.assignOption index).options2 = [] := by
  have hjoin : canJoin e.options1 index = true := by rw [h.1]; rfl
  unfold assignOption
  rw [if_pos hjoin, h.1]
  exact ⟨List.mergeSort_singleton index, h.2⟩

/-- An index below 256 fits into its byte. -/
lemma toNat_index (hi : i < 256) : (UInt8.ofNat i).toNat = i := by
  rw [UInt8.toNat_ofNat', Nat.mod_eq_of_lt hi]

/-- An entry references the first option that it is assigned. -/
lemma references_assignOption (h : e.Bare) (hi : i < 256) :
    (e.assignOption (UInt8.ofNat i)).references = [i] := by
  obtain ⟨h1, h2⟩ := assignOption_of_bare h (UInt8.ofNat i)
  rw [EntryImpl.references, h1, h2, List.headD_cons, toNat_index hi]
  rfl

/-- Sorting two indices. -/
lemma mergeSort_pair (a b : UInt8) :
    [a, b].mergeSort (fun x y => decide (x ≤ y)) = if a ≤ b then [a, b] else [b, a] := by
  rw [List.mergeSort]
  simp [List.MergeSort.Internal.splitInTwo, List.merge]

/-- An index joins a run of one exactly if it is next to it. -/
lemma canJoin_singleton (hi : i < 256) (hj : j < 256) :
    canJoin [UInt8.ofNat i] (UInt8.ofNat j) = true ↔ i = j + 1 ∨ i + 1 = j := by
  rw [canJoin, Bool.or_eq_true, beq_iff_eq, beq_iff_eq, List.getLast_singleton, toNat_index hi,
    toNat_index hj]

/-- A second option is in the same run if it is a neighbour of the first one, and else in the second
run. -/
lemma references_assignOption_assignOption (h : e.Bare) (hi : i < 256) (hj : j < 256) (hij : i ≠ j) :
    ((e.assignOption (UInt8.ofNat i)).assignOption (UInt8.ofNat j)).references.Perm [i, j] := by
  obtain ⟨h1, h2⟩ := assignOption_of_bare h (UInt8.ofNat i)
  generalize e.assignOption (UInt8.ofNat i) = e' at h1 h2
  have hle : UInt8.ofNat i ≤ UInt8.ofNat j ↔ i ≤ j := by
    rw [UInt8.le_iff_toNat_le, toNat_index hi, toNat_index hj]
  by_cases hjoin : i = j + 1 ∨ i + 1 = j
  · have hstep : e'.assignOption (UInt8.ofNat j) = { e' with
        options1 := ([UInt8.ofNat i] ++ [UInt8.ofNat j]).mergeSort (fun a b => decide (a ≤ b))
        numOptions1 := e'.numOptions1 + 1 } := by
      unfold assignOption
      rw [h1, if_pos ((canJoin_singleton hi hj).mpr hjoin)]
    rw [hstep, EntryImpl.references, h2, List.singleton_append, mergeSort_pair]
    rcases hjoin with rfl | rfl
    · rw [if_neg (mt hle.mp (Nat.not_succ_le_self j)), List.headD_cons, toNat_index hj]
      exact List.Perm.swap _ _ _
    · rw [if_pos (hle.mpr (Nat.le_succ i)), List.headD_cons, toNat_index hi]
      exact List.Perm.refl _
  · have hstep : e'.assignOption (UInt8.ofNat j) = { e' with
        options2 := [UInt8.ofNat j].mergeSort (fun a b => decide (a ≤ b))
        numOptions2 := e'.numOptions2 + 1 } := by
      unfold assignOption
      rw [h1, if_neg (mt (canJoin_singleton hi hj).mp hjoin), h2]
      exact if_pos rfl
    rw [hstep, EntryImpl.references, h1, List.mergeSort_singleton, List.headD_cons, List.headD_cons,
      toNat_index hi, toNat_index hj]
    exact List.Perm.refl _

end EntryImpl

end Vsomeip.Sd
