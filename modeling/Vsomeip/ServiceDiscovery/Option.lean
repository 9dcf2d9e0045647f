import Vsomeip.Message.Deserializer
import Vsomeip.Message.Serializer

set_option relaxedAutoImplicit false
set_option autoImplicit false

/-!
# Service discovery options

The options of an SD message (`option_impl.cpp` and its subclasses under
`service_discovery/src`). Every option starts with a length field, a type byte and a reserved
byte; the length does not count the length field and the type byte.

The decoders differ in what they do when bytes are missing. The load balancing and the protection
option stop and fail. The IP options go on after a failed read and leave the member at its initial
value; whether they succeed is decided by their first four bytes. The configuration option reads
items until nothing remains.

## Main definitions

* `Vsomeip.Sd.OptionImpl`, `IpOptionImpl`, `LoadBalancingOptionImpl`, `ProtectionOptionImpl`,
  `ConfigurationOptionImpl`, `SdOption` — the options.
* `Vsomeip.Sd.OptionImpl.deserialize`, … — the decoders.
* `Vsomeip.Sd.SdOption.serialize` — the encoder of each class.
-/

namespace Vsomeip.Sd

open Deserializer Serializer

/-- `option_type_e`. -/
inductive OptionType
  | configuration
  | loadBalancing
  | protection
  | ip4Endpoint
  | ip6Endpoint
  | ip4Multicast
  | ip6Multicast
  | unknown
deriving DecidableEq, Repr

namespace OptionType

/-- The byte of a type on the wire. -/
def toByte : OptionType → UInt8
  | configuration => 0x01
  | loadBalancing => 0x02
  | protection => 0x03
  | ip4Endpoint => 0x04
  | ip6Endpoint => 0x06
  | ip4Multicast => 0x14
  | ip6Multicast => 0x16
  | unknown => 0xFF

/-- The type of a byte; bytes without a named type count as unknown. -/
def ofByte (b : UInt8) : OptionType :=
  if b = 0x01 then configuration
  else if b = 0x02 then loadBalancing
  else if b = 0x03 then protection
  else if b = 0x04 then ip4Endpoint
  else if b = 0x06 then ip6Endpoint
  else if b = 0x14 then ip4Multicast
  else if b = 0x16 then ip6Multicast
  else unknown

/-- A type of option is read back from its byte. -/
@[simp] lemma ofByte_toByte (t : OptionType) : ofByte t.toByte = t := by cases t <;> rfl

end OptionType

/-- `layer_four_protocol_e`. -/
inductive LayerFourProtocol
  | tcp
  | udp
  | unknown
deriving DecidableEq, Repr

namespace LayerFourProtocol

/-- The byte of a protocol on the wire. -/
def toByte : LayerFourProtocol → UInt8
  | tcp => 0x06
  | udp => 0x11
  | unknown => 0xFF

/-- The protocol of a byte, as the switch of the IP option decoders reads it. -/
def ofByte (b : UInt8) : LayerFourProtocol :=
  if b = 0x06 then tcp else if b = 0x11 then udp else unknown

/-- A protocol is read back from its byte. -/
@[simp] lemma ofByte_toByte (p : LayerFourProtocol) : ofByte p.toByte = p := by cases p <;> rfl

end LayerFourProtocol

/-- `option_impl`. -/
structure OptionImpl where
  length : UInt16
  type : OptionType
deriving DecidableEq

/-- `ip_option_impl` with the address of its subclass: `ipv4_option_impl` has an address of four
bytes, `ipv6_option_impl` one of sixteen. -/
structure IpOptionImpl (n : ℕ) extends OptionImpl where
  address : List.Vector UInt8 n
  protocol : LayerFourProtocol
  port : UInt16
deriving DecidableEq

/-- `load_balancing_option_impl`. -/
structure LoadBalancingOptionImpl extends OptionImpl where
  priority : UInt16
  weight : UInt16
deriving DecidableEq

/-- `protection_option_impl`. -/
structure ProtectionOptionImpl extends OptionImpl where
  counter : UInt32
  crc : UInt32
deriving DecidableEq

/-- `configuration_option_impl`; the map from keys to values is kept as the list of its entries in
the order of the keys. -/
structure ConfigurationOptionImpl extends OptionImpl where
  configuration : List (List UInt8 × List UInt8)
deriving DecidableEq

/-- An option of a message, by its class. -/
inductive SdOption
  | plain (o : OptionImpl)
  | configuration (o : ConfigurationOptionImpl)
  | loadBalancing (o : LoadBalancingOptionImpl)
  | protection (o : ProtectionOptionImpl)
  | ipv4 (o : IpOptionImpl 4)
  | ipv6 (o : IpOptionImpl 16)
deriving DecidableEq

/-- The members common to all options. -/
def SdOption.base : SdOption → OptionImpl
  | .plain o => o
  | .configuration o => o.toOptionImpl
  | .loadBalancing o => o.toOptionImpl
  | .protection o => o.toOptionImpl
  | .ipv4 o => o.toOptionImpl
  | .ipv6 o => o.toOptionImpl

/-! ## Encoders -/

/-- `option_impl::serialize`. -/
def OptionImpl.serialize (o : OptionImpl) : Serializer := do
  serialize16 o.length
  serialize8 o.type.toByte
  serialize8 0x00

/-- `ipv4_option_impl::serialize` and `ipv6_option_impl::serialize`. -/
def IpOptionImpl.serialize {n : ℕ} (o : IpOptionImpl n) : Serializer := do
  o.toOptionImpl.serialize
  serializeBytes o.address.toList
  serialize8 0x00
  serialize8 o.protocol.toByte
  serialize16 o.port

/-- `load_balancing_option_impl::serialize`. -/
def LoadBalancingOptionImpl.serialize (o : LoadBalancingOptionImpl) : Serializer := do
  o.toOptionImpl.serialize
  serialize16 o.priority
  serialize16 o.weight

/-- `protection_option_impl::serialize`. -/
def ProtectionOptionImpl.serialize (o : ProtectionOptionImpl) : Serializer := do
  o.toOptionImpl.serialize
  serialize32 o.counter false
  serialize32 o.crc false

/-- The item string of `configuration_option_impl::serialize`: each entry with its length byte,
and a trailing zero. -/
def ConfigurationOptionImpl.configurationString (o : ConfigurationOptionImpl) : List UInt8 :=
  o.configuration.flatMap (fun kv =>
    UInt8.ofNat (1 + kv.1.length + kv.2.length) :: (kv.1 ++ 0x3D :: kv.2)) ++ [0x00]

/-- The part of the item string that is written: its length is handed on in 32 bits. -/
def ConfigurationOptionImpl.writtenString (o : ConfigurationOptionImpl) : List UInt8 :=
  o.configurationString.take (UInt32.ofNat o.configurationString.length).toNat

/-- `configuration_option_impl::serialize`. -/
def ConfigurationOptionImpl.serialize (o : ConfigurationOptionImpl) : Serializer := do
  o.toOptionImpl.serialize
  serializeBytes o.writtenString

/-- The `serialize` of an option's class. -/
def SdOption.serialize : SdOption → Serializer
  | .plain o => o.serialize
  | .configuration o => o.serialize
  | .loadBalancing o => o.serialize
  | .protection o => o.serialize
  | .ipv4 o => o.serialize
  | .ipv6 o => o.serialize

/-! ## Decoders -/

/-- `option_impl::deserialize`: an unknown type drops the rest of the message. -/
def OptionImpl.deserialize : Parse Deserializer OptionImpl := do
  let length ← deserialize16
  let itsType ← deserialize8
  let _reserved ← deserialize8
  match OptionType.ofByte itsType with
  | .unknown =>
    Parse.modify (·.setRemaining 0)
    pure { length, type := .unknown }
  | type => pure { length, type }

/-- The common body of `ipv4_option_impl::deserialize` and `ipv6_option_impl::deserialize`: the
reads behind the first four bytes are tried one after the other, and a member whose read fails
keeps its initial value. -/
def IpOptionImpl.deserialize (n : ℕ) (optionLength : UInt16) :
    Parse Deserializer (IpOptionImpl n) := do
  let base ← Parse.attempt OptionImpl.deserialize
  let address ← Parse.attempt (deserializeBytes n)
  let reserved1 ← Parse.attempt deserialize8
  let reserved2 ← Parse.attempt deserialize8
  let port ← Parse.attempt deserialize16
  match base with
  | some base =>
    if base.length = optionLength then
      pure { base with
        address := address.getD (List.Vector.replicate n 0)
        protocol := LayerFourProtocol.ofByte (reserved2.getD (reserved1.getD 0xFF))
        port := port.getD 0xFFFF }
    else Parse.fail
  | none => Parse.fail

/-- `VSOMEIP_SD_IPV4_OPTION_LENGTH`. -/
def ipv4OptionLength : UInt16 := 0x0009

/-- `VSOMEIP_SD_IPV6_OPTION_LENGTH`. -/
def ipv6OptionLength : UInt16 := 0x0015

/-- `load_balancing_option_impl::deserialize`. -/
def LoadBalancingOptionImpl.deserialize : Parse Deserializer LoadBalancingOptionImpl := do
  let base ← OptionImpl.deserialize
  let priority ← deserialize16
  let weight ← deserialize16
  pure { base with priority, weight }

/-- `protection_option_impl::deserialize`. -/
def ProtectionOptionImpl.deserialize : Parse Deserializer ProtectionOptionImpl := do
  let base ← OptionImpl.deserialize
  let counter ← deserialize32 false
  let crc ← deserialize32 false
  pure { base with counter, crc }

/-- The key and the value in an item: the item is held in a string of 256 characters filled up
with zeros, the key ends at the first `=`, and the value is what follows it up to the end of the
string. -/
def ConfigurationOptionImpl.splitItem (item : List UInt8) : List UInt8 × List UInt8 :=
  let l := item ++ List.replicate (256 - item.length) 0
  let eqPos := l.findIdx (· == 0x3D)
  (l.take eqPos, l.drop (eqPos + 1))

/-- The assignment `configuration_[key] = value` for a key that is not in the map yet. -/
def ConfigurationOptionImpl.insertItem (key value : List UInt8) :
    List (List UInt8 × List UInt8) → List (List UInt8 × List UInt8)
  | [] => [(key, value)]
  | kv :: rest =>
    if key < kv.1 then (key, value) :: kv :: rest else kv :: insertItem key value rest

/-- A round of the loop of `configuration_option_impl::deserialize` behind the length byte of its
item: an item of length zero is skipped, and a key that was seen before is an error. -/
def ConfigurationOptionImpl.addItem (configuration : List (List UInt8 × List UInt8))
    (itemLength : UInt8) : Parse Deserializer (List (List UInt8 × List UInt8)) :=
  if itemLength > 0 then do
    let item ← deserializeBytes itemLength.toNat
    let (key, value) := splitItem item.toList
    if configuration.any (fun kv => kv.1 == key) then Parse.fail
    else pure (insertItem key value configuration)
  else pure configuration

/-- One round of the loop of `configuration_option_impl::deserialize`. -/
def ConfigurationOptionImpl.deserializeItem (configuration : List (List UInt8 × List UInt8)) :
    Parse Deserializer (List (List UInt8 × List UInt8)) := do
  let itemLength ← deserialize8
  addItem configuration itemLength

/-- The loop of `configuration_option_impl::deserialize`: its body runs once, and again as long as
it succeeds and bytes remain. Every round reads at least one byte, so the number of remaining bytes
bounds the number of rounds. -/
def ConfigurationOptionImpl.deserializeItems :
    ℕ → List (List UInt8 × List UInt8) → Parse Deserializer (List (List UInt8 × List UInt8))
  | 0, configuration => deserializeItem configuration
  | fuel + 1, configuration => do
    let configuration ← deserializeItem configuration
    let d ← Parse.get
    if d.remaining > 0 then deserializeItems fuel configuration else pure configuration

/-- `configuration_option_impl::deserialize`. -/
def ConfigurationOptionImpl.deserialize : Parse Deserializer ConfigurationOptionImpl := do
  let base ← OptionImpl.deserialize
  let d ← Parse.get
  let configuration ← ConfigurationOptionImpl.deserializeItems d.remaining []
  pure { base with configuration }

/-! ## What the decoders keep -/

section Keeps

variable {I : Deserializer → Prop} (hI : AdvanceStable I)

include hI

/-- Reading the header of an option keeps the property. -/
lemma OptionImpl.keeps_deserialize : Parse.Keeps I OptionImpl.deserialize := by
  refine (keeps_deserialize16 hI).bind fun _ => (keeps_deserialize8 hI).bind fun t =>
    (keeps_deserialize8 hI).bind fun _ => ?_
  cases OptionType.ofByte t with
  | unknown => exact (Parse.Keeps.modify hI.giveUp).bind fun _ => Parse.Keeps.pure _
  | _ => exact Parse.Keeps.pure _

/-- Reading an address option keeps the property. -/
lemma IpOptionImpl.keeps_deserialize (n : ℕ) (optionLength : UInt16) :
    Parse.Keeps I (IpOptionImpl.deserialize n optionLength) := by
  refine (OptionImpl.keeps_deserialize hI).attempt.bind fun base =>
    (keeps_deserializeBytes hI n).attempt.bind fun _ => (keeps_deserialize8 hI).attempt.bind fun _ =>
    (keeps_deserialize8 hI).attempt.bind fun _ => (keeps_deserialize16 hI).attempt.bind fun _ => ?_
  cases base with
  | none => exact Parse.Keeps.fail
  | some base =>
    dsimp only
    split_ifs
    · exact Parse.Keeps.pure _
    · exact Parse.Keeps.fail

/-- Reading a load balancing option keeps the property. -/
lemma LoadBalancingOptionImpl.keeps_deserialize :
    Parse.Keeps I LoadBalancingOptionImpl.deserialize :=
  (OptionImpl.keeps_deserialize hI).bind fun _ => (keeps_deserialize16 hI).bind fun _ =>
    (keeps_deserialize16 hI).bind fun _ => Parse.Keeps.pure _

/-- Reading a protection option keeps the property. -/
lemma ProtectionOptionImpl.keeps_deserialize : Parse.Keeps I ProtectionOptionImpl.deserialize :=
  (OptionImpl.keeps_deserialize hI).bind fun _ => (keeps_deserialize32 hI false).bind fun _ =>
    (keeps_deserialize32 hI false).bind fun _ => Parse.Keeps.pure _

/-- Reading an item keeps the property. -/
lemma ConfigurationOptionImpl.keeps_addItem (conf : List (List UInt8 × List UInt8))
    (itemLength : UInt8) : Parse.Keeps I (ConfigurationOptionImpl.addItem conf itemLength) := by
  unfold ConfigurationOptionImpl.addItem
  split_ifs
  · refine (keeps_deserializeBytes hI _).bind fun item => ?_
    dsimp only
    split_ifs
    · exact Parse.Keeps.fail
    · exact Parse.Keeps.pure _
  · exact Parse.Keeps.pure _

/-- Reading an item with its length keeps the property. -/
lemma ConfigurationOptionImpl.keeps_deserializeItem (conf : List (List UInt8 × List UInt8)) :
    Parse.Keeps I (ConfigurationOptionImpl.deserializeItem conf) :=
  (keeps_deserialize8 hI).bind (ConfigurationOptionImpl.keeps_addItem hI conf)

/-- Reading the items keeps the property. -/
lemma ConfigurationOptionImpl.keeps_deserializeItems (fuel : ℕ) :
    ∀ conf, Parse.Keeps I (ConfigurationOptionImpl.deserializeItems fuel conf) := by
  induction fuel with
  | zero => exact ConfigurationOptionImpl.keeps_deserializeItem hI
  | succ fuel ih =>
    refine fun conf => (ConfigurationOptionImpl.keeps_deserializeItem hI conf).bind
      fun conf' => Parse.Keeps.get.bind fun d => ?_
    split_ifs
    · exact ih conf'
    · exact Parse.Keeps.pure _

/-- Reading a configuration option keeps the property. -/
lemma ConfigurationOptionImpl.keeps_deserialize :
    Parse.Keeps I ConfigurationOptionImpl.deserialize :=
  (OptionImpl.keeps_deserialize hI).bind fun _ => Parse.Keeps.get.bind fun d =>
    (ConfigurationOptionImpl.keeps_deserializeItems hI d.remaining []).bind
    fun _ => Parse.Keeps.pure _

end Keeps

end Vsomeip.Sd
