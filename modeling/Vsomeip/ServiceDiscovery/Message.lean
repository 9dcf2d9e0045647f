import Vsomeip.Message.Header
import Vsomeip.ServiceDiscovery.Entry
import Vsomeip.ServiceDiscovery.Option

set_option relaxedAutoImplicit false
set_option autoImplicit false

/-!
# Service discovery messages

`sd::message_impl` of `service_discovery/src/message_impl.cpp`: a SOME/IP header, a flags byte, an
array of entries and an array of options, both arrays with their length in bytes in front.

`message_impl::deserialize` works on one cursor. It installs the length of the entries array as the
number of remaining bytes, reads entries until nothing remains, and installs what the message has
behind the entries as the new number. A failure in the entries makes the result a failure, but the
options are read all the same; a failure in the options only ends their loop.

## Main definitions

* `Vsomeip.Sd.MessageImpl` — a message.
* `Vsomeip.Sd.MessageImpl.serialize` — `message_impl::serialize`.
* `Vsomeip.Sd.MessageImpl.deserialize` — `message_impl::deserialize`.
* `Vsomeip.Sd.deserializeSdMessage` — `deserializer::deserialize_sd_message`.
-/

namespace Vsomeip.Sd

open Deserializer Serializer

/-- The members of `sd::message_impl` that its codec uses. -/
structure MessageImpl where
  header : MessageHeaderImpl
  flags : UInt8
  optionsLength : UInt32
  entries : List Entry
  options : List SdOption
  numberRequiredAcks : UInt8
deriving DecidableEq

namespace MessageImpl

/-- `message_impl::message_impl()`. -/
def init : MessageImpl :=
  { header := { MessageHeaderImpl.default with
      service := 0xFFFF, method := 0x8100, protocolVersion := 0x01 }
    flags := 0x00, optionsLength := 0, entries := [], options := [], numberRequiredAcks := 0 }

/-- `VSOMEIP_SOMEIP_SD_DATA_SIZE`. -/
def sdDataSize : UInt32 := 12

/-- `VSOMEIP_SOMEIP_SD_ENTRY_LENGTH_SIZE` and `VSOMEIP_SOMEIP_SD_OPTION_LENGTH_SIZE`. -/
def sdLengthSize : UInt32 := 4

/-- `VSOMEIP_SOMEIP_SD_ENTRY_SIZE`. -/
def sdEntrySize : ℕ := 16

/-- `VSOMEIP_SOMEIP_SD_OPTION_HEADER_SIZE`. -/
def sdOptionHeaderSize : UInt32 := 3

/-- The length field of the entries array, a 32-bit number. -/
def entriesLength (m : MessageImpl) : UInt32 := UInt32.ofNat (m.entries.length * sdEntrySize)

/-- The length field of the options array: the length of every option and its header. -/
def optionsByteLength (m : MessageImpl) : UInt32 :=
  m.options.foldl (fun n o => n + (o.base.length.toUInt32 + sdOptionHeaderSize)) 0

/-- `message_impl::get_length`. -/
def getLength (m : MessageImpl) : UInt32 :=
  let current := sdDataSize
  let current := if m.entries.length ≠ 0 then current + sdLengthSize + m.entriesLength else current
  current + sdLengthSize + m.optionsByteLength

/-- `message_impl::serialize`. -/
def serialize (m : MessageImpl) : Serializer := do
  m.header.serialize m.getLength
  serialize8 m.flags
  serialize32 0 true
  serialize32 m.entriesLength false
  m.entries.forM Entry.serialize
  serialize32 m.optionsByteLength false
  m.options.forM SdOption.serialize

/-! ## Entries -/

/-- `message_impl::deserialize_entry`: the type byte decides which class reads the entry. -/
def deserializeEntry : Parse Deserializer Entry := do
  let tmpEntryType ← lookAhead 0
  let type := EntryType.ofByte tmpEntryType
  if type.isService then
    let e ← ServiceentryImpl.deserialize
    pure (.service e)
  else if type.isEventgroup then
    let e ← EventgroupentryImpl.deserialize
    pure (.eventgroup e)
  else Parse.fail

/-- The comparison of a `SUBSCRIBE_EVENTGROUP` entry with an entry read before. -/
def sameSubscribe : Entry → Entry → Bool
  | .eventgroup e, .eventgroup f => e.type == .subscribeEventgroup && e.equal f
  | _, _ => false

/-- What the loop over the entries does with an entry: a `SUBSCRIBE_EVENTGROUP` entry equal to one
read before is dropped, another one counts its options as acknowledgements to come. -/
def addEntry (m : MessageImpl) (e : Entry) : MessageImpl :=
  if e.base.type = .subscribeEventgroup then
    if m.entries.any (fun f => sameSubscribe f e) then m
    else { m with
      entries := m.entries ++ [e]
      numberRequiredAcks :=
        if e.base.ttl > 0 then m.numberRequiredAcks + (e.base.numOptions1 + e.base.numOptions2)
        else m.numberRequiredAcks }
  else { m with entries := m.entries ++ [e] }

/-- The loop over the entries. Every entry takes at least one byte, so the number of remaining
bytes bounds the number of rounds. -/
def entriesLoop : ℕ → MessageImpl → Parse Deserializer MessageImpl
  | 0, m => pure m
  | fuel + 1, m => do
    let d ← Parse.get
    if d.remaining = 0 then pure m
    else
      let e ← deserializeEntry
      entriesLoop fuel (m.addEntry e)

/-- The part of `message_impl::deserialize` in front of the entries: header, flags, reserved bytes
and the length of the entries array. -/
def deserializePrelude : Parse Deserializer (MessageImpl × UInt32) := do
  let header ← MessageHeaderImpl.deserialize
  let flags ← deserialize8
  let _reserved ← deserialize32 true
  let entriesLength ← deserialize32 false
  pure ({ init with header, flags }, entriesLength)

/-- `message_impl::deserialize` up to the end of the entries: the message read so far, or `none` if
`is_successful` is false. After a failure in the prelude the length of the entries array is still
zero. -/
def deserializeEntries : Parse Deserializer (Option MessageImpl) := do
  let start ← Parse.attempt deserializePrelude
  let entriesLength := (start.map Prod.snd).getD 0
  let d ← Parse.get
  let saveRemaining := UInt32.ofNat d.remaining
  Parse.modify (·.setRemaining entriesLength.toNat)
  let m ← Parse.attempt (match start with
    | some (m, _) => entriesLoop entriesLength.toNat m
    | none => Parse.fail)
  Parse.modify (·.setRemaining (saveRemaining - entriesLength).toNat)
  pure m

/-! ## Options -/

/-- `message_impl::deserialize_option`: the byte behind the length field decides which class reads
the option. -/
def deserializeOption : Parse Deserializer SdOption := do
  let tmpOptionType ← lookAhead 2
  match OptionType.ofByte tmpOptionType with
  | .configuration => let o ← ConfigurationOptionImpl.deserialize; pure (.configuration o)
  | .loadBalancing => let o ← LoadBalancingOptionImpl.deserialize; pure (.loadBalancing o)
  | .protection => let o ← ProtectionOptionImpl.deserialize; pure (.protection o)
  | .ip4Endpoint | .ip4Multicast =>
    let o ← IpOptionImpl.deserialize 4 ipv4OptionLength; pure (.ipv4 o)
  | .ip6Endpoint | .ip6Multicast =>
    let o ← IpOptionImpl.deserialize 16 ipv6OptionLength; pure (.ipv6 o)
  | .unknown => let o ← OptionImpl.deserialize; pure (.plain o)

/-- The loop over the options: it ends when nothing remains or an option cannot be read, and keeps
the options read so far in both cases. -/
def optionsLoop : ℕ → List SdOption → Parse Deserializer (List SdOption)
  | 0, options => pure options
  | fuel + 1, options => do
    let d ← Parse.get
    if d.remaining = 0 then pure options
    else
      match ← Parse.attempt deserializeOption with
      | some o => optionsLoop fuel (options ++ [o])
      | none => pure options

/-- `message_impl::deserialize` behind the entries, given the message read so far or a failure.
After a failure the options are read all the same, with an options length of zero. -/
def deserializeOptions (m : Option MessageImpl) : Parse Deserializer MessageImpl := do
  let d ← Parse.get
  if d.remaining = 0 then
    match m with
    | some m => pure m
    | none => Parse.fail
  else
    let length ← Parse.attempt (if m.isSome then deserialize32 false else Parse.fail)
    let optionsLength := length.getD 0
    Parse.modify fun d =>
      if d.remaining > optionsLength.toNat then d.setRemaining optionsLength.toNat else d
    let d ← Parse.get
    let options ← optionsLoop d.remaining []
    match m, length with
    | some m, some optionsLength => pure { m with optionsLength, options }
    | _, _ => Parse.fail

/-- `message_impl::deserialize`; what a failed run leaves in the message is not used. -/
def deserialize : Parse Deserializer MessageImpl := do
  let m ← deserializeEntries
  deserializeOptions m

end MessageImpl

/-- `deserializer::deserialize_sd_message` on the given bytes: the message, or `none` for the null
pointer, and the cursor at the end. The memory behind the bytes is `stray`. -/
def deserializeSdMessage (data : List UInt8) (stray : ℕ → UInt8) :
    Option MessageImpl × Deserializer :=
  MessageImpl.deserialize (Deserializer.setData data stray)

end Vsomeip.Sd
