import Vsomeip.Message.Deserializer
import Vsomeip.Message.Serializer

set_option relaxedAutoImplicit false
set_option autoImplicit false

/-!
# The SOME/IP message header

`message_header_impl` of `message/src/message_header_impl.cpp`: sixteen bytes, the length field
being asked of the owning message when the header is written.

## Main definitions

* `Vsomeip.MessageHeaderImpl` — the header fields that are on the wire.
* `Vsomeip.MessageHeaderImpl.serialize`, `Vsomeip.MessageHeaderImpl.deserialize`.

## Main results

* `Vsomeip.MessageHeaderImpl.decodes_deserialize` — a header is recovered from its bytes.
-/

namespace Vsomeip

open Deserializer Serializer

/-- The fields of `message_header_impl` that are on the wire. The message type and the return code
are kept as bytes: the enumerations of the source have a fixed underlying type, and `deserialize`
casts any byte to them. -/
structure MessageHeaderImpl where
  service : UInt16
  method : UInt16
  length : UInt32
  client : UInt16
  session : UInt16
  protocolVersion : UInt8
  interfaceVersion : UInt8
  type : UInt8
  code : UInt8
deriving DecidableEq

namespace MessageHeaderImpl

/-- The header built by the default constructor of `message_header_impl`. -/
def default : MessageHeaderImpl :=
  { service := 0, method := 0, length := 0, client := 0, session := 0, protocolVersion := 1,
    interfaceVersion := 0, type := 0xFF, code := 0xFF }

/-- `message_header_impl::serialize`, with `ownerLength` for `owner_->get_length()`. -/
def serialize (h : MessageHeaderImpl) (ownerLength : UInt32) : Serializer := do
  serialize16 h.service
  serialize16 h.method
  serialize32 ownerLength false
  serialize16 h.client
  serialize16 h.session
  serialize8 h.protocolVersion
  serialize8 h.interfaceVersion
  serialize8 h.type
  serialize8 h.code

/-- `message_header_impl::deserialize`. -/
def deserialize : Parse Deserializer MessageHeaderImpl := do
  let service ← deserialize16
  let method ← deserialize16
  let length ← deserialize32 false
  let client ← deserialize16
  let session ← deserialize16
  let protocolVersion ← deserialize8
  let interfaceVersion ← deserialize8
  let type ← deserialize8
  let code ← deserialize8
  pure { service, method, length, client, session, protocolVersion, interfaceVersion, type, code }

/-- The bytes of a header with the given length field. -/
def bytes (h : MessageHeaderImpl) (ownerLength : UInt32) : List UInt8 :=
  [wordByte1 h.service, wordByte0 h.service, wordByte1 h.method, wordByte0 h.method,
    longByte3 ownerLength, longByte2 ownerLength, longByte1 ownerLength, longByte0 ownerLength,
    wordByte1 h.client, wordByte0 h.client, wordByte1 h.session, wordByte0 h.session,
    h.protocolVersion, h.interfaceVersion, h.type, h.code]

/-- The header takes sixteen bytes. -/
lemma writes_serialize (h : MessageHeaderImpl) (ownerLength : UInt32) :
    Writes (h.serialize ownerLength) (h.bytes ownerLength) :=
  (writes_serialize16 _).bind <| (writes_serialize16 _).bind <| (writes_serialize32 _).bind <|
    (writes_serialize16 _).bind <| (writes_serialize16 _).bind <| (writes_serialize8 _).bind <|
    (writes_serialize8 _).bind <| (writes_serialize8 _).bind <| writes_serialize8 _

/-- The widths of the header fields. -/
def widths : List ℕ := [2, 2, 4, 2, 2, 1, 1, 1, 1]

/-- The header is read field by field. -/
lemma sequential_deserialize : Sequential widths deserialize :=
  sequential_deserialize16.bind fun _ => sequential_deserialize16.bind fun _ =>
    sequential_deserialize32.bind fun _ => sequential_deserialize16.bind fun _ =>
    sequential_deserialize16.bind fun _ => sequential_deserialize8.bind fun _ =>
    sequential_deserialize8.bind fun _ => sequential_deserialize8.bind fun _ =>
    sequential_deserialize8.bind fun _ => Sequential.pure _

/-- A header is recovered from its bytes, with the length field that was written. -/
lemma decodes_deserialize (h : MessageHeaderImpl) (ownerLength : UInt32) :
    Decodes deserialize (h.bytes ownerLength) { h with length := ownerLength } :=
  (decodes_deserialize16 _).bind <| (decodes_deserialize16 _).bind <|
    (decodes_deserialize32 _).bind <| (decodes_deserialize16 _).bind <|
    (decodes_deserialize16 _).bind <| (decodes_deserialize8 _).bind <|
    (decodes_deserialize8 _).bind <| (decodes_deserialize8 _).bind <|
    (decodes_deserialize8 _).bind <| Decodes.pure _

end MessageHeaderImpl

end Vsomeip
