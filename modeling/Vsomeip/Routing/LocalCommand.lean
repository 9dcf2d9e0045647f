import Vsomeip.Endpoints.Local
import Vsomeip.Endpoints.Tcp
import Vsomeip.Lib.Checked

set_option relaxedAutoImplicit false
set_option autoImplicit false

/-!
# The parsers of local commands

`routing_manager_stub::on_message` and `routing_manager_proxy::on_message` take apart the commands
that come in over a local socket. A command is a byte for its type, two bytes for the client, four
bytes for the size of its payload, and the payload.

The parsers are computations that stop when a byte outside of the command is read, when a size falls
below 0, when a length check is made with a sum that exceeds 32 bits, and when a loop does not come to
its end.

## Main definitions

* `Vsomeip.CommandType` — the types of commands.
* `Vsomeip.StubCommand.onMessage` — the parser of the routing manager.
* `Vsomeip.ProxyCommand.onRoutingInfo`, `Vsomeip.ProxyCommand.onOfferedServicesInfo`,
  `Vsomeip.ProxyCommand.onMessage` — the parsers of the applications.
-/

namespace Vsomeip

open Checked

/-- The types of commands that one of the parsers knows. -/
inductive CommandType
  | registerApplication
  | deregisterApplication
  | routingInfo
  | registeredAck
  | ping
  | pong
  | offerService
  | stopOfferService
  | subscribe
  | unsubscribe
  | requestService
  | releaseService
  | subscribeNack
  | subscribeAck
  | send
  | notify
  | notifyOne
  | registerEvent
  | unregisterEvent
  | idResponse
  | idRequest
  | offeredServicesRequest
  | offeredServicesResponse
  | unsubscribeAck
  | other
deriving DecidableEq

/-- The type of the command with a byte at its start. -/
def CommandType.ofByte (b : UInt8) : CommandType :=
  if b = 0x00 then registerApplication
  else if b = 0x01 then deregisterApplication
  else if b = 0x03 then routingInfo
  else if b = 0x04 then registeredAck
  else if b = 0x0E then ping
  else if b = 0x0F then pong
  else if b = 0x10 then offerService
  else if b = 0x11 then stopOfferService
  else if b = 0x12 then subscribe
  else if b = 0x13 then unsubscribe
  else if b = 0x14 then requestService
  else if b = 0x15 then releaseService
  else if b = 0x16 then subscribeNack
  else if b = 0x17 then subscribeAck
  else if b = 0x18 then send
  else if b = 0x19 then notify
  else if b = 0x1A then notifyOne
  else if b = 0x1B then registerEvent
  else if b = 0x1C then unregisterEvent
  else if b = 0x1D then idResponse
  else if b = 0x1E then idRequest
  else if b = 0x1F then offeredServicesRequest
  else if b = 0x20 then offeredServicesResponse
  else if b = 0x21 then unsubscribeAck
  else other

/-- Why a parser stops: a read outside of the command, a size below 0, a length check with a sum of
more than 32 bits, or a loop that does not end. -/
inductive Fault
  | outside
  | wrapped
  | defeated
  | endless
deriving DecidableEq

namespace Command

/-- `VSOMEIP_COMMAND_PAYLOAD_POS`. -/
def payloadPos : ℕ := 7

variable (data : List UInt8)

/-- A byte of the command. -/
def byte (pos : ℕ) : Except Fault UInt8 :=
  guarded (pos < data.length) .outside (data.getD pos 0)

/-- A `bool` of the command. -/
def bool (pos : ℕ) : Except Fault Bool :=
  guarded (pos < data.length) .outside (data.getD pos 0 != 0)

/-- Two bytes of the command, as `memcpy` reads them. -/
def word (pos : ℕ) : Except Fault UInt16 :=
  guarded (pos + 2 ≤ data.length) .outside (bytesToWord (data.getD (pos + 1) 0) (data.getD pos 0))

/-- Two bytes of the command in network byte order. -/
def networkWord (pos : ℕ) : Except Fault UInt16 :=
  guarded (pos + 2 ≤ data.length) .outside (bytesToWord (data.getD pos 0) (data.getD (pos + 1) 0))

/-- Four bytes of the command. -/
def long (pos : ℕ) : Except Fault UInt32 :=
  guarded (pos + 4 ≤ data.length) .outside
    (bytesToLong (data.getD (pos + 3) 0) (data.getD (pos + 2) 0) (data.getD (pos + 1) 0)
      (data.getD pos 0))

/-- The bytes from a position on, as `deserializer::set_data` copies them. -/
def bytes (pos size : ℕ) : Except Fault (List UInt8) :=
  guarded (pos + size ≤ data.length) .outside ((data.drop pos).take size)

/-- A command is skipped if it does not have the size of its type. -/
def ofSize {Call : Type} (size : ℕ) (calls : Except Fault (List Call)) : Except Fault (List Call) :=
  if data.length ≠ size then pure [] else calls

end Command

/-- A size is reduced. -/
def reduced (size : UInt32) (n : UInt32) : Except Fault UInt32 :=
  guarded (n ≤ size) .wrapped (size - n)

/-- The sum of a length check, in 32 bits. -/
def lengthSum (size : UInt32) (pos : ℕ) : Except Fault ℕ :=
  guarded (size.toNat + pos < 2 ^ 32) .defeated (size.toNat + pos)

/-! ## The routing manager -/

/-- A call that the stub makes for a command. Of a message its size is kept. -/
inductive StubCall
  | updateRegistration (client : UInt16) (isRegister : Bool)
  | onPong (client : UInt16)
  | offerService (client service instance_ : UInt16) (major : UInt8) (minor : UInt32)
  | stopOfferService (client service instance_ : UInt16) (major : UInt8) (minor : UInt32)
  | subscribe (client service instance_ eventgroup : UInt16) (major : UInt8) (event : UInt16)
      (subscriptionType : UInt8)
  | unsubscribe (client service instance_ eventgroup event : UInt16)
  | onSubscribeAck (subscriber service instance_ eventgroup event subscriptionId : UInt16)
  | onSubscribeNack (subscriber service instance_ eventgroup event subscriptionId : UInt16)
  | onUnsubscribeAck (client service instance_ eventgroup subscriptionId : UInt16)
  | onMessage (service instance_ : UInt16) (size : UInt32) (reliable isValidCrc : Bool)
  | onNotification (client service instance_ : UInt16) (size : UInt32) (notifyOne : Bool)
  | requestService (client service instance_ : UInt16) (major : UInt8) (minor : UInt32)
      (useExclusiveProxy : Bool)
  | handleRequests (client : UInt16)
  | releaseService (client service instance_ : UInt16)
  | registerShadowEvent (client service instance_ event : UInt16) (eventgroups : List UInt16)
      (isField isProvided : Bool)
  | unregisterShadowEvent (client service instance_ event : UInt16) (isProvided : Bool)
  | onIdentifyResponse (client service instance_ : UInt16) (reliable : Bool)
  | sendOfferedServicesInfo (client : UInt16) (offerType : UInt8)
deriving DecidableEq

/-- The size of the message that is passed on. -/
def StubCall.messageSize : StubCall → Option UInt32
  | .onMessage _ _ size _ _ => some size
  | .onNotification _ _ _ size _ => some size
  | _ => none

/-- What the stub asks the configuration, the client that the connection is bound to, and its own
client. -/
structure StubConfig where
  isSecurityEnabled : Bool
  isClientAllowed : UInt16 → UInt16 → UInt16 → Bool
  isOfferedRemote : UInt16 → UInt16 → Bool
  boundClient : UInt16
  client : UInt16

namespace StubCommand

open Command

variable (cfg : StubConfig) (data : List UInt8) (client : UInt16) (itsSize : UInt32)

/-- `VSOMEIP_OFFER_SERVICE`. -/
def offerService : Except Fault (List StubCall) := ofSize data 16 do
  let service ← word data payloadPos
  let instance_ ← word data (payloadPos + 2)
  let major ← byte data (payloadPos + 4)
  let minor ← long data (payloadPos + 5)
  pure [.offerService client service instance_ major minor]

/-- `VSOMEIP_STOP_OFFER_SERVICE`. -/
def stopOfferService : Except Fault (List StubCall) := ofSize data 16 do
  let service ← word data payloadPos
  let instance_ ← word data (payloadPos + 2)
  let major ← byte data (payloadPos + 4)
  let minor ← long data (payloadPos + 5)
  pure [.stopOfferService client service instance_ major minor]

/-- `VSOMEIP_SUBSCRIBE`. -/
def subscribe : Except Fault (List StubCall) := ofSize data 19 do
  let service ← word data payloadPos
  let instance_ ← word data (payloadPos + 2)
  let eventgroup ← word data (payloadPos + 4)
  let major ← byte data (payloadPos + 6)
  let event ← word data (payloadPos + 7)
  let subscriptionType ← byte data (payloadPos + 9)
  pure (if cfg.isClientAllowed client service instance_
    then [.subscribe client service instance_ eventgroup major event subscriptionType] else [])

/-- `VSOMEIP_UNSUBSCRIBE`. -/
def unsubscribe : Except Fault (List StubCall) := ofSize data 17 do
  let service ← word data payloadPos
  let instance_ ← word data (payloadPos + 2)
  let eventgroup ← word data (payloadPos + 4)
  let event ← word data (payloadPos + 6)
  pure [.unsubscribe client service instance_ eventgroup event]

/-- `VSOMEIP_SUBSCRIBE_ACK` and `VSOMEIP_SUBSCRIBE_NACK`. -/
def subscribeAnswer (call : UInt16 → UInt16 → UInt16 → UInt16 → UInt16 → UInt16 → StubCall) :
    Except Fault (List StubCall) := ofSize data 19 do
  let service ← word data payloadPos
  let instance_ ← word data (payloadPos + 2)
  let eventgroup ← word data (payloadPos + 4)
  let subscriber ← word data (payloadPos + 6)
  let event ← word data (payloadPos + 8)
  let subscriptionId ← word data (payloadPos + 10)
  pure [call subscriber service instance_ eventgroup event subscriptionId]

/-- `VSOMEIP_UNSUBSCRIBE_ACK`. -/
def unsubscribeAck : Except Fault (List StubCall) := ofSize data 15 do
  let service ← word data payloadPos
  let instance_ ← word data (payloadPos + 2)
  let eventgroup ← word data (payloadPos + 4)
  let subscriptionId ← word data (payloadPos + 6)
  pure [.onUnsubscribeAck client service instance_ eventgroup subscriptionId]

/-- `VSOMEIP_SEND`, whose size is not checked. Behind the message there are the instance and three
flags. -/
def send : Except Fault (List StubCall) := do
  let service ← networkWord data payloadPos
  let clientFromHeader ← networkWord data (payloadPos + 8)
  let instance_ ← word data (data.length - 2 - 1 - 1 - 1)
  let reliable ← bool data (data.length - 1 - 1)
  let isValidCrc ← bool data (data.length - 1)
  let messageType ← byte data (payloadPos + 14)
  let isAllowed :=
    if isRequest messageType then cfg.isClientAllowed clientFromHeader service instance_
    else cfg.isClientAllowed cfg.client service instance_
  if isAllowed then do
    let messageSize ← reduced itsSize (2 + 1 + 1 + 1)
    pure [.onMessage service instance_ messageSize reliable isValidCrc]
  else pure []

/-- `VSOMEIP_NOTIFY`. The size is reduced by one flag less than there are. -/
def notify : Except Fault (List StubCall) := do
  let service ← networkWord data payloadPos
  let instance_ ← word data (data.length - 2 - 1 - 1 - 1)
  let messageSize ← reduced itsSize (2 + 1 + 1)
  pure [.onNotification 0 service instance_ messageSize false]

/-- `VSOMEIP_NOTIFY_ONE`, with the target client at the end. -/
def notifyOne : Except Fault (List StubCall) := do
  let service ← networkWord data payloadPos
  let instance_ ← word data (data.length - 2 - 1 - 1 - 1 - 2)
  let targetClient ← word data (data.length - 2)
  let messageSize ← reduced itsSize (2 + 1 + 1 + 2)
  pure [.onNotification targetClient service instance_ messageSize true]

/-- One of the requests of `VSOMEIP_REQUEST_SERVICE`, each of which has 10 bytes. -/
def request (i : ℕ) : Except Fault (List StubCall) := do
  let service ← word data (payloadPos + i * 10)
  let instance_ ← word data (payloadPos + 2 + i * 10)
  let major ← byte data (payloadPos + 4 + i * 10)
  let minor ← long data (payloadPos + 5 + i * 10)
  let useExclusiveProxy ← bool data (payloadPos + 9 + i * 10)
  pure (if cfg.isClientAllowed client service instance_
    then [.requestService client service instance_ major minor useExclusiveProxy] else [])

/-- `VSOMEIP_REQUEST_SERVICE`. -/
def requestService : Except Fault (List StubCall) := do
  let requests ← (List.range (itsSize.toNat / 10)).mapM (request cfg data client)
  pure (requests.flatten ++ [.handleRequests client])

/-- `VSOMEIP_RELEASE_SERVICE`. -/
def releaseService : Except Fault (List StubCall) := ofSize data 11 do
  let service ← word data payloadPos
  let instance_ ← word data (payloadPos + 2)
  pure [.releaseService client service instance_]

/-- `VSOMEIP_REGISTER_EVENT`, which has 15 bytes at least. An eventgroup is read at every byte behind
the flags that has another one behind it. -/
def registerEvent : Except Fault (List StubCall) :=
  if data.length < 15 then pure []
  else do
    let service ← word data payloadPos
    let instance_ ← word data (payloadPos + 2)
    let event ← word data (payloadPos + 4)
    let isField ← bool data (payloadPos + 6)
    let isProvided ← bool data (payloadPos + 7)
    if isProvided && !cfg.isOfferedRemote service instance_ then pure []
    else do
      let eventgroups ← (List.range' 8 (itsSize.toNat - 1 - 8)).mapM
        fun i => word data (payloadPos + i)
      pure [.registerShadowEvent client service instance_ event eventgroups isField isProvided]

/-- `VSOMEIP_UNREGISTER_EVENT`. -/
def unregisterEvent : Except Fault (List StubCall) := ofSize data 14 do
  let service ← word data payloadPos
  let instance_ ← word data (payloadPos + 2)
  let event ← word data (payloadPos + 4)
  let isProvided ← bool data (payloadPos + 6)
  pure (if isProvided && !cfg.isOfferedRemote service instance_ then []
    else [.unregisterShadowEvent client service instance_ event isProvided])

/-- `VSOMEIP_ID_RESPONSE`. -/
def idResponse : Except Fault (List StubCall) := ofSize data 12 do
  let service ← word data payloadPos
  let instance_ ← word data (payloadPos + 2)
  let reliable ← bool data (payloadPos + 4)
  pure [.onIdentifyResponse client service instance_ reliable]

/-- `VSOMEIP_OFFERED_SERVICES_REQUEST`. -/
def offeredServicesRequest : Except Fault (List StubCall) := ofSize data 8 do
  let offerType ← byte data payloadPos
  pure [.sendOfferedServicesInfo client offerType]

/-- The `switch` of `routing_manager_stub::on_message`. -/
def dispatch : CommandType → Except Fault (List StubCall)
  | .registerApplication => pure [.updateRegistration client true]
  | .deregisterApplication => pure [.updateRegistration client false]
  | .pong => pure [.onPong client]
  | .offerService => offerService data client
  | .stopOfferService => stopOfferService data client
  | .subscribe => subscribe cfg data client
  | .unsubscribe => unsubscribe data client
  | .subscribeAck => subscribeAnswer data .onSubscribeAck
  | .subscribeNack => subscribeAnswer data .onSubscribeNack
  | .unsubscribeAck => unsubscribeAck data client
  | .send => send cfg data itsSize
  | .notify => notify data itsSize
  | .notifyOne => notifyOne data itsSize
  | .requestService => requestService cfg data client itsSize
  | .releaseService => releaseService data client
  | .registerEvent => registerEvent cfg data client itsSize
  | .unregisterEvent => unregisterEvent cfg data client
  | .idResponse => idResponse data client
  | .registeredAck => pure []
  | .offeredServicesRequest => offeredServicesRequest data client
  | .routingInfo | .ping | .idRequest | .offeredServicesResponse | .other => pure []

/-- `routing_manager_stub::on_message`. -/
def onMessage : Except Fault (List StubCall) :=
  if 5 < data.length then do
    let command ← byte data 0
    let client ← word data 1
    if cfg.isSecurityEnabled && cfg.boundClient != client then pure []
    else do
      let itsSize ← long data 3
      if itsSize.toNat ≤ data.length - 7 then dispatch cfg data client itsSize (.ofByte command)
      else pure []
  else pure []

end StubCommand

/-! ## The applications -/

/-- `routing_info_entry_e`, which has four bytes. -/
inductive RoutingInfoEntryType
  | addClient
  | addServiceInstance
  | delServiceInstance
  | delClient
  | other
deriving DecidableEq

/-- The type of an entry on the wire. -/
def RoutingInfoEntryType.ofLong (n : UInt32) : RoutingInfoEntryType :=
  if n = 0 then addClient
  else if n = 1 then addServiceInstance
  else if n = 2 then delServiceInstance
  else if n = 3 then delClient
  else other

/-- A service instance of a routing info, with its version. -/
structure ServiceInstance where
  service : UInt16
  instance_ : UInt16
  major : UInt8
  minor : UInt32
deriving DecidableEq

/-- An entry of a routing info. -/
structure RoutingInfoEntry where
  type : RoutingInfoEntryType
  client : UInt16
  services : List ServiceInstance
deriving DecidableEq

/-- A call that the proxy makes for a command. Of a message the bytes are kept that the deserializer
is given. -/
inductive ProxyCall
  | onMessage (message : List UInt8) (instance_ : UInt16) (reliable isValidCrc : Bool)
  | onRoutingInfo (entries : List RoutingInfoEntry)
  | sendPong
  | onSubscription (client service instance_ eventgroup : UInt16) (major : UInt8)
      (event subscriptionId : UInt16)
  | onUnsubscription (client service instance_ eventgroup event subscriptionId : UInt16)
  | onSubscribeNack (subscriber service instance_ eventgroup event : UInt16)
  | onSubscribeAck (subscriber service instance_ eventgroup event : UInt16)
  | sendIdentifyRequest (service instance_ : UInt16) (major : UInt8) (reliable : Bool)
  | onOfferedServicesInfo (services : List (UInt16 × UInt16))
deriving DecidableEq

/-- The size of the message that is passed on. -/
def ProxyCall.messageSize : ProxyCall → Option ℕ
  | .onMessage message _ _ _ => some message.length
  | _ => none

/-- What the proxy asks the configuration, and the client that the connection is bound to. -/
structure ProxyConfig where
  isSecurityEnabled : Bool
  boundClient : UInt16
  routingHostId : UInt16

namespace ProxyCommand

open Command

section Info

/-! The payload of a `VSOMEIP_ROUTING_INFO` or of a `VSOMEIP_OFFERED_SERVICES_RESPONSE`. Offsets do
not exceed its length before a read outside of it, so they are numbers below `2 ^ 32`. -/

variable (payload : List UInt8)

/-- The loop over the instances of a service, each of which has 7 bytes. -/
def readInstances (service : UInt16) : ℕ → ℕ → Except Fault (List ServiceInstance)
  | 0, _ => pure []
  | n + 1, pos => do
    let instance_ ← word payload pos
    let major ← byte payload (pos + 2)
    let minor ← long payload (pos + 3)
    let rest ← readInstances service n (pos + 7)
    pure (⟨service, instance_, major, minor⟩ :: rest)

/-- The loop over the services of an entry, from `i` on, of which `j` bytes have been read: the
instances, and how many bytes have been read at its end. -/
def readServices (clientSize : UInt32) (i : ℕ) :
    ℕ → ℕ → Except Fault (List ServiceInstance × ℕ)
  | 0, _ => .error .endless
  | fuel + 1, j =>
    if j + 4 ≤ clientSize.toNat then do
      let servicesSize ← long payload (i + j)
      if 9 ≤ servicesSize.toNat then do
        let service ← word payload (i + (j + 4))
        let n := (servicesSize.toNat - 2) / 7
        let instances ← readInstances payload service n (i + (j + 6))
        let (rest, j) ← readServices clientSize i fuel (j + 6 + 7 * n)
        pure (instances ++ rest, j)
      else readServices clientSize i fuel (j + 4)
    else pure ([], j)

/-- The loop of `routing_manager_proxy::on_routing_info`, from `i` on. -/
def readRoutingInfo : ℕ → ℕ → Except Fault (List RoutingInfoEntry)
  | 0, _ => .error .endless
  | fuel + 1, i =>
    if i + 4 + 4 ≤ payload.length then do
      let type ← long payload i
      let clientSize ← long payload (i + 4)
      let sum ← lengthSum clientSize (i + 8)
      if sum > payload.length then pure []
      else if i + 8 + 2 ≤ payload.length then do
        let client ← word payload (i + 8)
        let (services, j) ← readServices payload clientSize (i + 10) (payload.length + 1) 0
        let rest ← readRoutingInfo fuel (i + 10 + j)
        pure (⟨.ofLong type, client, services⟩ :: rest)
      else readRoutingInfo fuel (i + 8)
    else pure []

/-- `routing_manager_proxy::on_routing_info`. -/
def onRoutingInfo : Except Fault (List RoutingInfoEntry) :=
  readRoutingInfo payload (payload.length + 1) 0

/-- The loop of `routing_manager_proxy::on_offered_services_info`, from `i` on. -/
def readOfferedServicesInfo : ℕ → ℕ → Except Fault (List (UInt16 × UInt16))
  | 0, _ => .error .endless
  | fuel + 1, i =>
    if i + 4 + 4 ≤ payload.length then do
      let _type ← long payload i
      let entrySize ← long payload (i + 4)
      let sum ← lengthSum entrySize (i + 8)
      if sum > payload.length then pure []
      else if 9 ≤ entrySize.toNat then do
        let service ← word payload (i + 8)
        let instance_ ← word payload (i + 10)
        let _major ← byte payload (i + 12)
        let _minor ← long payload (i + 13)
        let rest ← readOfferedServicesInfo fuel (i + 17)
        pure ((service, instance_) :: rest)
      else readOfferedServicesInfo fuel (i + 8)
    else pure []

/-- `routing_manager_proxy::on_offered_services_info`. -/
def onOfferedServicesInfo : Except Fault (List (UInt16 × UInt16)) :=
  readOfferedServicesInfo payload (payload.length + 1) 0

end Info

variable (cfg : ProxyConfig) (data : List UInt8) (client : UInt16) (itsLength : UInt32)

/-- `VSOMEIP_SEND`, whose size is not checked. -/
def send : Except Fault (List ProxyCall) := do
  let instance_ ← word data (data.length - 2 - 1 - 1 - 1)
  let reliable ← bool data (data.length - 1 - 1)
  let isValidCrc ← bool data (data.length - 1)
  let messageSize ← reduced itsLength (2 + 1 + 1 + 1)
  let message ← bytes data payloadPos messageSize.toNat
  pure [.onMessage message instance_ reliable isValidCrc]

/-- A routing info or offered services info is only taken from the routing manager. -/
def fromRoutingHost (calls : Except Fault (List ProxyCall)) : Except Fault (List ProxyCall) :=
  if !cfg.isSecurityEnabled || cfg.boundClient == cfg.routingHostId then calls else pure []

/-- `VSOMEIP_SUBSCRIBE`. -/
def subscribe : Except Fault (List ProxyCall) := ofSize data 19 do
  let service ← word data payloadPos
  let instance_ ← word data (payloadPos + 2)
  let eventgroup ← word data (payloadPos + 4)
  let major ← byte data (payloadPos + 6)
  let event ← word data (payloadPos + 7)
  let subscriptionId ← word data (payloadPos + 10)
  pure [.onSubscription client service instance_ eventgroup major event subscriptionId]

/-- `VSOMEIP_UNSUBSCRIBE`. -/
def unsubscribe : Except Fault (List ProxyCall) := ofSize data 17 do
  let service ← word data payloadPos
  let instance_ ← word data (payloadPos + 2)
  let eventgroup ← word data (payloadPos + 4)
  let event ← word data (payloadPos + 6)
  let subscriptionId ← word data (payloadPos + 8)
  pure [.onUnsubscription client service instance_ eventgroup event subscriptionId]

/-- `VSOMEIP_SUBSCRIBE_NACK` and `VSOMEIP_SUBSCRIBE_ACK`. -/
def subscribeAnswer (call : UInt16 → UInt16 → UInt16 → UInt16 → UInt16 → ProxyCall) :
    Except Fault (List ProxyCall) := ofSize data 19 do
  let service ← word data payloadPos
  let instance_ ← word data (payloadPos + 2)
  let eventgroup ← word data (payloadPos + 4)
  let subscriber ← word data (payloadPos + 6)
  let event ← word data (payloadPos + 8)
  pure [call subscriber service instance_ eventgroup event]

/-- `VSOMEIP_ID_REQUEST`, which has 13 bytes at least. -/
def idRequest : Except Fault (List ProxyCall) :=
  if data.length < 13 then pure []
  else do
    let service ← word data payloadPos
    let instance_ ← word data (payloadPos + 2)
    let major ← byte data (payloadPos + 4)
    let reliable ← bool data (payloadPos + 5)
    pure [.sendIdentifyRequest service instance_ major reliable]

/-- The `switch` of `routing_manager_proxy::on_message`. The payload of an info is as long as its
size says. -/
def dispatch : CommandType → Except Fault (List ProxyCall)
  | .send => send data itsLength
  | .routingInfo => fromRoutingHost cfg do
    let payload ← bytes data payloadPos itsLength.toNat
    let entries ← onRoutingInfo payload
    pure [.onRoutingInfo entries]
  | .ping => pure [.sendPong]
  | .subscribe => subscribe data client
  | .unsubscribe => unsubscribe data client
  | .subscribeNack => subscribeAnswer data .onSubscribeNack
  | .subscribeAck => subscribeAnswer data .onSubscribeAck
  | .idRequest => idRequest data
  | .offeredServicesResponse => fromRoutingHost cfg do
    let payload ← bytes data payloadPos itsLength.toNat
    let services ← onOfferedServicesInfo payload
    pure [.onOfferedServicesInfo services]
  | .registerApplication | .deregisterApplication | .registeredAck | .pong | .offerService
  | .stopOfferService | .requestService | .releaseService | .notify | .notifyOne | .registerEvent
  | .unregisterEvent | .idResponse | .offeredServicesRequest | .unsubscribeAck | .other => pure []

/-- `routing_manager_proxy::on_message`. -/
def onMessage : Except Fault (List ProxyCall) :=
  if 5 < data.length then do
    let command ← byte data 0
    let client ← word data 1
    let itsLength ← long data 3
    if cfg.isSecurityEnabled && cfg.boundClient != cfg.routingHostId && cfg.boundClient != client then
      pure []
    else dispatch cfg data client itsLength (.ofByte command)
  else pure []

end ProxyCommand

end Vsomeip
