import Mathlib.Data.List.Basic
import Vsomeip.Routing.LocalCommand
import Vsomeip.Routing.RemoteSubscription

set_option relaxedAutoImplicit false
set_option autoImplicit false

/-!
# The routing info of the applications

The routing manager tells the applications (`routing_manager_stub.cpp`) which of them host the
service instances that they have requested. It keeps what every client offers (`routing_info_`), what
every client has requested (`service_requests_`) and which clients know of each other
(`connection_matrix_`), and it sends `VSOMEIP_ROUTING_INFO` commands when a client registers or
deregisters, when an instance is offered or no longer offered, and when a client requests services.
An application applies these commands (`routing_manager_proxy.cpp`) to its `local_services_`.

A command is the list of the entries that `on_routing_info` reads from it. The versions of a request
are not kept, since nothing reads them, nor is the watchdog's counter of a client. The commands that
were sent to the proxy of a client are kept as a log, to which the proxy's table is defined.

## Main definitions

* `Vsomeip.RoutingManagerStub` — the tables of the stub and the commands that it has sent.
* `Vsomeip.RoutingManagerStub.handleRequests`, `Vsomeip.RoutingManagerStub.informRequesters`,
  `Vsomeip.RoutingManagerStub.onOfferService`, `Vsomeip.RoutingManagerStub.onStopOfferService`,
  `Vsomeip.RoutingManagerStub.clientRegistration` — the operations of the stub.
* `Vsomeip.LocalServices.onRoutingInfo` — what a proxy does with a command.
* `Vsomeip.RoutingManagerStub.step` — the stub with its clients as a state machine.
-/

namespace Vsomeip

open Std (TreeMap)

/-- `ANY_INSTANCE`. -/
def anyInstance : UInt16 := 0xFFFF

/-- The major and the minor version of a service instance. -/
@[ext]
structure Version where
  major : UInt8
  minor : UInt32
deriving DecidableEq

/-- `DEFAULT_MAJOR` and `DEFAULT_MINOR`. -/
def Version.default : Version := ⟨0, 0⟩

/-! ## The table of a proxy -/

/-- `routing_manager_base::local_services_` of a proxy: the version and the hosting client of each
service and instance. -/
def LocalServices : Type :=
  UInt16 → UInt16 → Option (Version × UInt16)

namespace LocalServices

/-- The table of a new proxy. -/
def empty : LocalServices :=
  fun _ _ => none

/-- An assignment to `local_services_[_service][_instance]`. -/
def set (t : LocalServices) (service instance_ : UInt16) (x : Option (Version × UInt16)) :
    LocalServices := fun s i =>
  if s = service ∧ i = instance_ then x else t s i

/-- `routing_manager_base::remove_local`, of which only the services of the client are modelled. -/
def removeLocal (t : LocalServices) (client : UInt16) : LocalServices := fun s i =>
  (t s i).filter fun x => x.2 ≠ client

/-- One entry of a routing info, as the proxy of client `own` handles it. -/
def onEntry (own : UInt16) (t : LocalServices) (e : RoutingInfoEntry) : LocalServices :=
  match e.type with
  | .addServiceInstance => e.services.foldl
      (fun t x => t.set x.service x.instance_ (some (⟨x.major, x.minor⟩, e.client))) t
  | .delServiceInstance => e.services.foldl (fun t x => t.set x.service x.instance_ none) t
  | .delClient =>
    if e.client = own then t
    else if e.client ≠ routingClient then t.removeLocal e.client
    else t
  | .addClient => t
  | .other => t

/-- `routing_manager_proxy::on_routing_info`, from the entries that it reads. -/
def onRoutingInfo (own : UInt16) (t : LocalServices) (entries : List RoutingInfoEntry) :
    LocalServices :=
  entries.foldl (onEntry own) t

end LocalServices

namespace RoutingInfoEntry

/-- `RIE_ADD_CLIENT`. -/
def addClient (client : UInt16) : RoutingInfoEntry :=
  ⟨.addClient, client, []⟩

/-- `RIE_DEL_CLIENT`. -/
def delClient (client : UInt16) : RoutingInfoEntry :=
  ⟨.delClient, client, []⟩

/-- `RIE_ADD_SERVICE_INSTANCE`. -/
def addService (client service instance_ : UInt16) (version : Version) : RoutingInfoEntry :=
  ⟨.addServiceInstance, client, [⟨service, instance_, version.major, version.minor⟩]⟩

/-- `RIE_DEL_SERVICE_INSTANCE`. -/
def delService (client service instance_ : UInt16) (version : Version) : RoutingInfoEntry :=
  ⟨.delServiceInstance, client, [⟨service, instance_, version.major, version.minor⟩]⟩

/-- How many bytes an entry takes in a command: its type, its size and the client, and for each
service its size, its identifiers and its version. -/
def size (e : RoutingInfoEntry) : ℕ :=
  10 + 13 * e.services.length

/-- How many bytes a command with some entries takes. -/
def commandSize (entries : List RoutingInfoEntry) : ℕ :=
  7 + (entries.map size).sum

end RoutingInfoEntry

/-! ## The stub -/

/-- What the stub asks its host and the configuration. Messages of the size of one entry are always
sent, since the limit of local messages exceeds the size of a UDP message. -/
structure StubHost where
  /-- `host_->get_client()`. -/
  client : UInt16
  /-- `max_local_message_size_`. -/
  maxLocalMessageSize : ℕ
  /-- `configuration_->is_offer_allowed`. -/
  isOfferAllowed : UInt16 → UInt16 → UInt16 → Bool
  sendsEntry : 30 ≤ maxLocalMessageSize

/-- What a client offers: the instances of each service, with their version. -/
abbrev Offers : Type :=
  TreeMap UInt16 (TreeMap UInt16 Version)

/-- The state of the routing manager that is about routing infos. -/
structure RoutingManagerStub where
  routingInfo : TreeMap UInt16 Offers
  serviceRequests : TreeMap UInt16 (List (UInt16 × UInt16))
  connectionMatrix : UInt16 → List UInt16
  /-- The command for each client that is being written. -/
  clientRoutingInfo : UInt16 → Option (List RoutingInfoEntry)
  /-- Whether `host_->find_local` finds the client. -/
  localEndpoints : UInt16 → Bool
  /-- The commands that have been sent to the present proxy of each client. -/
  sent : UInt16 → List (List RoutingInfoEntry)

namespace RoutingManagerStub

/-- The stub after `routing_manager_stub::start`. -/
def init (host : StubHost) : RoutingManagerStub where
  routingInfo := (∅ : TreeMap UInt16 Offers).insert host.client ∅
  serviceRequests := ∅
  connectionMatrix := fun _ => []
  clientRoutingInfo := fun _ => none
  localEndpoints := fun _ => false
  sent := fun _ => []

variable (host : StubHost) (s : RoutingManagerStub)

/-- The version in which a client offers an instance. -/
def version (client service instance_ : UInt16) : Option Version := do
  let offers ← s.routingInfo[client]?
  let instances ← offers[service]?
  instances[instance_]?

/-- What a client has requested: services and instances. -/
def requestsOf (client : UInt16) : List (UInt16 × UInt16) :=
  s.serviceRequests.getD client []

/-- The `local_services_` of the proxy of a client that has applied all commands it was sent. -/
def localServices (client : UInt16) : LocalServices :=
  (s.sent client).foldl (LocalServices.onRoutingInfo client) .empty

/-- A client is a proxy, and not the routing manager itself. -/
def IsProxy (client : UInt16) : Prop :=
  client ≠ routingClient ∧ client ≠ host.client

instance : DecidablePred (IsProxy host) :=
  fun _ => inferInstanceAs (Decidable (_ ∧ _))

/-- `routing_manager_stub::create_client_routing_info`. -/
def createClientRoutingInfo (target : UInt16) : RoutingManagerStub :=
  { s with clientRoutingInfo := Function.update s.clientRoutingInfo target (some []) }

/-- `routing_manager_stub::insert_client_routing_info`. -/
def insertClientRoutingInfo (target : UInt16) (entry : RoutingInfoEntry) : RoutingManagerStub :=
  match s.clientRoutingInfo target with
  | none => s
  | some entries =>
    { s with
      connectionMatrix := Function.update s.connectionMatrix target
        ((s.connectionMatrix target).insert entry.client)
      clientRoutingInfo := Function.update s.clientRoutingInfo target (some (entries ++ [entry])) }

/-- `routing_manager_stub::send_client_routing_info`. A command that is longer than a local message is
not sent. If `VSOMEIP_MAX_LOCAL_MESSAGE_SIZE` is zero, the source hands it on, and the endpoint drops
it. -/
def sendClientRoutingInfo (target : UInt16) : RoutingManagerStub :=
  match s.clientRoutingInfo target with
  | none => s
  | some entries =>
    if s.localEndpoints target then
      { s with
        sent :=
          if RoutingInfoEntry.commandSize entries ≤ host.maxLocalMessageSize then
            Function.update s.sent target (s.sent target ++ [entries])
          else s.sent
        clientRoutingInfo := Function.update s.clientRoutingInfo target none }
    else s

/-- A command with one entry is created and sent. -/
def tell (target : UInt16) (entry : RoutingInfoEntry) : RoutingManagerStub :=
  ((s.createClientRoutingInfo target).insertClientRoutingInfo target entry).sendClientRoutingInfo host
    target

/-- `routing_manager_stub::is_already_connected`. -/
def isAlreadyConnected (source sink : UInt16) : Bool :=
  (s.connectionMatrix source).contains sink

/-- Some of the requests of a client are for a service and an instance. -/
def anyMatches (requests : List (UInt16 × UInt16)) (service instance_ : UInt16) : Bool :=
  requests.any fun r => r.1 == service && (r.2 == anyInstance || r.2 == instance_)

/-- One round of the loop of `inform_requesters`, for a client with its requests. -/
def informRequester (hoster service instance_ : UInt16) (entry : RoutingInfoEntry)
    (informService : Bool) (s : RoutingManagerStub) (r : UInt16 × List (UInt16 × UInt16)) :
    RoutingManagerStub :=
  if anyMatches r.2 service instance_ then
    let s :=
      if informService ∧ IsProxy host hoster ∧ ¬ s.isAlreadyConnected hoster r.1 then
        s.tell host hoster (.addClient r.1)
      else s
    if IsProxy host r.1 then s.tell host r.1 entry else s
  else s

/-- `routing_manager_stub::inform_requesters`. -/
def informRequesters (hoster service instance_ : UInt16) (entry : RoutingInfoEntry)
    (informService : Bool) : RoutingManagerStub :=
  s.serviceRequests.toList.foldl
    (informRequester host hoster service instance_ entry informService) s

/-- The assignment to `routing_info_[_client].second[_service][_instance]`. -/
def setVersion (client service instance_ : UInt16) (version : Version) : RoutingManagerStub :=
  let offers := s.routingInfo.getD client ∅
  let instances := offers.getD service ∅
  { s with
    routingInfo := s.routingInfo.insert client
      (offers.insert service (instances.insert instance_ version)) }

/-- `routing_manager_stub::on_offer_service`. -/
def onOfferService (client service instance_ : UInt16) (version : Version) : RoutingManagerStub :=
  if client = routingClient ∨ host.isOfferAllowed client service instance_ then
    (s.setVersion client service instance_ version).informRequesters host client service instance_
      (.addService client service instance_ version) true
  else s

/-- The instance is erased from `routing_info_`, and the service with its last instance. -/
def eraseVersion (client service instance_ : UInt16) : RoutingManagerStub :=
  let offers := s.routingInfo.getD client ∅
  let instances := (offers.getD service ∅).erase instance_
  { s with
    routingInfo := s.routingInfo.insert client
      (if instances.isEmpty then offers.erase service else offers.insert service instances) }

/-- `routing_manager_stub::on_stop_offer_service`. -/
def onStopOfferService (client service instance_ : UInt16) (version : Version) :
    RoutingManagerStub :=
  match s.version client service instance_ with
  | none => s
  | some found =>
    if version = found ∨ version = .default then
      (s.eraseVersion client service instance_).informRequesters host client service instance_
        (.delService client service instance_ version) false
    else s

/-- The loop of `handle_requests` over `routing_info_`, which is left at the first client that is
found: the client, and the instances that answer the request. -/
def findHost (service instance_ : UInt16) : Option (UInt16 × List (UInt16 × Version)) :=
  s.routingInfo.toList.findSome? fun (client, offers) => do
    let instances ← offers[service]?
    if instance_ = anyInstance then some (client, instances.toList)
    else do
      let version ← instances[instance_]?
      some (client, [(instance_, version)])

/-- `service_requests_[_client][_service][_instance]` is set. -/
def addRequest (client : UInt16) (request : UInt16 × UInt16) : RoutingManagerStub :=
  { s with
    serviceRequests := s.serviceRequests.insert client ((s.requestsOf client).insert request) }

/-- One round of the loop of `handle_requests`, for one request. The flag is `service_available`. -/
def handleRequest (client : UInt16) (x : RoutingManagerStub × Bool) (request : UInt16 × UInt16) :
    RoutingManagerStub × Bool :=
  let s := x.1.addRequest client request
  match s.findHost request.1 request.2 with
  | none => (s, x.2)
  | some (found, instances) =>
    let (s, available) :=
      if IsProxy host found ∧ ¬ s.isAlreadyConnected found client then
        if client = found then (s.insertClientRoutingInfo found (.addClient client), true)
        else (s.tell host found (.addClient client), x.2)
      else (s, x.2)
    if IsProxy host client then
      instances.foldl (fun x i =>
        (x.1.insertClientRoutingInfo client (.addService found request.1 i.1 i.2), true))
        (s, available)
    else (s, available)

/-- `routing_manager_stub::handle_requests`. -/
def handleRequests (client : UInt16) (requests : List (UInt16 × UInt16)) : RoutingManagerStub :=
  if requests = [] then s
  else
    let (s, available) :=
      requests.foldl (handleRequest host client) (s.createClientRoutingInfo client, false)
    if available then s.sendClientRoutingInfo host client else s

/-- `routing_manager_stub::on_register_application`. -/
def onRegisterApplication (client : UInt16) : RoutingManagerStub :=
  if s.localEndpoints client then s
  else
    { s with
      localEndpoints := Function.update s.localEndpoints client true
      routingInfo := s.routingInfo.insert client (s.routingInfo.getD client ∅) }

/-- `routing_manager_stub::on_deregister_application`. -/
def onDeregisterApplication (client : UInt16) : RoutingManagerStub :=
  { s with routingInfo := s.routingInfo.erase client }

/-- The clients that are connected to a deregistered one are told. -/
def tellConnected (client : UInt16) : RoutingManagerStub :=
  (s.connectionMatrix client).foldl (fun s target =>
    if target ≠ client ∧ IsProxy host target then s.tell host target (.delClient client) else s) s

/-- The deregistered client is erased from the tables, and its endpoint is removed. -/
def forget (client : UInt16) : RoutingManagerStub :=
  { s with
    connectionMatrix := fun c =>
      if c = client then [] else (s.connectionMatrix c).filter (· ≠ client)
    serviceRequests := s.serviceRequests.erase client
    localEndpoints := Function.update s.localEndpoints client false }

/-- `registration_type_e`. -/
inductive RegistrationType
  | register
  | deregister
  | deregisterOnError
deriving DecidableEq

/-- One round of the loop of `routing_manager_stub::client_registration_func`. -/
def clientRegistration (client : UInt16) : RegistrationType → RoutingManagerStub
  | .register => (s.onRegisterApplication client).tell host client (.addClient client)
  | .deregister =>
    (((s.onDeregisterApplication client).tell host client (.delClient client)).tellConnected host
      client).forget client
  | .deregisterOnError => ((s.onDeregisterApplication client).tellConnected host client).forget client

/-- What happens to the stub: a new proxy of a client is created, a registration or deregistration of
a client is handled, the host has accepted an offer (of the routing client, if the instance is a
remote one) or the end of an offer, or a client requests services. -/
inductive Event
  | start (client : UInt16)
  | registration (client : UInt16) (type : RegistrationType)
  | offer (client service instance_ : UInt16) (version : Version)
  | stopOffer (client service instance_ : UInt16) (version : Version)
  | request (client : UInt16) (requests : List (UInt16 × UInt16))

/-- The stub after an event. -/
def step (s : RoutingManagerStub) : Event → RoutingManagerStub
  | .start client => { s with sent := Function.update s.sent client [] }
  | .registration client type => s.clientRegistration host client type
  | .offer client service instance_ version => s.onOfferService host client service instance_ version
  | .stopOffer client service instance_ version =>
    s.onStopOfferService host client service instance_ version
  | .request client requests => s.handleRequests host client requests

end RoutingManagerStub

end Vsomeip
