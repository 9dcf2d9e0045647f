import Mathlib.Data.List.Basic
import Vsomeip.Routing.RoutingInfo

set_option relaxedAutoImplicit false
set_option autoImplicit false

/-!
# Offers of local service instances

`routing_manager_impl::offer_service` enters an instance in `local_services_`, in `services_` and in
the stub's `routing_info_`, and opens the server endpoints of its ports or, while the network
interface is down, remembers it in `pending_sd_offers_`. A server endpoint is shared by the instances
on its port, which it counts. `stop_offer_service` takes all of this back. When a client deregisters,
the stub takes back what `routing_info_` has of it, by `on_stop_offer_service` alone.

The states are those that are reached by offers and the ends of offers of local instances, by
registrations and deregistrations of clients, and by changes of the network interface and of the route
of the service discovery. Remote offers are modelled by the check with which `add_routing_info` rejects
them. The tables of remote services and of multicast groups, the events and the requests of the service
discovery are left out; an instance that is offered locally has nothing there. `services_` is a
function, so that a service without instances and a missing service are the same.

## Main definitions

* `Vsomeip.LocalOffers` — the tables.
* `Vsomeip.LocalOffers.offerService`, `Vsomeip.LocalOffers.stopOfferService`,
  `Vsomeip.LocalOffers.clientRegistration`,
  `Vsomeip.LocalOffers.onNetInterfaceOrRouteStateChanged` — the operations.
* `Vsomeip.LocalOffers.step` — the state machine.
-/

namespace Vsomeip

/-- `ILLEGAL_PORT`. -/
def illegalPort : UInt16 := 0xFFFF

/-- A service and an instance. -/
abbrev InstanceKey : Type :=
  UInt16 × UInt16

/-- `services_to_report` of `on_deregister_application`: the instances that `routing_info_` has of a
client. -/
def RoutingManagerStub.servicesToReport (s : RoutingManagerStub) (client : UInt16) :
    List InstanceKey :=
  (s.routingInfo.getD client ∅).toList.flatMap fun x => x.2.toList.map fun i => (x.1, i.1)

/-- `serviceinfo`. Endpoints are known by the order in which they were created. -/
structure ServiceInfo where
  version : Version
  isLocal : Bool
  /-- `get_endpoint(_reliable)`. -/
  endpoint : Bool → Option ℕ

/-- `serviceinfo::set_endpoint`. -/
def ServiceInfo.setEndpoint (info : ServiceInfo) (e : Option ℕ) (reliable : Bool) : ServiceInfo :=
  { info with endpoint := Function.update info.endpoint reliable e }

/-- A server endpoint. -/
structure PortEndpoint where
  localPort : UInt16
  isReliable : Bool
  useCount : ℕ
  isStopped : Bool

/-- What the routing manager asks its configuration, and what happens when it opens an endpoint. -/
structure OfferConfig where
  /-- `get_reliable_port` and `get_unreliable_port`. -/
  port : InstanceKey → Bool → UInt16
  isSdEnabled : Bool
  /-- Whether there is a `discovery_`. -/
  discovery : Bool
  /-- Whether the `n`-th attempt to open a server endpoint succeeds. -/
  opens : ℕ → Bool
  host : StubHost

/-- The tables of the routing manager that are about local offers. -/
structure LocalOffers where
  localServices : InstanceKey → Option (Version × UInt16)
  services : InstanceKey → Option ServiceInfo
  pendingSdOffers : List InstanceKey
  stub : RoutingManagerStub
  serverEndpoints : UInt16 → Bool → Option ℕ
  /-- `service_instances_`: the instance of a service that an endpoint leads to. -/
  serviceInstances : UInt16 → List (ℕ × UInt16)
  /-- The endpoints that have been created, which are those below `nextEndpoint`. -/
  endpoints : ℕ → PortEndpoint
  nextEndpoint : ℕ
  /-- How often an endpoint was to be opened. -/
  attempts : ℕ
  ifStateRunning : Bool
  sdRouteSet : Bool
  routingRunning : Bool

namespace LocalOffers

open RoutingManagerStub (RegistrationType)

/-- The routing manager after its start, without a network interface. -/
def init (cfg : OfferConfig) : LocalOffers where
  localServices _ := none
  services _ := none
  pendingSdOffers := []
  stub := .init cfg.host
  serverEndpoints _ _ := none
  serviceInstances _ := []
  endpoints _ := ⟨illegalPort, false, 0, false⟩
  nextEndpoint := 0
  attempts := 0
  ifStateRunning := false
  sdRouteSet := false
  routingRunning := false

variable (cfg : OfferConfig) (s : LocalOffers) (k : InstanceKey)

/-! ## Server endpoints -/

/-- `routing_manager_impl::create_server_endpoint`. -/
def createServerEndpoint (port : UInt16) (reliable : Bool) : LocalOffers × Option ℕ :=
  if cfg.opens s.attempts then
    ({ s with
        attempts := s.attempts + 1
        endpoints := Function.update s.endpoints s.nextEndpoint ⟨port, reliable, 0, false⟩
        nextEndpoint := s.nextEndpoint + 1
        serverEndpoints := Function.update s.serverEndpoints port
          (Function.update (s.serverEndpoints port) reliable (some s.nextEndpoint)) },
      some s.nextEndpoint)
  else ({ s with attempts := s.attempts + 1 }, none)

/-- `routing_manager_impl::find_or_create_server_endpoint`. -/
def findOrCreateServerEndpoint (port : UInt16) (reliable : Bool) : LocalOffers × Option ℕ :=
  match s.serverEndpoints port reliable with
  | some e => (s, some e)
  | none => s.createServerEndpoint cfg port reliable

/-- An endpoint is used by an instance: it is set in its service info, counts it and leads to it. -/
def attach (e : ℕ) (reliable : Bool) : LocalOffers :=
  { s with
    services := Function.update s.services k ((s.services k).map (·.setEndpoint (some e) reliable))
    endpoints := Function.update s.endpoints e
      { s.endpoints e with useCount := (s.endpoints e).useCount + 1 }
    serviceInstances := Function.update s.serviceInstances k.1
      ((s.serviceInstances k.1).filter (·.1 ≠ e) ++ [(e, k.2)]) }

/-- The part of `init_service_info` for one of the two ports. -/
def initEndpoint (reliable : Bool) : LocalOffers :=
  if cfg.port k reliable = illegalPort then s
  else
    match s.findOrCreateServerEndpoint cfg (cfg.port k reliable) reliable with
    | (s, none) => s
    | (s, some e) => s.attach k e reliable

/-- `routing_manager_impl::init_service_info` for a local instance. -/
def initServiceInfo : LocalOffers :=
  match s.services k with
  | none => s
  | some _ => (s.initEndpoint cfg k true).initEndpoint cfg k false

/-! ## Offers -/

/-- `routing_manager_base::offer_service`: the service info is created, unless there is one, which
must be local and of the same version. -/
def baseOfferService (version : Version) : LocalOffers × Bool :=
  match s.services k with
  | none =>
    ({ s with
        services := Function.update s.services k (some ⟨version, true, fun _ => none⟩) }, true)
  | some info => (s, info.isLocal && info.version == version)

/-- `routing_manager_impl::handle_local_offer_service`. The instance may be offered already, in the
same version and by another client: then that client is pinged and the offer waits for its answer,
unless it has no endpoint (and is not the host itself) or cannot be sent the ping, which is what
`unreachable` says. -/
def handleLocalOfferService (client : UInt16) (version : Version) (unreachable : Bool) :
    LocalOffers × Bool :=
  let accept : LocalOffers × Bool :=
    let x := s.baseOfferService k version
    if x.2 then
      ({ x.1 with
          localServices := Function.update x.1.localServices k (some (version, client)) }, true)
    else (x.1, false)
  match s.localServices k with
  | none => accept
  | some (storedVersion, storedClient) =>
    if storedVersion = version ∧ storedClient ≠ client ∧ unreachable then accept else (s, false)

/-- `routing_manager_impl::offer_service`. -/
def offerService (client : UInt16) (version : Version) (unreachable : Bool) : LocalOffers × Bool :=
  let x := s.handleLocalOfferService k client version unreachable
  if x.2 then
    let s :=
      if x.1.ifStateRunning then x.1.initServiceInfo cfg k
      else { x.1 with pendingSdOffers := x.1.pendingSdOffers ++ [k] }
    ({ s with stub := s.stub.onOfferService cfg.host client k.1 k.2 version }, true)
  else (x.1, false)

/-! ## Ends of offers -/

/-- `routing_manager_base::clear_service_info`. -/
def clearServiceInfo (reliable : Bool) : LocalOffers :=
  match s.services k with
  | none => s
  | some info =>
    { s with
      services := Function.update s.services k
        (if info.endpoint (!reliable) = none then none else some (info.setEndpoint none reliable)) }

/-- The part of `routing_manager_impl::del_routing_info` that is about a local instance. -/
def delRoutingInfo (hasReliable hasUnreliable : Bool) : LocalOffers :=
  match s.services k with
  | none => s
  | some info =>
    let s :=
      { s with stub := s.stub.onStopOfferService cfg.host routingClient k.1 k.2 info.version }
    let s := if hasReliable then s.clearServiceInfo k true else s
    let s := if hasUnreliable then s.clearServiceInfo k false else s
    if !hasReliable && !hasUnreliable then (s.clearServiceInfo k true).clearServiceInfo k false else s

/-- An endpoint is no longer used by an instance. If the service has one endpoint only, it is erased
from `service_instances_`; the last instance stops the endpoint. -/
def detach (e : ℕ) (reliable : Bool) : LocalOffers :=
  let ep := { s.endpoints e with useCount := (s.endpoints e).useCount - 1 }
  let isLastService := ep.useCount = 0
  { s with
    endpoints := Function.update s.endpoints e (if isLastService then { ep with isStopped := true }
      else ep)
    serviceInstances := Function.update s.serviceInstances k.1
      (if (s.serviceInstances k.1).length ≤ 1 then []
        else (s.serviceInstances k.1).filter (·.1 ≠ e))
    serverEndpoints :=
      if isLastService then
        Function.update s.serverEndpoints ep.localPort
          (Function.update (s.serverEndpoints ep.localPort) reliable none)
      else s.serverEndpoints }

/-- One round of the loop of `on_stop_offer_service` over the endpoints that were held before. -/
def cleanup (reliable : Bool) (e : Option ℕ) : LocalOffers :=
  match e with
  | none => s
  | some e => (s.detach k e reliable).clearServiceInfo k reliable

/-- The client that has offered the instance erases it from `local_services_`. -/
def eraseLocalService (client : UInt16) : LocalOffers :=
  match s.localServices k with
  | none => s
  | some (_, storedClient) =>
    if storedClient = client then
      { s with localServices := Function.update s.localServices k none }
    else s

/-- `routing_manager_impl::on_stop_offer_service`. -/
def onStopOfferService (client : UInt16) : LocalOffers :=
  let s := s.eraseLocalService k client
  match s.services k with
  | none => s
  | some info =>
    let s :=
      if cfg.discovery then s
      else s.delRoutingInfo cfg k (info.endpoint true).isSome (info.endpoint false).isSome
    (s.cleanup k true (info.endpoint true)).cleanup k false (info.endpoint false)

/-- `routing_manager_impl::stop_offer_service`. -/
def stopOfferService (client : UInt16) (version : Version) : LocalOffers :=
  let s := { s with pendingSdOffers := s.pendingSdOffers.erase k }
  let s := s.onStopOfferService cfg k client
  { s with stub := s.stub.onStopOfferService cfg.host client k.1 k.2 version }

/-! ## Registrations -/

/-- `routing_manager_stub::on_deregister_application`. -/
def onDeregisterApplication (client : UInt16) : LocalOffers :=
  (s.stub.servicesToReport client).foldl (fun s k => s.onStopOfferService cfg k client)
    { s with stub := s.stub.onDeregisterApplication client }

/-- The part of `routing_manager_base::remove_local` that is about `local_services_`. -/
def removeLocal (client : UInt16) : LocalOffers :=
  { s with localServices := fun k => (s.localServices k).filter (·.2 ≠ client) }

/-- One round of the loop of `routing_manager_stub::client_registration_func`. After the ends of the
offers of a client that deregisters, the stub erases nothing more of it in `routing_info_`. -/
def clientRegistration (client : UInt16) (type : RegistrationType) : LocalOffers :=
  let s := if type = .register then s else s.onDeregisterApplication cfg client
  let s := { s with stub := s.stub.clientRegistration cfg.host client type }
  if type = .register then s else s.removeLocal client

/-! ## The network -/

/-- `routing_manager_impl::start_ip_routing`. -/
def startIpRouting : LocalOffers :=
  let s := s.pendingSdOffers.foldl (fun s k => s.initServiceInfo cfg k) s
  { s with pendingSdOffers := [], routingRunning := true }

/-- `routing_manager_impl::on_net_interface_or_route_state_changed`. -/
def onNetInterfaceOrRouteStateChanged (isInterface available : Bool) : LocalOffers :=
  if isInterface then
    if available && !s.ifStateRunning then
      let s := { s with ifStateRunning := true }
      if !s.routingRunning && (!cfg.isSdEnabled || s.sdRouteSet) then s.startIpRouting cfg else s
    else s
  else if available && !s.sdRouteSet then
    let s := { s with sdRouteSet := true }
    if !s.routingRunning && s.ifStateRunning then s.startIpRouting cfg else s
  else s

/-! ## Runs -/

/-- What happens to the routing manager. -/
inductive Event
  | offer (k : InstanceKey) (client : UInt16) (version : Version) (unreachable : Bool)
  | stopOffer (k : InstanceKey) (client : UInt16) (version : Version)
  | registration (client : UInt16) (type : RegistrationType)
  | network (isInterface available : Bool)

/-- The routing manager after an event. -/
def step (s : LocalOffers) : Event → LocalOffers
  | .offer k client version unreachable => (s.offerService cfg k client version unreachable).1
  | .stopOffer k client version => s.stopOfferService cfg k client version
  | .registration client type => s.clientRegistration cfg client type
  | .network isInterface available => s.onNetInterfaceOrRouteStateChanged cfg isInterface available

/-- `add_routing_info` does not reject a remote offer of the instance. -/
def AcceptsRoutingInfo : Prop :=
  ∀ info, s.services k = some info → info.isLocal = false

end LocalOffers

end Vsomeip
