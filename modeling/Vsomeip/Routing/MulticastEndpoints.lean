import Mathlib.Data.List.AList
import Vsomeip.Routing.InsertSubscription

set_option relaxedAutoImplicit false
set_option autoImplicit false

/-!
# Endpoints that receive multicast events

When a remote host acknowledges the subscription of an eventgroup with a multicast address,
`on_subscribe_ack` opens the UDP endpoint of the multicast port, or takes the one that is open, lets
it join the address, and enters it for the service instance. `clear_multicast_endpoints` closes it
again. The clients that are still subscribed to an eventgroup that was acknowledged with a multicast
address should have their endpoint.

The endpoint of a port is shared by all eventgroups and instances on it, and an instance has one
entry in `multicast_info` for all of its eventgroups and clients. But every `unsubscribe` of any
client closes the endpoint of the instance. The entries of other instances of the service can be
lost as well, and an instance whose endpoint was closed with that of another one is not entered
again. In runs in which nobody else needs what a step closes or replaces, the endpoints are there.

Of service discovery the model keeps which eventgroups are subscribed at the remote host, because
acknowledgements of others are dropped, and with which address an eventgroup was acknowledged, which
is a log that the code does not read. The client endpoints through which service discovery reaches a
service are named with the steps that enter or remove them. Sockets can be opened and join the groups
they are told to. The payloads of the events and the local services are left out.

## Main definitions

* `Vsomeip.Multicast.onSubscribeAck`, `Vsomeip.Multicast.clearMulticastEndpoints` — the functions of
  `routing_manager_impl`.
* `Vsomeip.Multicast.Receiving` — every subscribed client receives.
* `Vsomeip.Multicast.Unneeded` — nobody else needs what a step closes or replaces.

## Main results

* `Vsomeip.Multicast.receiving_along_iff` — the clients receive along a run exactly if all of its
  steps meet the condition.
-/

namespace Vsomeip

open Function (update)

/-- The `endpoint` objects that are keys of `service_instances_`. -/
inductive EndpointPointer
  | client (n : ℕ)
  | server (n : ℕ)
deriving DecidableEq

/-- A server endpoint for unreliable messages, with `joined_`: a `udp_server_endpoint_impl`, or a
`virtual_server_endpoint_impl`, which does nothing. -/
structure MulticastEndpoint (Address : Type) where
  pointer : ℕ
  isUdp : Bool
  joined : List Address

/-- The tables of `routing_manager_impl`, the eventgroups that service discovery has subscribed at the
remote hosts, and the log of the acknowledgements. -/
structure Multicast (Address : Type) where
  registry : EventRegistry
  requested : ServiceKey → UInt16 → Bool
  acknowledged : ServiceKey → UInt16 → Option (Address × UInt16)
  multicastInfo : ServiceKey → Option (Address × UInt16)
  serverEndpoints : UInt16 → Option (MulticastEndpoint Address)
  serviceInstances : UInt16 → AList fun _ : EndpointPointer => UInt16
  next : ℕ

/-- What can happen: calls of local clients, acknowledgements and the loss of a remote service. -/
inductive MulticastAction (Address : Type)
  | subscribe (service : ServiceKey) (eventgroup event client : UInt16) (endpoints : List ℕ)
  | unsubscribe (service : ServiceKey) (eventgroup event client : UInt16)
  | subscribeAck (service : ServiceKey) (eventgroup : UInt16) (address : Address) (port : UInt16)
  | releaseService (service : ServiceKey) (isLast : Bool) (endpoints : List ℕ)
  | delRoutingInfo (service : ServiceKey) (endpoints : List ℕ)

/-- `is_someip` of the configuration, and the debounce functions of the events. -/
structure MulticastConfig where
  isSomeip : ServiceKey → Bool
  debounce : ServiceKey → UInt16 → List UInt8 → List UInt8 → Bool

section Model

variable {Address : Type}

/-- `join` of a server endpoint. -/
def MulticastEndpoint.join [DecidableEq Address] (ep : MulticastEndpoint Address) (address : Address) :
    MulticastEndpoint Address :=
  if ep.isUdp ∧ address ∉ ep.joined then { ep with joined := address :: ep.joined } else ep

namespace Multicast

/-- `service_instances_` of a service when client endpoints for an instance are entered. -/
def withClientEndpoints (instances : AList fun _ : EndpointPointer => UInt16) (inst : UInt16)
    (endpoints : List ℕ) : AList fun _ : EndpointPointer => UInt16 :=
  endpoints.foldl (fun l n => l.insert (.client n) inst) instances

/-- `service_instances_` of a service after `clear_client_endpoints`. -/
def clearClientEndpoints (instances : AList fun _ : EndpointPointer => UInt16)
    (endpoints : List ℕ) : AList fun _ : EndpointPointer => UInt16 :=
  endpoints.foldl (fun l n => l.erase (.client n)) instances

/-- Replace the entry of a service in `service_instances_`. -/
def setInstances (s : Multicast Address) (service : UInt16)
    (instances : AList fun _ : EndpointPointer => UInt16) : Multicast Address :=
  { s with serviceInstances := update s.serviceInstances service instances }

/-- `find_instance`, with `none` for the invalid instance 0xFFFF. -/
def findInstance (s : Multicast Address) (service : UInt16) (pointer : EndpointPointer) :
    Option UInt16 :=
  (s.serviceInstances service).lookup pointer

/-- `find_or_create_server_endpoint` for the unreliable endpoint of a port. A new endpoint is not yet
in the table. -/
def findOrCreateServerEndpoint (cfg : MulticastConfig) (s : Multicast Address) (service : ServiceKey)
    (port : UInt16) : MulticastEndpoint Address :=
  (s.serverEndpoints port).getD ⟨s.next, cfg.isSomeip service, []⟩

/-- `on_subscribe_ack` with a multicast address. -/
def onSubscribeAck [DecidableEq Address] (cfg : MulticastConfig) (s : Multicast Address)
    (service : ServiceKey) (address : Address) (port : UInt16) : Multicast Address :=
  let multicastKnown := s.multicastInfo service = some (address, port)
  let ep := s.findOrCreateServerEndpoint cfg service port
  { s with
    multicastInfo := update s.multicastInfo service (some (address, port))
    serverEndpoints := update s.serverEndpoints port (some (ep.join address))
    serviceInstances :=
      if multicastKnown then s.serviceInstances
      else update s.serviceInstances service.1
        ((s.serviceInstances service.1).insert (.server ep.pointer) service.2)
    next := if (s.serverEndpoints port).isSome then s.next else s.next + 1 }

/-- `service_instances_` of a service after `clear_multicast_endpoints` has closed an endpoint. -/
def withoutEndpoint (instances : AList fun _ : EndpointPointer => UInt16)
    (ep : Option (MulticastEndpoint Address)) : AList fun _ : EndpointPointer => UInt16 :=
  if instances.keys.length ≤ 1 then ∅
  else match ep with
    | some ep => instances.erase (.server ep.pointer)
    | none => instances

/-- `clear_multicast_endpoints`. An endpoint that is not in `server_endpoints_` any more has left its
groups and is stopped. -/
def clearMulticastEndpoints (s : Multicast Address) (service : ServiceKey) : Multicast Address :=
  match s.multicastInfo service with
  | none => s
  | some (_, port) =>
    { s with
      multicastInfo := update s.multicastInfo service none
      serverEndpoints := update s.serverEndpoints port none
      serviceInstances := update s.serviceInstances service.1
        (withoutEndpoint (s.serviceInstances service.1) (s.serverEndpoints port)) }

/-- Replace the entries of an eventgroup in service discovery. -/
def setSubscription (s : Multicast Address) (service : ServiceKey) (eventgroup : UInt16)
    (requested : Bool) (acknowledged : Option (Address × UInt16)) : Multicast Address :=
  { s with
    requested := fun k g => if k = service ∧ g = eventgroup then requested else s.requested k g
    acknowledged := fun k g =>
      if k = service ∧ g = eventgroup then acknowledged else s.acknowledged k g }

/-- `subscribe` for a remote service. Service discovery subscribes at the remote host for a new
subscriber, and finds or creates the client endpoints. -/
def subscribe (cfg : MulticastConfig) (s : Multicast Address) (service : ServiceKey)
    (eventgroup event client : UInt16) (endpoints : List ℕ) : Multicast Address :=
  let (registry, inserted) := s.registry.insertSubscription (cfg.debounce service event) true service
    eventgroup event client
  let s := { s with registry := registry }
  if inserted then
    (s.setSubscription service eventgroup true (s.acknowledged service eventgroup)).setInstances
      service.1 (withClientEndpoints (s.serviceInstances service.1) service.2 endpoints)
  else s

/-- `unsubscribe` for a remote service. With the last subscriber the eventgroup is unsubscribed at the
remote host. -/
def unsubscribe (s : Multicast Address) (service : ServiceKey) (eventgroup event client : UInt16) :
    Multicast Address :=
  let registry := s.registry.removeSubscription service eventgroup event client
  let s := { s with registry := registry }
  (if registry.lastSubscriberRemoved service eventgroup then
      s.setSubscription service eventgroup false none
    else s).clearMulticastEndpoints service

/-- `handle_eventgroup_subscription_ack` with a multicast address. -/
def subscribeAck [DecidableEq Address] (cfg : MulticastConfig) (s : Multicast Address)
    (service : ServiceKey) (eventgroup : UInt16) (address : Address) (port : UInt16) :
    Multicast Address :=
  if s.requested service eventgroup then
    (s.setSubscription service eventgroup true (some (address, port))).onSubscribeAck cfg service
      address port
  else s

/-- No eventgroup of a service instance is acknowledged any more. With `release` none is subscribed at
the remote host either. -/
def forget (s : Multicast Address) (service : ServiceKey) (release : Bool) : Multicast Address :=
  { s with
    requested := fun k g => if k = service ∧ release then false else s.requested k g
    acknowledged := fun k g => if k = service then none else s.acknowledged k g }

/-- `release_service` for a remote service. With the last requester service discovery unsubscribes
all eventgroups. -/
def releaseService (s : Multicast Address) (service : ServiceKey) (isLast : Bool)
    (endpoints : List ℕ) : Multicast Address :=
  (if isLast then s.forget service true else s).setInstances service.1
    (clearClientEndpoints (s.serviceInstances service.1) endpoints)

/-- `del_routing_info` for a remote service that is not offered any more. -/
def delRoutingInfo (s : Multicast Address) (service : ServiceKey) (endpoints : List ℕ) :
    Multicast Address :=
  ((s.forget service false).setInstances service.1
    (clearClientEndpoints (s.serviceInstances service.1) endpoints)).clearMulticastEndpoints service

/-- A step. -/
def step [DecidableEq Address] (cfg : MulticastConfig) (s : Multicast Address) :
    MulticastAction Address → Multicast Address
  | .subscribe service eventgroup event client endpoints =>
    s.subscribe cfg service eventgroup event client endpoints
  | .unsubscribe service eventgroup event client => s.unsubscribe service eventgroup event client
  | .subscribeAck service eventgroup address port => s.subscribeAck cfg service eventgroup address port
  | .releaseService service isLast endpoints => s.releaseService service isLast endpoints
  | .delRoutingInfo service endpoints => s.delRoutingInfo service endpoints

/-- Some calls have registered and unregistered events, and nobody has subscribed. -/
def init (rs : List RegistryAction) : Multicast Address where
  registry := (Runs.run EventLedger.step EventLedger.init rs).registry
  requested := fun _ _ => false
  acknowledged := fun _ _ => none
  multicastInfo := fun _ => none
  serverEndpoints := fun _ => none
  serviceInstances := fun _ => ∅
  next := 0

/-- Events for a multicast address and port are received for a service instance. -/
def Receives (s : Multicast Address) (service : ServiceKey) (address : Address) (port : UInt16) :
    Prop :=
  s.multicastInfo service ≠ none ∧
    ∃ ep, s.serverEndpoints port = some ep ∧ ep.isUdp ∧ address ∈ ep.joined ∧
      s.findInstance service.1 (.server ep.pointer) = some service.2

/-- If a client is subscribed to an eventgroup that was acknowledged with a multicast address, the
events are received. -/
def Receiving (s : Multicast Address) : Prop :=
  ∀ k g c address port, s.registry.IsSubscribed k g c → s.acknowledged k g = some (address, port) →
    s.Receives k address port

/-- An eventgroup stays acknowledged when a client unsubscribes: it is not the eventgroup of the call,
or somebody is left on its events. -/
def Remains (s : Multicast Address) (service : ServiceKey) (eventgroup event client : UInt16)
    (k : ServiceKey) (g : UInt16) : Prop :=
  ¬ (k = service ∧ g = eventgroup) ∨
    ∃ c, ∃ p ∈ s.registry.findEvents service eventgroup,
      s.registry.Keeps service eventgroup event client p c

/-- What `clear_multicast_endpoints` removes is not needed for an acknowledged eventgroup of the
instance `k` on a port, where `instances` is the entry of the service in `service_instances_`. -/
def Spares (s : Multicast Address) (service : ServiceKey)
    (instances : AList fun _ : EndpointPointer => UInt16) (k : ServiceKey) (port : UInt16) : Prop :=
  ∀ a p, s.multicastInfo service = some (a, p) →
    k ≠ service ∧ port ≠ p ∧ (k.1 = service.1 → 1 < instances.keys.length)

/-- The condition on a step: nobody else needs what it closes or replaces.
* When a client unsubscribes or a service is lost, the eventgroups that stay acknowledged are of other
  instances and on other ports, and those of the same service are not the only entries.
* An acknowledgement finds a UDP endpoint or can create one, and an endpoint of a known address is
  entered for the instance. The endpoint of a new address is not needed for another instance of the
  service. -/
def Unneeded (cfg : MulticastConfig) (s : Multicast Address) : MulticastAction Address → Prop
  | .subscribe .. => True
  | .unsubscribe service eventgroup event client =>
    ∀ k g address port, s.acknowledged k g = some (address, port) →
      s.Remains service eventgroup event client k g →
      s.Spares service (s.serviceInstances service.1) k port
  | .subscribeAck service eventgroup address port =>
    s.requested service eventgroup →
    (match s.serverEndpoints port with
      | none => cfg.isSomeip service ∧ s.multicastInfo service ≠ some (address, port)
      | some ep => ep.isUdp ∧ (s.multicastInfo service = some (address, port) →
          s.findInstance service.1 (.server ep.pointer) = some service.2)) ∧
    (s.multicastInfo service ≠ some (address, port) → ∀ k g a,
      s.acknowledged k g = some (a, port) → k.1 = service.1 → k.2 = service.2)
  | .releaseService .. => True
  | .delRoutingInfo service endpoints =>
    ∀ k g address port, s.acknowledged k g = some (address, port) → k ≠ service →
      s.Spares service (clearClientEndpoints (s.serviceInstances service.1) endpoints) k port

/-! ## Pointers -/

/-- The server endpoints are made once, and only those that have been made are entered. -/
structure Allocated (s : Multicast Address) : Prop where
  pointer_lt : ∀ {port ep}, s.serverEndpoints port = some ep → ep.pointer < s.next
  pointer_inj : ∀ {p q ep eq}, s.serverEndpoints p = some ep → s.serverEndpoints q = some eq →
    ep.pointer = eq.pointer → p = q
  entry_lt : ∀ {service n i}, s.findInstance service (.server n) = some i → n < s.next

variable {s : Multicast Address} {cfg : MulticastConfig}

/-- Client endpoints do not change the entries of server endpoints. -/
lemma lookup_withClientEndpoints (instances : AList fun _ : EndpointPointer => UInt16) (inst : UInt16)
    (endpoints : List ℕ) (n : ℕ) :
    (withClientEndpoints instances inst endpoints).lookup (.server n) =
      instances.lookup (.server n) := by
  induction endpoints generalizing instances with
  | nil => rfl
  | cons m endpoints ih =>
    rw [withClientEndpoints, List.foldl_cons]
    exact (ih _).trans (AList.lookup_insert_ne fun h => by cases h)

/-- Clearing the client endpoints keeps the server endpoints. -/
lemma lookup_clearClientEndpoints (instances : AList fun _ : EndpointPointer => UInt16)
    (endpoints : List ℕ) (n : ℕ) :
    (clearClientEndpoints instances endpoints).lookup (.server n) =
      instances.lookup (.server n) := by
  induction endpoints generalizing instances with
  | nil => rfl
  | cons m endpoints ih =>
    rw [clearClientEndpoints, List.foldl_cons]
    exact (ih _).trans (AList.lookup_erase_ne fun h => by cases h)

/-- What is entered after an endpoint was closed had been entered before. -/
lemma lookup_of_withoutEndpoint {instances : AList fun _ : EndpointPointer => UInt16}
    {ep : Option (MulticastEndpoint Address)} {n : ℕ} {i : UInt16}
    (h : (withoutEndpoint instances ep).lookup (.server n) = some i) :
    1 < instances.keys.length ∧ instances.lookup (.server n) = some i := by
  unfold withoutEndpoint at h
  by_cases hlength : instances.keys.length ≤ 1
  · rw [if_pos hlength, AList.lookup_empty] at h
    cases h
  · rw [if_neg hlength] at h
    refine ⟨Nat.lt_of_not_le hlength, ?_⟩
    cases ep with
    | none => exact h
    | some ep =>
      by_cases hn : n = ep.pointer
      · subst hn
        rw [AList.lookup_erase] at h
        cases h
      · rwa [AList.lookup_erase_ne fun heq => hn (EndpointPointer.server.inj heq)] at h

/-- The entries of other endpoints stay, if there is more than one. -/
lemma lookup_withoutEndpoint_of_ne {instances : AList fun _ : EndpointPointer => UInt16}
    {ep : Option (MulticastEndpoint Address)} {n : ℕ} (hlength : 1 < instances.keys.length)
    (hn : ∀ ep', ep = some ep' → ep'.pointer ≠ n) :
    (withoutEndpoint instances ep).lookup (.server n) = instances.lookup (.server n) := by
  unfold withoutEndpoint
  rw [if_neg (Nat.not_le_of_lt hlength)]
  cases ep with
  | none => rfl
  | some ep =>
    refine AList.lookup_erase_ne fun heq => hn ep rfl ?_
    exact (EndpointPointer.server.inj heq).symm

/-- Instances found by server endpoints depend on these only. -/
lemma findInstance_setInstances_of_lookup {service : UInt16}
    {instances : AList fun _ : EndpointPointer => UInt16}
    (h : ∀ n, instances.lookup (.server n) = (s.serviceInstances service).lookup (.server n))
    (service' : UInt16) (n : ℕ) :
    (s.setInstances service instances).findInstance service' (.server n) =
      s.findInstance service' (.server n) := by
  simp only [findInstance, setInstances]
  by_cases hservice : service' = service
  · subst hservice
    rw [Function.update_self]
    exact h n
  · rw [Function.update_of_ne hservice]

/-! ## What the tables give after a step -/

/-- What is received depends on the server endpoints only. -/
lemma receives_setInstances_of_lookup {service : UInt16}
    {instances : AList fun _ : EndpointPointer => UInt16}
    (h : ∀ n, instances.lookup (.server n) = (s.serviceInstances service).lookup (.server n))
    (k : ServiceKey) (address : Address) (port : UInt16) :
    (s.setInstances service instances).Receives k address port ↔ s.Receives k address port := by
  unfold Receives
  simp only [findInstance_setInstances_of_lookup h]
  rfl

/-- Closing an endpoint keeps what it spares, and nothing else. -/
lemma Allocated.receives_clear_iff (hs : s.Allocated) (service k : ServiceKey) (address : Address)
    (port : UInt16) :
    (s.clearMulticastEndpoints service).Receives k address port ↔
      s.Receives k address port ∧ s.Spares service (s.serviceInstances service.1) k port := by
  unfold clearMulticastEndpoints Spares
  cases hinfo : s.multicastInfo service with
  | none => exact (and_iff_left fun a p h => by cases h).symm
  | some x =>
    obtain ⟨a, p⟩ := x
    constructor
    · rintro ⟨hknown, ep, hep, hudp, hjoined, hfind⟩
      have hk : k ≠ service := by
        rintro rfl
        simp only [Function.update_self, ne_eq, not_true_eq_false] at hknown
      have hport : port ≠ p := by
        rintro rfl
        simp only [Function.update_self] at hep
        cases hep
      have hknown' : s.multicastInfo k ≠ none := by
        simpa only [Function.update_of_ne hk] using hknown
      have hep' : s.serverEndpoints port = some ep := by
        simpa only [Function.update_of_ne hport] using hep
      by_cases hservice : k.1 = service.1
      · simp only [findInstance, hservice, Function.update_self] at hfind
        obtain ⟨hlength, hfind⟩ := lookup_of_withoutEndpoint hfind
        refine ⟨⟨hknown', ep, hep', hudp, hjoined, ?_⟩, ?_⟩
        · rwa [findInstance, hservice]
        · rintro a' p' h
          cases h
          exact ⟨hk, hport, fun _ => hlength⟩
      · simp only [findInstance, Function.update_of_ne hservice] at hfind
        refine ⟨⟨hknown', ep, hep', hudp, hjoined, hfind⟩, ?_⟩
        rintro a' p' h
        cases h
        exact ⟨hk, hport, fun h => absurd h hservice⟩
    · rintro ⟨⟨hknown, ep, hep, hudp, hjoined, hfind⟩, hspares⟩
      obtain ⟨hk, hport, hlength⟩ := hspares a p rfl
      refine ⟨?_, ep, ?_, hudp, hjoined, ?_⟩
      · simpa only [Function.update_of_ne hk] using hknown
      · simpa only [Function.update_of_ne hport] using hep
      · by_cases hservice : k.1 = service.1
        · simp only [findInstance, hservice, Function.update_self]
          rw [lookup_withoutEndpoint_of_ne (hlength hservice), ← hservice]
          · exact hfind
          · intro ep' hep' heq
            exact hport (hs.pointer_inj hep hep' heq.symm)
        · simpa only [findInstance, Function.update_of_ne hservice] using hfind

section Ack

variable [DecidableEq Address] {service : ServiceKey} {address : Address} {port : UInt16}

/-- The groups of an endpoint after it joins one. -/
lemma mem_join (ep : MulticastEndpoint Address) (a : Address) :
    a ∈ (ep.join address).joined ↔ a ∈ ep.joined ∨ ep.isUdp ∧ a = address := by
  unfold MulticastEndpoint.join
  split_ifs with h
  · simp only [List.mem_cons, h.1, true_and, or_comm]
  · refine ⟨.inl, ?_⟩
    rintro (ha | ⟨hudp, rfl⟩)
    · exact ha
    · exact not_not.mp fun hnot => h ⟨hudp, hnot⟩

/-- An endpoint that joins a group is the same endpoint. -/
@[simp] lemma join_pointer (ep : MulticastEndpoint Address) :
    (ep.join address).pointer = ep.pointer := by
  unfold MulticastEndpoint.join
  split_ifs <;> rfl

/-- An endpoint that joins a group keeps its transport. -/
@[simp] lemma join_isUdp (ep : MulticastEndpoint Address) :
    (ep.join address).isUdp = ep.isUdp := by
  unfold MulticastEndpoint.join
  split_ifs <;> rfl

/-- The entries after an acknowledgement. -/
lemma findInstance_onSubscribeAck (service' : UInt16) (pointer : EndpointPointer) :
    (s.onSubscribeAck cfg service address port).findInstance service' pointer =
      if s.multicastInfo service ≠ some (address, port) ∧ service' = service.1 ∧
        pointer = .server (s.findOrCreateServerEndpoint cfg service port).pointer
      then some service.2 else s.findInstance service' pointer := by
  simp only [onSubscribeAck, findInstance]
  by_cases hknown : s.multicastInfo service = some (address, port)
  · simp only [hknown, if_true, ne_eq, not_true_eq_false, false_and, if_false]
  · simp only [hknown, if_false, ne_eq, not_false_eq_true, true_and]
    by_cases hservice : service' = service.1
    · subst hservice
      rw [Function.update_self]
      by_cases hpointer : pointer = .server (s.findOrCreateServerEndpoint cfg service port).pointer
      · subst hpointer
        rw [AList.lookup_insert, if_pos ⟨rfl, rfl⟩]
      · rw [AList.lookup_insert_ne hpointer, if_neg fun h => hpointer h.2]
    · rw [Function.update_of_ne hservice, if_neg fun h => hservice h.1]

/-- When the events of the acknowledged eventgroup are received. -/
lemma Allocated.receives_onSubscribeAck_self (hs : s.Allocated) :
    (s.onSubscribeAck cfg service address port).Receives service address port ↔
      match s.serverEndpoints port with
      | none => cfg.isSomeip service ∧ s.multicastInfo service ≠ some (address, port)
      | some ep => ep.isUdp ∧ (s.multicastInfo service = some (address, port) →
          s.findInstance service.1 (.server ep.pointer) = some service.2) := by
  have hreceives : (s.onSubscribeAck cfg service address port).Receives service address port ↔
      (s.findOrCreateServerEndpoint cfg service port).isUdp ∧
        (s.multicastInfo service = some (address, port) → s.findInstance service.1
          (.server (s.findOrCreateServerEndpoint cfg service port).pointer) = some service.2) := by
    unfold Receives
    simp only [findInstance_onSubscribeAck]
    simp only [onSubscribeAck, Function.update_self, ne_eq, reduceCtorEq, not_false_eq_true, true_and,
      Option.some.injEq, exists_eq_left', join_isUdp, join_pointer, mem_join]
    by_cases hknown : s.multicastInfo service = some (address, port)
    · simp only [hknown, not_true_eq_false, and_true, if_false, true_implies]
      tauto
    · simp only [hknown, not_false_eq_true, and_true, if_true, false_implies]
      tauto
  rw [hreceives, findOrCreateServerEndpoint]
  cases hep : s.serverEndpoints port with
  | none =>
    refine and_congr Iff.rfl ⟨fun h hknown => ?_, fun h hknown => absurd hknown h⟩
    -- a new endpoint is entered only for a new address
    exact absurd (hs.entry_lt (h hknown)) (Nat.lt_irrefl _)
  | some ep => exact Iff.rfl

omit [DecidableEq Address] in
/-- The endpoint of an acknowledgement is that of its port. -/
lemma Allocated.pointer_eq_iff (hs : s.Allocated) {p : UInt16} {ep : MulticastEndpoint Address}
    (hep : s.serverEndpoints p = some ep) :
    EndpointPointer.server ep.pointer =
      .server (s.findOrCreateServerEndpoint cfg service port).pointer ↔ p = port := by
  rw [EndpointPointer.server.injEq, findOrCreateServerEndpoint]
  constructor
  · intro heq
    cases hport : s.serverEndpoints port with
    | none =>
      rw [hport, Option.getD_none] at heq
      exact absurd (hs.pointer_lt hep) (heq ▸ Nat.lt_irrefl s.next)
    | some ep' =>
      rw [hport, Option.getD_some] at heq
      exact hs.pointer_inj hep hport heq
  · rintro rfl
    rw [hep, Option.getD_some]

/-- An endpoint stays, and it stays in the groups that it has joined. -/
lemma serverEndpoints_onSubscribeAck {p : UInt16} {ep : MulticastEndpoint Address}
    (hep : s.serverEndpoints p = some ep) :
    ∃ ep', (s.onSubscribeAck cfg service address port).serverEndpoints p = some ep' ∧
      ep'.pointer = ep.pointer ∧ ep'.isUdp = ep.isUdp ∧ ep.joined ⊆ ep'.joined := by
  simp only [onSubscribeAck]
  by_cases h : p = port
  · subst h
    refine ⟨_, Function.update_self .., ?_⟩
    rw [findOrCreateServerEndpoint, hep, Option.getD_some]
    exact ⟨join_pointer ep, join_isUdp ep, fun a ha => (mem_join ep a).mpr (.inl ha)⟩
  · exact ⟨ep, by rwa [Function.update_of_ne h], rfl, rfl, fun _ => id⟩

/-- The acknowledgement of an eventgroup affects those whose endpoint it enters for another
instance. -/
lemma Allocated.receives_onSubscribeAck_iff (hs : s.Allocated) {k : ServiceKey} {a : Address}
    {p : UInt16} (hk : s.Receives k a p) :
    (s.onSubscribeAck cfg service address port).Receives k a p ↔
      (s.multicastInfo service ≠ some (address, port) → p = port → k.1 = service.1 →
        k.2 = service.2) := by
  obtain ⟨hknown, ep, hep, hudp, hjoined, hfind⟩ := hk
  have hinfo : (s.onSubscribeAck cfg service address port).multicastInfo k ≠ none := by
    simp only [onSubscribeAck]
    by_cases h : k = service
    · subst h
      simp
    · rwa [Function.update_of_ne h]
  have hreceives : (s.onSubscribeAck cfg service address port).Receives k a p ↔
      (s.onSubscribeAck cfg service address port).findInstance k.1 (.server ep.pointer) =
        some k.2 := by
    obtain ⟨ep', hep', hsame, hudp', hjoined'⟩ :=
      @serverEndpoints_onSubscribeAck _ s cfg _ service address port p ep hep
    constructor
    · rintro ⟨-, ep'', hep'', -, -, hfind''⟩
      obtain rfl : ep' = ep'' := Option.some.inj (hep'.symm.trans hep'')
      rwa [← hsame]
    · intro h
      exact ⟨hinfo, ep', hep', hudp'.trans hudp, hjoined' hjoined, hsame ▸ h⟩
  rw [hreceives, findInstance_onSubscribeAck]
  split_ifs with h
  · rw [Option.some.injEq]
    have hport := (hs.pointer_eq_iff hep).mp h.2.2
    exact ⟨fun heq _ _ _ => heq.symm, fun himp => (himp h.1 hport h.2.1).symm⟩
  · refine ⟨fun _ hnew hport hservice => absurd ⟨hnew, hservice, ?_⟩ h, fun _ => hfind⟩
    exact (hs.pointer_eq_iff hep).mpr hport

end Ack

/-! ## What holds in every state -/

/-- Pointers are used for one endpoint each, an acknowledged eventgroup is one that is subscribed at
the remote host, and then a local client is subscribed to it. -/
structure WellFormed (s : Multicast Address) : Prop where
  allocated : s.Allocated
  owned : s.registry.Owned
  requested : ∀ {k g x}, s.acknowledged k g = some x → s.requested k g = true
  subscribed : ∀ {k g}, s.requested k g = true → ∃ c, s.registry.IsSubscribed k g c

/-- The start is well formed. -/
lemma wellFormed_init (rs : List RegistryAction) : (init rs : Multicast Address).WellFormed where
  allocated := by
    refine ⟨fun h => ?_, fun h => ?_, fun h => ?_⟩
    · cases h
    · cases h
    · cases h
  owned := (EventLedger.owned_unsubscribed_run rs).1
  requested h := by cases h
  subscribed h := by cases h

/-- What the clients need are the acknowledged eventgroups. -/
lemma WellFormed.receiving_iff (hs : s.WellFormed) :
    s.Receiving ↔ ∀ k g address port, s.acknowledged k g = some (address, port) →
      s.Receives k address port := by
  constructor
  · intro h k g address port hack
    obtain ⟨c, hc⟩ := hs.subscribed (hs.requested hack)
    exact h k g c address port hc hack
  · intro h k g _ address port _ hack
    exact h k g address port hack

/-- The allocation depends on the endpoints and the instances only. -/
lemma Allocated.congr {s' : Multicast Address} (hs : s.Allocated)
    (hendpoints : s'.serverEndpoints = s.serverEndpoints)
    (hinstances : s'.serviceInstances = s.serviceInstances) (hnext : s'.next = s.next) :
    s'.Allocated where
  pointer_lt h := by
    rw [hendpoints] at h
    exact hnext ▸ hs.pointer_lt h
  pointer_inj h h' := by
    rw [hendpoints] at h h'
    exact hs.pointer_inj h h'
  entry_lt h := by
    rw [findInstance, hinstances] at h
    exact hnext ▸ hs.entry_lt h

/-- Other instances at the client endpoints keep the allocation. -/
lemma Allocated.setInstances (hs : s.Allocated) {service : UInt16}
    {instances : AList fun _ : EndpointPointer => UInt16}
    (h : ∀ n, instances.lookup (.server n) = (s.serviceInstances service).lookup (.server n)) :
    (s.setInstances service instances).Allocated where
  pointer_lt := hs.pointer_lt
  pointer_inj := hs.pointer_inj
  entry_lt hi := by
    rw [findInstance_setInstances_of_lookup h] at hi
    exact hs.entry_lt hi

/-- Clearing the multicast endpoints keeps the allocation. -/
lemma Allocated.clearMulticastEndpoints (hs : s.Allocated) (service : ServiceKey) :
    (s.clearMulticastEndpoints service).Allocated := by
  unfold Multicast.clearMulticastEndpoints
  cases s.multicastInfo service with
  | none => exact hs
  | some x =>
    obtain ⟨a, p⟩ := x
    have hold : ∀ {q ep}, update s.serverEndpoints p none q = some ep →
        s.serverEndpoints q = some ep := by
      intro q ep hq
      by_cases h : q = p
      · rw [h, Function.update_self] at hq
        cases hq
      · rwa [Function.update_of_ne h] at hq
    refine ⟨fun h => hs.pointer_lt (hold h), fun h h' => hs.pointer_inj (hold h) (hold h'),
      fun {service' n i} hi => ?_⟩
    simp only [findInstance] at hi
    by_cases hservice : service' = service.1
    · rw [hservice, Function.update_self] at hi
      exact hs.entry_lt (lookup_of_withoutEndpoint hi).2
    · rw [Function.update_of_ne hservice] at hi
      exact hs.entry_lt hi

/-- An acknowledgement keeps the allocation. -/
lemma Allocated.onSubscribeAck [DecidableEq Address] (hs : s.Allocated) (cfg : MulticastConfig)
    (service : ServiceKey) (address : Address) (port : UInt16) :
    (s.onSubscribeAck cfg service address port).Allocated := by
  -- the endpoint of the port is the one that was there, or a new one behind the next pointer
  have hnext : s.next ≤ (s.onSubscribeAck cfg service address port).next := by
    simp only [Multicast.onSubscribeAck]
    split_ifs <;> omega
  have hnew : (s.findOrCreateServerEndpoint cfg service port).pointer <
      (s.onSubscribeAck cfg service address port).next := by
    simp only [Multicast.onSubscribeAck, findOrCreateServerEndpoint]
    cases hep : s.serverEndpoints port with
    | none => exact Nat.lt_succ_self s.next
    | some ep => exact hs.pointer_lt hep
  have hendpoint : ∀ {q ep}, (s.onSubscribeAck cfg service address port).serverEndpoints q = some ep →
      (q = port ∧ ep.pointer = (s.findOrCreateServerEndpoint cfg service port).pointer) ∨
        q ≠ port ∧ s.serverEndpoints q = some ep := by
    intro q ep hq
    simp only [Multicast.onSubscribeAck] at hq
    by_cases h : q = port
    · rw [h, Function.update_self] at hq
      cases hq
      exact .inl ⟨h, join_pointer _⟩
    · rw [Function.update_of_ne h] at hq
      exact .inr ⟨h, hq⟩
  have hother : ∀ {q ep}, q ≠ port → s.serverEndpoints q = some ep →
      ep.pointer ≠ (s.findOrCreateServerEndpoint cfg service port).pointer := by
    intro q ep hne hq heq
    exact hne ((hs.pointer_eq_iff hq).mp (congrArg EndpointPointer.server heq))
  refine ⟨fun h => ?_, fun {p q ep eq} hp hq heq => ?_, fun {service' n i} h => ?_⟩
  · obtain ⟨-, hep⟩ | ⟨-, hep⟩ := hendpoint h
    · exact hep ▸ hnew
    · exact Nat.lt_of_lt_of_le (hs.pointer_lt hep) hnext
  · obtain ⟨rfl, hep⟩ | ⟨hne, hep⟩ := hendpoint hp
    · obtain ⟨rfl, -⟩ | ⟨hne, heq'⟩ := hendpoint hq
      · rfl
      · exact absurd (heq.symm.trans hep) (hother hne heq')
    · obtain ⟨rfl, heq'⟩ | ⟨-, heq'⟩ := hendpoint hq
      · exact absurd (heq.trans heq') (hother hne hep)
      · exact hs.pointer_inj hep heq' heq
  · rw [findInstance_onSubscribeAck] at h
    split_ifs at h with hif
    · rw [EndpointPointer.server.inj hif.2.2]
      exact hnew
    · exact Nat.lt_of_lt_of_le (hs.entry_lt h) hnext

/-- Closing an endpoint affects no subscriptions. -/
lemma clear_eq (service : ServiceKey) : ∃ f g h, s.clearMulticastEndpoints service =
    { s with multicastInfo := f, serverEndpoints := g, serviceInstances := h } := by
  unfold Multicast.clearMulticastEndpoints
  cases s.multicastInfo service with
  | none => exact ⟨_, _, _, rfl⟩
  | some x => exact ⟨_, _, _, rfl⟩

/-- Clearing the multicast endpoints keeps the state well formed. -/
lemma WellFormed.clearMulticastEndpoints (hs : s.WellFormed) (service : ServiceKey) :
    (s.clearMulticastEndpoints service).WellFormed := by
  have hallocated := hs.allocated.clearMulticastEndpoints service
  obtain ⟨f, g, h, hclear⟩ := @clear_eq _ s service
  rw [hclear] at hallocated ⊢
  exact ⟨hallocated, hs.owned, hs.requested, hs.subscribed⟩

/-- Clearing the multicast endpoints keeps what was acknowledged. -/
@[simp] lemma acknowledged_clear (service : ServiceKey) :
    (s.clearMulticastEndpoints service).acknowledged = s.acknowledged := by
  obtain ⟨f, g, h, hclear⟩ := @clear_eq _ s service
  rw [hclear]

/-- The condition under which an `unsubscribe` keeps an eventgroup acknowledged is read off the events
before the call. -/
lemma acknowledged_unsubscribe (service : ServiceKey) (eventgroup event client : UInt16)
    (k : ServiceKey) (g : UInt16) (x : Address × UInt16) :
    (s.unsubscribe service eventgroup event client).acknowledged k g = some x ↔
      s.acknowledged k g = some x ∧ s.Remains service eventgroup event client k g := by
  have hlast := @EventRegistry.lastSubscriberRemoved_removeSubscription s.registry service eventgroup
    event client
  simp only [unsubscribe, acknowledged_clear, Remains]
  by_cases hremoved : (s.registry.removeSubscription service eventgroup event
      client).lastSubscriberRemoved service eventgroup = true
  · rw [if_pos hremoved]
    have hnone := hlast.mp hremoved
    simp only [setSubscription, hnone, or_false]
    split_ifs with hkey
    · simp [hkey]
    · simp [hkey]
  · rw [if_neg hremoved]
    have hsome := not_not.mp (mt hlast.mpr hremoved)
    exact (and_iff_left (.inr hsome)).symm

/-! ## Steps -/

/-- `subscribe` adds the client, and enters client endpoints only. -/
lemma WellFormed.subscribe (hs : s.WellFormed) (service : ServiceKey)
    (eventgroup event client : UInt16) (endpoints : List ℕ) :
    (s.subscribe cfg service eventgroup event client endpoints).WellFormed ∧
      (s.subscribe cfg service eventgroup event client endpoints).acknowledged = s.acknowledged ∧
      ∀ k address port,
        (s.subscribe cfg service eventgroup event client endpoints).Receives k address port ↔
          s.Receives k address port := by
  obtain ⟨hsub, -⟩ := @EventRegistry.Owned.insertSubscription_spec s.registry service eventgroup event
    client (cfg.debounce service event) true hs.owned
  have howned := hs.owned.insertSubscription (cfg.debounce service event) true service eventgroup event
    client
  have hold : ∀ {k g}, s.requested k g = true → ∃ c,
      (s.registry.insertSubscription (cfg.debounce service event) true service eventgroup event
        client).1.IsSubscribed k g c := by
    intro k g hk
    obtain ⟨c, hc⟩ := hs.subscribed hk
    exact ⟨c, (hsub k g c).mpr (.inl hc)⟩
  have hlookup := lookup_withClientEndpoints (s.serviceInstances service.1) service.2 endpoints
  simp only [Multicast.subscribe]
  split_ifs
  · refine ⟨⟨?_, howned, fun {k g x} hx => ?_, fun {k g} hk => ?_⟩, ?_, fun k address port => ?_⟩
    · exact (@Allocated.setInstances _ s hs.allocated service.1 _ hlookup).congr rfl rfl rfl
    · simp only [setInstances, setSubscription] at hx ⊢
      split_ifs with hkey
      · rfl
      · rw [if_neg hkey] at hx
        exact hs.requested hx
    · simp only [setInstances, setSubscription] at hk
      by_cases hkey : k = service ∧ g = eventgroup
      · exact ⟨client, (hsub k g client).mpr (.inr ⟨hkey.1, hkey.2, rfl⟩)⟩
      · rw [if_neg hkey] at hk
        exact hold hk
    · funext k g
      simp only [setInstances, setSubscription]
      split_ifs with hkey
      · rw [hkey.1, hkey.2]
      · rfl
    · exact @receives_setInstances_of_lookup _ s service.1 _ hlookup k address port
  · exact ⟨⟨hs.allocated.congr rfl rfl rfl, howned, hs.requested, hold⟩, rfl, fun _ _ _ => Iff.rfl⟩

/-- `unsubscribe` keeps the state well formed. -/
lemma WellFormed.unsubscribe (hs : s.WellFormed) (service : ServiceKey)
    (eventgroup event client : UInt16) :
    (s.unsubscribe service eventgroup event client).WellFormed := by
  have hlast := @EventRegistry.lastSubscriberRemoved_removeSubscription s.registry service eventgroup
    event client
  have howned := hs.owned.removeSubscription service eventgroup event client
  have hother : ∀ {k g}, ¬ (k = service ∧ g = eventgroup) → s.requested k g = true → ∃ c,
      (s.registry.removeSubscription service eventgroup event client).IsSubscribed k g c := by
    intro k g hkey hk
    obtain ⟨c, hc⟩ := hs.subscribed hk
    exact ⟨c, (hs.owned.isSubscribed_removeSubscription_of_ne hkey c).mpr hc⟩
  unfold Multicast.unsubscribe
  refine WellFormed.clearMulticastEndpoints ?_ service
  by_cases hremoved : (s.registry.removeSubscription service eventgroup event
      client).lastSubscriberRemoved service eventgroup = true
  · rw [if_pos hremoved]
    refine ⟨hs.allocated.congr rfl rfl rfl, howned, fun {k g x} hx => ?_, fun {k g} hk => ?_⟩
    · simp only [setSubscription] at hx ⊢
      by_cases hkey : k = service ∧ g = eventgroup
      · rw [if_pos hkey] at hx
        cases hx
      · rw [if_neg hkey] at hx ⊢
        exact hs.requested hx
    · simp only [setSubscription] at hk
      by_cases hkey : k = service ∧ g = eventgroup
      · rw [if_pos hkey] at hk
        cases hk
      · rw [if_neg hkey] at hk
        exact hother hkey hk
  · rw [if_neg hremoved]
    obtain ⟨c, p, hp, hkeeps⟩ := not_not.mp (mt hlast.mpr hremoved)
    refine ⟨hs.allocated.congr rfl rfl rfl, howned, hs.requested, fun {k g} hk => ?_⟩
    by_cases hkey : k = service ∧ g = eventgroup
    · obtain ⟨rfl, rfl⟩ := hkey
      exact ⟨c, (EventRegistry.isSubscribed_removeSubscription c).mpr ⟨p, .inr hp, hkeeps⟩⟩
    · exact hother hkey hk

/-- What is received after `unsubscribe`. -/
lemma Allocated.receives_unsubscribe (hs : s.Allocated) (service : ServiceKey)
    (eventgroup event client : UInt16) (k : ServiceKey) (address : Address) (port : UInt16) :
    (s.unsubscribe service eventgroup event client).Receives k address port ↔
      s.Receives k address port ∧ s.Spares service (s.serviceInstances service.1) k port := by
  simp only [unsubscribe]
  split_ifs
  · exact (hs.congr (by rfl) (by rfl) (by rfl)).receives_clear_iff service k address port
  · exact (hs.congr (by rfl) (by rfl) (by rfl)).receives_clear_iff service k address port

/-- An acknowledgement of an eventgroup that is subscribed at the remote host. -/
lemma WellFormed.subscribeAck [DecidableEq Address] (hs : s.WellFormed) (service : ServiceKey)
    (eventgroup : UInt16) (address : Address) (port : UInt16) :
    (s.subscribeAck cfg service eventgroup address port).WellFormed := by
  unfold Multicast.subscribeAck
  split_ifs with hrequested
  · have hallocated : (s.setSubscription service eventgroup true (some (address, port))).Allocated :=
      hs.allocated.congr rfl rfl rfl
    refine ⟨hallocated.onSubscribeAck cfg service address port, hs.owned, fun {k g x} hx => ?_,
      fun {k g} hk => ?_⟩
    · simp only [Multicast.onSubscribeAck, setSubscription] at hx ⊢
      split_ifs with hkey
      · rfl
      · rw [if_neg hkey] at hx
        exact hs.requested hx
    · simp only [Multicast.onSubscribeAck, setSubscription] at hk
      refine hs.subscribed ?_
      by_cases hkey : k = service ∧ g = eventgroup
      · rw [hkey.1, hkey.2]
        exact hrequested
      · rwa [if_neg hkey] at hk
  · exact hs

/-- The end of all subscriptions of a service instance at the remote host, and the removal of its
client endpoints. -/
lemma WellFormed.forget (hs : s.WellFormed) (service : ServiceKey) (release : Bool)
    (endpoints : List ℕ) :
    ((s.forget service release).setInstances service.1
      (clearClientEndpoints (s.serviceInstances service.1) endpoints)).WellFormed := by
  have hlookup := lookup_clearClientEndpoints (s.serviceInstances service.1) endpoints
  refine ⟨?_, hs.owned, fun {k g x} hx => ?_, fun {k g} hk => ?_⟩
  · exact (@Allocated.setInstances _ s hs.allocated service.1 _ hlookup).congr rfl rfl rfl
  · simp only [setInstances, Multicast.forget] at hx ⊢
    by_cases hkey : k = service
    · rw [if_pos hkey] at hx
      cases hx
    · rw [if_neg hkey] at hx
      rw [if_neg fun h => hkey h.1]
      exact hs.requested hx
  · simp only [setInstances, Multicast.forget] at hk
    split_ifs at hk
    exact hs.subscribed hk

/-- A release keeps the state well formed. -/
lemma WellFormed.releaseService (hs : s.WellFormed) (service : ServiceKey) (isLast : Bool)
    (endpoints : List ℕ) : (s.releaseService service isLast endpoints).WellFormed := by
  unfold Multicast.releaseService
  split_ifs
  · exact hs.forget service true endpoints
  · have hlookup := lookup_clearClientEndpoints (s.serviceInstances service.1) endpoints
    exact ⟨hs.allocated.setInstances hlookup, hs.owned, hs.requested, hs.subscribed⟩

/-- Every step keeps the pointers and the subscriptions well formed. -/
lemma WellFormed.step [DecidableEq Address] (hs : s.WellFormed) (a : MulticastAction Address) :
    (s.step cfg a).WellFormed := by
  cases a with
  | subscribe service eventgroup event client endpoints =>
    exact (hs.subscribe service eventgroup event client endpoints).1
  | unsubscribe service eventgroup event client => exact hs.unsubscribe service eventgroup event client
  | subscribeAck service eventgroup address port =>
    exact hs.subscribeAck service eventgroup address port
  | releaseService service isLast endpoints => exact hs.releaseService service isLast endpoints
  | delRoutingInfo service endpoints =>
    exact (hs.forget service false endpoints).clearMulticastEndpoints service

/-! ## When a step keeps the reception -/

/-- An `unsubscribe` keeps the reception exactly if it spares the eventgroups that stay
acknowledged. -/
lemma WellFormed.receiving_unsubscribe_iff (hs : s.WellFormed) (hreceiving : s.Receiving)
    (service : ServiceKey) (eventgroup event client : UInt16) :
    (s.unsubscribe service eventgroup event client).Receiving ↔
      s.Unneeded cfg (.unsubscribe service eventgroup event client) := by
  rw [(hs.unsubscribe service eventgroup event client).receiving_iff]
  simp only [acknowledged_unsubscribe, hs.allocated.receives_unsubscribe, Unneeded]
  constructor
  · intro h k g address port hack hremains
    exact (h k g address port ⟨hack, hremains⟩).2
  · rintro h k g address port ⟨hack, hremains⟩
    exact ⟨hs.receiving_iff.mp hreceiving k g address port hack, h k g address port hack hremains⟩

/-- Everything that is needed is received after `del_routing_info` exactly if nothing that it clears
is needed. -/
lemma WellFormed.receiving_delRoutingInfo_iff (hs : s.WellFormed) (hreceiving : s.Receiving)
    (service : ServiceKey) (endpoints : List ℕ) :
    (s.delRoutingInfo service endpoints).Receiving ↔
      s.Unneeded cfg (.delRoutingInfo service endpoints) := by
  have hforget := hs.forget service false endpoints
  have hlookup := lookup_clearClientEndpoints (s.serviceInstances service.1) endpoints
  rw [delRoutingInfo, (hforget.clearMulticastEndpoints service).receiving_iff]
  have hspares : ∀ k port, Spares ((s.forget service false).setInstances service.1
      (clearClientEndpoints (s.serviceInstances service.1) endpoints)) service
      (clearClientEndpoints (s.serviceInstances service.1) endpoints) k port ↔
      s.Spares service (clearClientEndpoints (s.serviceInstances service.1) endpoints) k port :=
    fun _ _ => Iff.rfl
  have hinstances : ((s.forget service false).setInstances service.1
      (clearClientEndpoints (s.serviceInstances service.1) endpoints)).serviceInstances service.1 =
      clearClientEndpoints (s.serviceInstances service.1) endpoints := Function.update_self ..
  have hack : ∀ k g x, ((s.forget service false).setInstances service.1
      (clearClientEndpoints (s.serviceInstances service.1) endpoints)).acknowledged k g = some x ↔
      s.acknowledged k g = some x ∧ k ≠ service := by
    intro k g x
    simp only [setInstances, Multicast.forget]
    split_ifs with hk
    · simp [hk]
    · simp [hk]
  have hreceives : ∀ k address port, ((s.forget service false).setInstances service.1
      (clearClientEndpoints (s.serviceInstances service.1) endpoints)).Receives k address port ↔
      s.Receives k address port :=
    @receives_setInstances_of_lookup _ s service.1 _ hlookup
  simp only [acknowledged_clear, hforget.allocated.receives_clear_iff, hinstances, hspares, hack,
    hreceives, Unneeded]
  constructor
  · intro h k g address port hk hne
    exact (h k g address port ⟨hk, hne⟩).2
  · rintro h k g address port ⟨hk, hne⟩
    exact ⟨hs.receiving_iff.mp hreceiving k g address port hk, h k g address port hk hne⟩

/-- An acknowledgement. The acknowledged eventgroup has to be received, and the others still have to
be. -/
lemma WellFormed.receiving_subscribeAck_iff [DecidableEq Address] (hs : s.WellFormed)
    (hreceiving : s.Receiving) (service : ServiceKey) (eventgroup : UInt16) (address : Address)
    (port : UInt16) :
    (s.subscribeAck cfg service eventgroup address port).Receiving ↔
      s.Unneeded cfg (.subscribeAck service eventgroup address port) := by
  have hold := hs.receiving_iff.mp hreceiving
  rw [(hs.subscribeAck service eventgroup address port).receiving_iff]
  simp only [Unneeded, Multicast.subscribeAck]
  by_cases hrequested : s.requested service eventgroup = true
  swap
  · simp only [hrequested, Bool.false_eq_true, if_false, false_implies, iff_true]
    exact hold
  simp only [hrequested, if_true, true_implies]
  have hreceives : ∀ k a p, ((s.setSubscription service eventgroup true
      (some (address, port))).onSubscribeAck cfg service address port).Receives k a p ↔
      (s.onSubscribeAck cfg service address port).Receives k a p := fun _ _ _ => Iff.rfl
  have hack : ∀ k g x, ((s.setSubscription service eventgroup true
      (some (address, port))).onSubscribeAck cfg service address port).acknowledged k g = some x ↔
      (if k = service ∧ g = eventgroup then some (address, port) else s.acknowledged k g) = some x :=
    fun _ _ _ => Iff.rfl
  simp only [hreceives, hack, ← hs.allocated.receives_onSubscribeAck_self]
  constructor
  · intro h
    refine ⟨h service eventgroup address port (if_pos ⟨rfl, rfl⟩), fun hnew k g a hk hservice => ?_⟩
    by_cases hkey : k = service
    · rw [hkey]
    · have hafter := h k g a port ((if_neg fun h => hkey h.1).trans hk)
      exact (hs.allocated.receives_onSubscribeAck_iff (hold k g a port hk)).mp hafter hnew rfl hservice
  · rintro ⟨hself, hothers⟩ k g a p hk
    by_cases hkey : k = service ∧ g = eventgroup
    · rw [if_pos hkey] at hk
      cases hk
      rw [hkey.1]
      exact hself
    · rw [if_neg hkey] at hk
      refine (hs.allocated.receives_onSubscribeAck_iff (hold k g a p hk)).mpr fun hnew hport => ?_
      subst hport
      exact hothers hnew k g a hk

/-- A step keeps the reception exactly if it meets the condition. -/
lemma WellFormed.receiving_step_iff [DecidableEq Address] (hs : s.WellFormed)
    (hreceiving : s.Receiving) (a : MulticastAction Address) :
    (s.step cfg a).Receiving ↔ s.Unneeded cfg a := by
  have hold := hs.receiving_iff.mp hreceiving
  cases a with
  | subscribe service eventgroup event client endpoints =>
    obtain ⟨hnext, hack, hreceives⟩ :=
      @WellFormed.subscribe _ s cfg hs service eventgroup event client endpoints
    refine iff_of_true (hnext.receiving_iff.mpr fun k g address port h => ?_) trivial
    rw [hack] at h
    exact (hreceives k address port).mpr (hold k g address port h)
  | unsubscribe service eventgroup event client =>
    exact hs.receiving_unsubscribe_iff hreceiving service eventgroup event client
  | subscribeAck service eventgroup address port =>
    exact hs.receiving_subscribeAck_iff hreceiving service eventgroup address port
  | releaseService service isLast endpoints =>
    refine iff_of_true ?_ trivial
    rw [Multicast.step, (hs.releaseService service isLast endpoints).receiving_iff]
    intro k g address port hack
    have hlookup := lookup_clearClientEndpoints (s.serviceInstances service.1) endpoints
    have hbefore : s.acknowledged k g = some (address, port) := by
      simp only [Multicast.releaseService, setInstances] at hack
      split_ifs at hack
      · simp only [Multicast.forget] at hack
        split_ifs at hack
        exact hack
      · exact hack
    have hreceives := (@receives_setInstances_of_lookup _ s service.1 _ hlookup k address port).mpr
      (hold k g address port hbefore)
    unfold Multicast.releaseService
    split_ifs
    · exact hreceives
    · exact hreceives
  | delRoutingInfo service endpoints =>
    exact hs.receiving_delRoutingInfo_iff hreceiving service endpoints

/-- **The clients receive along a run** if and only if every step of it closes and replaces only what
nobody else needs.

**Proof sketch.** In a state in which every acknowledged eventgroup is received, a step keeps this
exactly if it meets the condition; and that acknowledged eventgroups have subscribers and that
endpoints are not confused holds in every state. -/
theorem receiving_along_iff [DecidableEq Address] (cfg : MulticastConfig) (rs : List RegistryAction)
    (as : List (MulticastAction Address)) :
    Runs.Along (step cfg) (fun s a => (s.step cfg a).Receiving) (init rs) as ↔
      Runs.Along (step cfg) (Unneeded cfg) (init rs) as := by
  have hinit : (init rs : Multicast Address).Receiving :=
    (wellFormed_init rs).receiving_iff.mpr fun _ _ _ _ h => by cases h
  refine @Runs.along_iff _ _ (step cfg) (fun s => s.WellFormed ∧ s.Receiving) (fun _ _ => True)
    (Unneeded cfg) _ (fun {s a} hs _ hgood => ?_) (fun {s a} hs _ hbad h => hbad ?_) as _
    ⟨wellFormed_init rs, hinit⟩ (Runs.along_of_forall fun _ _ => trivial)
  · have hreceiving := (hs.1.receiving_step_iff hs.2 a).mpr hgood
    exact ⟨⟨hs.1.step a, hreceiving⟩, hreceiving⟩
  · exact (hs.1.receiving_step_iff hs.2 a).mp h

/-- All services are SOME/IP services. -/
def exampleConfig : MulticastConfig := ⟨fun _ => true, fun _ _ _ _ => true⟩

/-- Two clients subscribe to eventgroup 1 of service 0x1234, instance 1, it is acknowledged with
224.244.224.245, port 30490, and one of the clients unsubscribes. Then the endpoint is closed, although
the other client is still subscribed. -/
theorem not_receiving_unsubscribe :
    ¬ ∀ (cfg : MulticastConfig) (rs : List RegistryAction) (as : List (MulticastAction UInt32)),
      Runs.Along (step cfg) (fun s a => (s.step cfg a).Receiving) (init rs) as := by
  intro h
  obtain ⟨-, -, -, hlast, -⟩ := h exampleConfig [] [.subscribe (0x1234, 1) 1 anyEvent 0x101 [0],
    .subscribe (0x1234, 1) 1 anyEvent 0x102 [0], .subscribeAck (0x1234, 1) 1 0xE0F4E0F5 30490,
    .unsubscribe (0x1234, 1) 1 anyEvent 0x101]
  have hsubscribed : (Runs.run (step exampleConfig) (init [])
      [.subscribe (0x1234, 1) 1 anyEvent 0x101 [0], .subscribe (0x1234, 1) 1 anyEvent 0x102 [0],
        .subscribeAck (0x1234, 1) 1 (0xE0F4E0F5 : UInt32) 30490,
        .unsubscribe (0x1234, 1) 1 anyEvent 0x101]).registry.IsSubscribed (0x1234, 1) 1 0x102 :=
    ⟨0, .inl ⟨anyEvent, by decide⟩, by decide⟩
  obtain ⟨hknown, -⟩ := hlast (0x1234, 1) 1 0x102 0xE0F4E0F5 30490 hsubscribed (by decide)
  exact hknown (by decide)

end Multicast

end Model

end Vsomeip
