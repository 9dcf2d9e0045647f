import Mathlib.Data.List.AList
import Vsomeip.Routing.RemoteSubscription
import Vsomeip.Routing.ServiceRequests

set_option relaxedAutoImplicit false
set_option autoImplicit false

/-!
# Client endpoints of remote services

`remote_service_info_` has the addresses at which remote services are offered, and `remote_services_`
the client endpoints through which they are reached: one for `VSOMEIP_ROUTING_CLIENT`, and one for each
client with an exclusive proxy. The endpoints of `VSOMEIP_ROUTING_CLIENT` are shared by the services of
one address and port, and are found in `client_endpoints_by_ip_`. They are created when they are
needed, and an endpoint should be stopped with its last entry.

Whether a local port is free and an endpoint can be created is given with the steps. An endpoint
definition is its address and its port, because `set_remote_port` is called for subscribers only. The
table of used ports, the availability of services and the start of endpoints are left out.

## Main definitions

* `Vsomeip.RemoteClients` — the tables.
* `Vsomeip.RemoteClients.findOrCreateRemoteClient`, `Vsomeip.RemoteClients.clearClientEndpoints`,
  `Vsomeip.RemoteClients.addRoutingInfo`, `Vsomeip.RemoteClients.delRoutingInfo` — the functions of
  `routing_manager_impl`.
* `Vsomeip.RemoteClients.step` — offers, their ends, and calls of local clients.

## Main results

* `Vsomeip.RemoteClients.findOrCreateRemoteClient_cases`,
  `Vsomeip.RemoteClients.extends_findOrCreateRemoteClient` — what `find_or_create_remote_client` does.
* `Vsomeip.RemoteClients.cleared_clearClientEndpoints` — what `clear_client_endpoints` does.
-/

namespace Vsomeip

open Function (update)

/-- The keys of `remote_services_`. -/
structure RemoteKey where
  service : InstanceKey
  client : UInt16
  reliable : Bool
deriving DecidableEq

/-- A `tcp_client_endpoint_impl` or a `udp_client_endpoint_impl`. -/
structure RemoteEndpoint (Address : Type) where
  remote : Address × UInt16
  isReliable : Bool
  isStopped : Bool

/-- What the routing manager asks its configuration. -/
structure RemoteConfig (Address : Type) where
  requests : RequestConfig
  unicast : Address
  /-- Whether a port for a local service is configured. -/
  hasPort : InstanceKey → Bool → Bool

/-- The tables of the routing manager that are about remote services. -/
structure RemoteClients (Address : Type) where
  requests : ServiceRequests
  /-- Whether the service info has an endpoint. -/
  hasEndpoint : InstanceKey → Bool → Bool
  remoteServiceInfo : InstanceKey → Bool → Option (Address × UInt16)
  remoteServices : AList fun _ : RemoteKey => ℕ
  clientEndpointsByIp : Address × UInt16 → Bool → Option ℕ
  specificEndpointClients : InstanceKey → List UInt16
  endpoints : ℕ → RemoteEndpoint Address
  next : ℕ

/-- The steps: remote offers and their ends, and calls of local clients. -/
inductive RemoteServiceAction (Address : Type)
  | addRoutingInfo (k : InstanceKey) (version : Version) (offered : Bool → Address × UInt16)
    (free : UInt16 → Bool)
  | delRoutingInfo (k : InstanceKey) (hasReliable hasUnreliable : Bool)
  | requestService (client : UInt16) (k : InstanceKey) (version : Version) (useExclusiveProxy : Bool)
    (free : UInt16 → Bool)
  | releaseService (client : UInt16) (k : InstanceKey)
  | send (client : UInt16) (k : InstanceKey) (reliable : Bool) (free : Bool)

/-! ## The release of a service instance -/

/-- The functions that `release_service` calls for the endpoints of a service instance. -/
structure ReleaseCalls (State : Type) where
  clearClientEndpoints : State → InstanceKey → Bool → State
  resetEndpoint : State → InstanceKey → Bool → State
  removeSpecificClientEndpoint : State → UInt16 → InstanceKey → Bool → State

namespace ReleaseCalls

variable {State State' : Type} (calls : ReleaseCalls State) (info : Option RequestedInfo)
  (client : UInt16) (k : InstanceKey)

/-- The end of `release_service`, with the service info after the release. When other requesters are
left, `remove_specific_client_endpoint` is called with its arguments in the wrong order: the service as
client, the instance as service and the client as instance. -/
def release (s : State) : State :=
  match info with
  | some info =>
    if info.isLocal then s
    else if info.requesters.card = 0 then
      let s := calls.clearClientEndpoints (calls.clearClientEndpoints s k true) k false
      calls.resetEndpoint (calls.resetEndpoint s k true) k false
    else
      calls.removeSpecificClientEndpoint
        (calls.removeSpecificClientEndpoint s k.1 (k.2, client) true) k.1 (k.2, client) false
  | none => s

/-- A release keeps what the calls keep. -/
lemma release_induction {P : State → Prop} {s : State} (h : P s)
    (clear : ∀ {s} r, P s → P (calls.clearClientEndpoints s k r))
    (reset : ∀ {s} r, P s → P (calls.resetEndpoint s k r))
    (remove : ∀ {s} c i r, P s → P (calls.removeSpecificClientEndpoint s c i r)) :
    P (calls.release info client k s) := by
  unfold release
  split
  · split_ifs
    · exact h
    · exact reset false (reset true (clear false (clear true h)))
    · exact remove _ _ false (remove _ _ true h)
  · exact h

/-- A part of the state for which the calls are those of the part is released as it is by itself. -/
lemma map_release (calls' : ReleaseCalls State') (part : State → State')
    (clear : ∀ s k r, part (calls.clearClientEndpoints s k r) = calls'.clearClientEndpoints (part s) k r)
    (reset : ∀ s k r, part (calls.resetEndpoint s k r) = calls'.resetEndpoint (part s) k r)
    (remove : ∀ s c k r, part (calls.removeSpecificClientEndpoint s c k r) =
      calls'.removeSpecificClientEndpoint (part s) c k r) (s : State) :
    part (calls.release info client k s) = calls'.release info client k (part s) := by
  unfold release
  split
  · split_ifs
    · rfl
    · simp only [clear, reset]
    · simp only [remove]
  · rfl

end ReleaseCalls

namespace RemoteClients

variable {Address : Type}

/-- The entry of `remote_services_` for a key. -/
def entry (s : RemoteClients Address) (key : RemoteKey) : Option ℕ :=
  s.remoteServices.lookup key

/-- `is_specific_endpoint_client`. -/
def isSpecificEndpointClient (s : RemoteClients Address) (client : UInt16) (k : InstanceKey) :
    UInt16 :=
  if client ∈ s.specificEndpointClients k then client else routingClient

/-- Replace an entry of `remote_service_info_`. -/
def setRemoteServiceInfo (s : RemoteClients Address) (k : InstanceKey) (reliable : Bool)
    (info : Option (Address × UInt16)) : RemoteClients Address :=
  { s with
    remoteServiceInfo :=
      update s.remoteServiceInfo k (update (s.remoteServiceInfo k) reliable info) }

/-- `serviceinfo::set_endpoint`. -/
def setEndpoint (s : RemoteClients Address) (k : InstanceKey) (reliable isSet : Bool) :
    RemoteClients Address :=
  { s with hasEndpoint := update s.hasEndpoint k (update (s.hasEndpoint k) reliable isSet) }

/-- `stop` of an endpoint. -/
def stop (s : RemoteClients Address) (p : ℕ) : RemoteClients Address :=
  { s with endpoints := update s.endpoints p { s.endpoints p with isStopped := true } }

section Functions

variable [DecidableEq Address]

/-- Replace an entry of `client_endpoints_by_ip_`. -/
def setClientEndpointByIp (s : RemoteClients Address) (remote : Address × UInt16) (reliable : Bool)
    (p : Option ℕ) : RemoteClients Address :=
  { s with
    clientEndpointsByIp :=
      update s.clientEndpointsByIp remote (update (s.clientEndpointsByIp remote) reliable p) }

/-- The part of `create_remote_client` after the endpoint has been created. -/
def enterRemoteClient (s : RemoteClients Address) (key : RemoteKey) (remote : Address × UInt16) :
    RemoteClients Address :=
  let s := { s with
    remoteServices := s.remoteServices.insert key s.next
    endpoints := update s.endpoints s.next ⟨remote, key.reliable, false⟩
    next := s.next + 1 }
  if key.client = routingClient then
    let s := s.setClientEndpointByIp remote key.reliable (some (s.next - 1))
    if (s.requests.services key.service).isSome then s.setEndpoint key.service key.reliable true else s
  else s

/-- `create_remote_client`, where `free` says whether an endpoint can be created. -/
def createRemoteClient (s : RemoteClients Address) (key : RemoteKey) (free : Bool) :
    RemoteClients Address × Option ℕ :=
  match s.remoteServiceInfo key.service key.reliable with
  | some remote =>
    if remote.2 ≠ illegalPort ∧ free then (s.enterRemoteClient key remote, some s.next)
    else (s, none)
  | none => (s, none)

/-- `find_remote_client`. An endpoint of `VSOMEIP_ROUTING_CLIENT` for the same address and port is
entered for the service as well. -/
def findRemoteClient (s : RemoteClients Address) (key : RemoteKey) :
    RemoteClients Address × Option ℕ :=
  match s.entry key with
  | some p => (s, some p)
  | none =>
    if key.client = routingClient then
      match (s.remoteServiceInfo key.service key.reliable).bind fun remote =>
        s.clientEndpointsByIp remote key.reliable with
      | some p => ({ s with remoteServices := s.remoteServices.insert key p }, some p)
      | none => (s, none)
    else (s, none)

/-- `find_or_create_remote_client`. -/
def findOrCreateRemoteClient (s : RemoteClients Address) (key : RemoteKey) (free : Bool) :
    RemoteClients Address × Option ℕ :=
  match s.findRemoteClient key with
  | (s, some p) => (s, some p)
  | (s, none) => s.createRemoteClient key free

/-- The end of `clear_client_endpoints` for the endpoint of `VSOMEIP_ROUTING_CLIENT`: if no other
service is reachable through it, it is removed from `client_endpoints_by_ip_` and stopped. -/
def release (s : RemoteClients Address) (reliable : Bool) (p : ℕ) : RemoteClients Address :=
  if s.remoteServices.entries.any fun e => e.1.client = routingClient ∧ e.2 = p then s
  else
    let remote := (s.endpoints p).remote
    (if s.clientEndpointsByIp remote reliable = some p then
      s.setClientEndpointByIp remote reliable none
    else s).stop p

/-- `clear_client_endpoints`. -/
def clearClientEndpoints (s : RemoteClients Address) (k : InstanceKey) (reliable : Bool) :
    RemoteClients Address :=
  let clients := s.specificEndpointClients k
  let endpointToDelete := s.entry ⟨k, routingClient, reliable⟩
  let services := s.remoteServices.erase ⟨k, routingClient, reliable⟩
  let specificEndpoints := clients.filterMap fun c => services.lookup ⟨k, c, reliable⟩
  let services := clients.foldl (fun l c => l.erase ⟨k, c, reliable⟩) services
  let s := { s with remoteServices := services }
  let s := match endpointToDelete with
    | some p => s.release reliable p
    | none => s
  specificEndpoints.foldl stop s

/-- `remove_specific_client_endpoint`. -/
def removeSpecificClientEndpoint (s : RemoteClients Address) (client : UInt16) (k : InstanceKey)
    (reliable : Bool) : RemoteClients Address :=
  if s.isSpecificEndpointClient client k ≠ routingClient then
    let s' := match s.entry ⟨k, client, reliable⟩ with
      | some p => s.stop p
      | none => s
    { s' with remoteServices := s.remoteServices.erase ⟨k, client, reliable⟩ }
  else s

/-- `clear_service_info`. -/
def clearServiceInfo (s : RemoteClients Address) (k : InstanceKey) (reliable : Bool) :
    RemoteClients Address :=
  if (s.requests.services k).isSome then
    if s.hasEndpoint k (!reliable) then s.setEndpoint k reliable false
    else { s with requests := s.requests.delRoutingInfo k }
  else s

/-- The service info of an offer is created if there is none. It is one of a local service if the
address is that of the host. -/
def createServiceInfo (cfg : RemoteConfig Address) (s : RemoteClients Address) (k : InstanceKey)
    (version : Version) (offered : Bool → Address × UInt16) : RemoteClients Address :=
  match s.requests.services k with
  | some _ => s
  | none =>
    let isLocal := decide ((offered true).2 ≠ illegalPort ∧ cfg.unicast = (offered true).1 ∨
      (offered false).2 ≠ illegalPort ∧ cfg.unicast = (offered false).1)
    { s with
      requests := s.requests.setRequesters k ⟨version, isLocal, ∅⟩ ∅
      hasEndpoint := update s.hasEndpoint k fun reliable => isLocal && cfg.hasPort k reliable }

/-- The clients with a request that an offer meets. -/
def matchingClients (s : RemoteClients Address) (k : InstanceKey) (version : Version) :
    Finset UInt16 :=
  (s.requests.requestedServices.filter fun x => x.2.1 = k ∧ x.2.2.Matches version).image (·.1)

/-- The clients with a request that an offer meets become requesters. -/
def addClients (s : RemoteClients Address) (k : InstanceKey) (version : Version) :
    RemoteClients Address :=
  match s.requests.services k with
  | some info =>
    { s with requests :=
        s.requests.setRequesters k info (info.requesters ∪ s.matchingClients k version) }
  | none => s

/-- An endpoint of an offer is not the known one. -/
def IsNew (s : RemoteClients Address) (k : InstanceKey) (offered : Bool → Address × UInt16)
    (reliable : Bool) : Prop :=
  (offered reliable).2 ≠ illegalPort ∧ s.remoteServiceInfo k reliable ≠ some (offered reliable)

instance (s : RemoteClients Address) (k : InstanceKey) (offered : Bool → Address × UInt16)
    (reliable : Bool) : Decidable (s.IsNew k offered reliable) :=
  inferInstanceAs (Decidable (_ ∧ _))

/-- The part of `add_routing_info` that connects to a new reliable endpoint: for
`VSOMEIP_ROUTING_CLIENT`, if the service was requested, and for the clients with an exclusive proxy. -/
def connectReliable (s : RemoteClients Address) (k : InstanceKey) (version : Version)
    (free : UInt16 → Bool) : RemoteClients Address :=
  let s := if (s.matchingClients k version).card = 0 then s
    else (s.findOrCreateRemoteClient ⟨k, routingClient, true⟩ (free routingClient)).1
  (s.specificEndpointClients k).foldl
    (fun s c => (s.findOrCreateRemoteClient ⟨k, c, true⟩ (free c)).1) (s.addClients k version)

/-- `add_routing_info` for a service that is not a local one. -/
def enterOffer (s : RemoteClients Address) (k : InstanceKey) (version : Version)
    (offered : Bool → Address × UInt16) (free : UInt16 → Bool) : RemoteClients Address :=
  let isReliableNew := s.IsNew k offered true
  let isUnreliableNew := s.IsNew k offered false
  let s := if isUnreliableNew then s.setRemoteServiceInfo k false (some (offered false)) else s
  if isReliableNew then
    (s.setRemoteServiceInfo k true (some (offered true))).connectReliable k version free
  else if isUnreliableNew then s.addClients k version
  else s

/-- `add_routing_info`. -/
def addRoutingInfo (cfg : RemoteConfig Address) (s : RemoteClients Address) (k : InstanceKey)
    (version : Version) (offered : Bool → Address × UInt16) (free : UInt16 → Bool) :
    RemoteClients Address :=
  if (s.requests.services k).any (·.isLocal) then s
  else (s.createServiceInfo cfg k version offered).enterOffer k version offered free

/-- `clear_client_endpoints` and `clear_remote_service_info`. -/
def clearRemote (s : RemoteClients Address) (k : InstanceKey) (reliable : Bool) :
    RemoteClients Address :=
  (s.clearClientEndpoints k reliable).setRemoteServiceInfo k reliable none

/-- `del_routing_info`. -/
def delRoutingInfo (s : RemoteClients Address) (k : InstanceKey) (hasReliable hasUnreliable : Bool) :
    RemoteClients Address :=
  if (s.requests.services k).isSome then
    if ¬ hasReliable ∧ ¬ hasUnreliable then
      ((((s.setRemoteServiceInfo k true none).setRemoteServiceInfo k false none).clearServiceInfo k
        true).clearServiceInfo k false)
    else
      let s := if hasReliable then s.clearRemote k true else s
      let s := if hasUnreliable then s.clearRemote k false else s
      let s := if hasReliable then s.clearServiceInfo k true else s
      if hasUnreliable then s.clearServiceInfo k false else s
  else s

/-- `request_service`. -/
def requestService (cfg : RemoteConfig Address) (s : RemoteClients Address) (client : UInt16)
    (k : InstanceKey) (version : Version) (useExclusiveProxy : Bool) (free : UInt16 → Bool) :
    RemoteClients Address :=
  let info := s.requests.services k
  let s := { s with requests := s.requests.requestService cfg.requests client k version }
  let s := if info.any fun info => version.Matches info.version ∧ ¬ info.isLocal then
      let s := (s.findOrCreateRemoteClient ⟨k, routingClient, true⟩ (free routingClient)).1
      if useExclusiveProxy ∧ s.hasEndpoint k true then
        (s.findOrCreateRemoteClient ⟨k, client, true⟩ (free client)).1
      else s
    else s
  if useExclusiveProxy then
    { s with specificEndpointClients :=
        update s.specificEndpointClients k ((s.specificEndpointClients k).insert client) }
  else s

/-- What `release_service` calls for these tables. -/
def releaseCalls : ReleaseCalls (RemoteClients Address) where
  clearClientEndpoints := clearClientEndpoints
  resetEndpoint s k reliable := s.setEndpoint k reliable false
  removeSpecificClientEndpoint := removeSpecificClientEndpoint

/-- `release_service`. -/
def releaseService (cfg : RemoteConfig Address) (s : RemoteClients Address) (client : UInt16)
    (k : InstanceKey) : RemoteClients Address :=
  let s := { s with requests := s.requests.releaseService cfg.requests client k }
  releaseCalls.release (s.requests.services k) client k s

/-- The part of `send` that finds the endpoint for a request to a remote service. -/
def send (s : RemoteClients Address) (client : UInt16) (k : InstanceKey) (reliable free : Bool) :
    RemoteClients Address × Option ℕ :=
  s.findOrCreateRemoteClient ⟨k, s.isSpecificEndpointClient client k, reliable⟩ free

/-- A step. -/
def step (cfg : RemoteConfig Address) (s : RemoteClients Address) :
    RemoteServiceAction Address → RemoteClients Address
  | .addRoutingInfo k version offered free => s.addRoutingInfo cfg k version offered free
  | .delRoutingInfo k hasReliable hasUnreliable => s.delRoutingInfo k hasReliable hasUnreliable
  | .requestService client k version useExclusiveProxy free =>
    s.requestService cfg client k version useExclusiveProxy free
  | .releaseService client k => s.releaseService cfg client k
  | .send client k reliable free => (s.send client k reliable free).1

end Functions

/-- Nothing is offered and nothing is requested, and no endpoint has been made; `e` stands behind the
pointers. -/
def init (e : RemoteEndpoint Address) : RemoteClients Address where
  requests := ServiceRequests.init
  hasEndpoint := fun _ _ => false
  remoteServiceInfo := fun _ _ => none
  remoteServices := ∅
  clientEndpointsByIp := fun _ _ => none
  specificEndpointClients := fun _ => []
  endpoints := fun _ => e
  next := 0

variable {s : RemoteClients Address}

/-! ## Finding and creating endpoints -/

section Create

variable [DecidableEq Address] {key : RemoteKey} {remote : Address × UInt16} {p : ℕ}

omit [DecidableEq Address] in
/-- The entries of `remote_services_` after one is inserted. -/
lemma entry_insert (key' : RemoteKey) :
    entry { s with remoteServices := s.remoteServices.insert key p } key' =
      if key' = key then some p else s.entry key' := by
  unfold entry
  split_ifs with h
  · rw [h, AList.lookup_insert]
  · rw [AList.lookup_insert_ne h]

/-- A table of tables after one entry is replaced. -/
lemma update_update_apply (f : Address × UInt16 → Bool → Option ℕ) (remote' : Address × UInt16)
    (reliable r : Bool) (x : Option ℕ) :
    update f remote (update (f remote) reliable x) remote' r =
      if remote' = remote ∧ r = reliable then x else f remote' r := by
  by_cases hremote : remote' = remote
  · rw [hremote, Function.update_self]
    by_cases hr : r = reliable
    · rw [hr, Function.update_self, if_pos ⟨rfl, rfl⟩]
    · rw [Function.update_of_ne hr, if_neg fun h => hr h.2]
  · rw [Function.update_of_ne hremote, if_neg fun h => hremote h.1]

/-- The tables after an endpoint has been created. -/
lemma enterRemoteClient_eq : ∃ f, s.enterRemoteClient key remote =
    { s with
      hasEndpoint := f
      remoteServices := s.remoteServices.insert key s.next
      endpoints := update s.endpoints s.next ⟨remote, key.reliable, false⟩
      clientEndpointsByIp := if key.client = routingClient then
          update s.clientEndpointsByIp remote
            (update (s.clientEndpointsByIp remote) key.reliable (some s.next))
        else s.clientEndpointsByIp
      next := s.next + 1 } := by
  simp only [enterRemoteClient, setClientEndpointByIp, setEndpoint, Nat.add_sub_cancel]
  split_ifs
  · exact ⟨_, rfl⟩
  · exact ⟨_, rfl⟩
  · exact ⟨_, rfl⟩

/-- The entries after a new endpoint is entered. -/
lemma entry_enterRemoteClient (key' : RemoteKey) :
    (s.enterRemoteClient key remote).entry key' =
      if key' = key then some s.next else s.entry key' := by
  obtain ⟨f, heq⟩ := @enterRemoteClient_eq _ s _ key remote
  rw [heq]
  exact entry_insert key'

/-- The endpoints after a new one is entered. -/
lemma endpoints_enterRemoteClient : (s.enterRemoteClient key remote).endpoints =
    update s.endpoints s.next ⟨remote, key.reliable, false⟩ := by
  obtain ⟨f, heq⟩ := @enterRemoteClient_eq _ s _ key remote
  rw [heq]

/-- The next endpoint after a new one is entered. -/
lemma next_enterRemoteClient : (s.enterRemoteClient key remote).next = s.next + 1 := by
  obtain ⟨f, heq⟩ := @enterRemoteClient_eq _ s _ key remote
  rw [heq]

/-- A new endpoint changes no remote address. -/
lemma remoteServiceInfo_enterRemoteClient :
    (s.enterRemoteClient key remote).remoteServiceInfo = s.remoteServiceInfo := by
  obtain ⟨f, heq⟩ := @enterRemoteClient_eq _ s _ key remote
  rw [heq]

/-- A new endpoint changes no selective client. -/
lemma specificEndpointClients_enterRemoteClient :
    (s.enterRemoteClient key remote).specificEndpointClients = s.specificEndpointClients := by
  obtain ⟨f, heq⟩ := @enterRemoteClient_eq _ s _ key remote
  rw [heq]

/-- The endpoints by address after a new one is entered. -/
lemma clientEndpointsByIp_enterRemoteClient (remote' : Address × UInt16) (r : Bool) :
    (s.enterRemoteClient key remote).clientEndpointsByIp remote' r =
      if key.client = routingClient ∧ remote' = remote ∧ r = key.reliable then some s.next
      else s.clientEndpointsByIp remote' r := by
  obtain ⟨f, heq⟩ := @enterRemoteClient_eq _ s _ key remote
  rw [heq]
  by_cases hrouting : key.client = routingClient
  · simp only [hrouting, if_true, true_and]
    exact update_update_apply s.clientEndpointsByIp remote' key.reliable r (some s.next)
  · simp only [hrouting, if_false, false_and]

omit [DecidableEq Address] in
/-- What `find_remote_client` does. -/
lemma findRemoteClient_cases (key : RemoteKey) :
    (∃ p, s.entry key = some p ∧ s.findRemoteClient key = (s, some p)) ∨
    (∃ remote p, s.entry key = none ∧ key.client = routingClient ∧
      s.remoteServiceInfo key.service key.reliable = some remote ∧
      s.clientEndpointsByIp remote key.reliable = some p ∧
      s.findRemoteClient key =
        ({ s with remoteServices := s.remoteServices.insert key p }, some p)) ∨
    (s.entry key = none ∧ (∀ remote, s.remoteServiceInfo key.service key.reliable = some remote →
      key.client = routingClient → s.clientEndpointsByIp remote key.reliable = none) ∧
      s.findRemoteClient key = (s, none)) := by
  unfold findRemoteClient
  cases hentry : s.entry key with
  | some p => exact .inl ⟨p, rfl, rfl⟩
  | none =>
    refine .inr ?_
    by_cases hrouting : key.client = routingClient
    swap
    · exact .inr ⟨rfl, fun _ _ h => absurd h hrouting, if_neg hrouting⟩
    rw [if_pos hrouting]
    cases hip : (s.remoteServiceInfo key.service key.reliable).bind fun remote =>
        s.clientEndpointsByIp remote key.reliable with
    | some p =>
      obtain ⟨remote, hinfo, hp⟩ := Option.bind_eq_some_iff.mp hip
      exact .inl ⟨remote, p, rfl, hrouting, hinfo, hp, rfl⟩
    | none =>
      refine .inr ⟨rfl, fun remote hinfo _ => ?_, rfl⟩
      rw [hinfo] at hip
      exact hip

/-- What `create_remote_client` does. -/
lemma createRemoteClient_cases (key : RemoteKey) (free : Bool) :
    s.createRemoteClient key free = (s, none) ∨
    ∃ remote, s.remoteServiceInfo key.service key.reliable = some remote ∧
      s.createRemoteClient key free = (s.enterRemoteClient key remote, some s.next) := by
  unfold createRemoteClient
  cases hinfo : s.remoteServiceInfo key.service key.reliable with
  | none => exact .inl rfl
  | some remote =>
    by_cases hcreate : remote.2 ≠ illegalPort ∧ free
    · exact .inr ⟨remote, rfl, if_pos hcreate⟩
    · exact .inl (if_neg hcreate)

/-- What `find_or_create_remote_client` does: nothing, enter a service for an existing endpoint, or
create one. -/
lemma findOrCreateRemoteClient_cases (key : RemoteKey) (free : Bool) :
    s.findOrCreateRemoteClient key free = (s, s.entry key) ∨
    (∃ remote p, s.entry key = none ∧ key.client = routingClient ∧
      s.remoteServiceInfo key.service key.reliable = some remote ∧
      s.clientEndpointsByIp remote key.reliable = some p ∧
      s.findOrCreateRemoteClient key free =
        ({ s with remoteServices := s.remoteServices.insert key p }, some p)) ∨
    ∃ remote, s.entry key = none ∧
      s.remoteServiceInfo key.service key.reliable = some remote ∧
      (key.client = routingClient → s.clientEndpointsByIp remote key.reliable = none) ∧
      s.findOrCreateRemoteClient key free = (s.enterRemoteClient key remote, some s.next) := by
  obtain ⟨p, hentry, hfind⟩ | ⟨remote, p, hentry, hrouting, hinfo, hip, hfind⟩ | ⟨hentry, hip, hfind⟩ :=
    @findRemoteClient_cases _ s key
  · refine .inl ?_
    rw [findOrCreateRemoteClient, hfind, hentry]
  · refine .inr (.inl ⟨remote, p, hentry, hrouting, hinfo, hip, ?_⟩)
    rw [findOrCreateRemoteClient, hfind]
  · obtain hcreate | ⟨remote, hinfo, hcreate⟩ := @createRemoteClient_cases _ s _ key free
    · refine .inl ?_
      rw [findOrCreateRemoteClient, hfind, hentry]
      exact hcreate
    · refine .inr (.inr ⟨remote, hentry, hinfo, hip remote hinfo, ?_⟩)
      rw [findOrCreateRemoteClient, hfind]
      exact hcreate

/-- The selective clients do not matter for a new endpoint. -/
lemma enterRemoteClient_setSpecific (f : InstanceKey → List UInt16) :
    enterRemoteClient { s with specificEndpointClients := f } key remote =
      { s.enterRemoteClient key remote with specificEndpointClients := f } := by
  simp only [enterRemoteClient, setClientEndpointByIp, setEndpoint]
  by_cases hrouting : key.client = routingClient
  · simp only [if_pos hrouting]
    by_cases hinfo : (s.requests.services key.service).isSome = true
    · simp [hinfo]
    · simp [hinfo]
  · simp only [if_neg hrouting]

/-- A state has the entries and the endpoints of another one, and no other offers or clients. -/
structure Extends (s s' : RemoteClients Address) : Prop where
  remoteServiceInfo : s'.remoteServiceInfo = s.remoteServiceInfo
  specificEndpointClients : s'.specificEndpointClients = s.specificEndpointClients
  entry : ∀ {key p}, s.entry key = some p → s'.entry key = some p
  endpoints : ∀ {p}, p < s.next → s'.endpoints p = s.endpoints p
  next_le : s.next ≤ s'.next

omit [DecidableEq Address] in
/-- A state extends itself. -/
lemma Extends.refl (s : RemoteClients Address) : Extends s s :=
  ⟨rfl, rfl, id, fun _ => rfl, le_rfl⟩

omit [DecidableEq Address] in
/-- Extensions one after the other. -/
lemma Extends.trans {s s' s'' : RemoteClients Address} (h : Extends s s') (h' : Extends s' s'') :
    Extends s s'' :=
  ⟨h'.remoteServiceInfo.trans h.remoteServiceInfo,
    h'.specificEndpointClients.trans h.specificEndpointClients, fun hp => h'.entry (h.entry hp),
    fun hp => (h'.endpoints (Nat.lt_of_lt_of_le hp h.next_le)).trans (h.endpoints hp),
    h.next_le.trans h'.next_le⟩

/-- `find_or_create_remote_client` takes nothing away. -/
lemma extends_findOrCreateRemoteClient (key : RemoteKey) (free : Bool) :
    Extends s (s.findOrCreateRemoteClient key free).1 := by
  have hother : ∀ {key' p}, s.entry key = none → s.entry key' = some p → key' ≠ key := by
    rintro key' p hnone hp rfl
    rw [hnone] at hp
    cases hp
  obtain heq | ⟨remote, p, hnone, -, -, -, heq⟩ | ⟨remote, hnone, -, -, heq⟩ :=
    @findOrCreateRemoteClient_cases _ s _ key free
  · rw [heq]
    exact Extends.refl s
  · rw [heq]
    refine ⟨rfl, rfl, fun hp => ?_, fun _ => rfl, le_rfl⟩
    rw [entry_insert, if_neg (hother hnone hp), hp]
  · rw [heq]
    refine ⟨remoteServiceInfo_enterRemoteClient, specificEndpointClients_enterRemoteClient,
      fun hp => ?_, fun hp => ?_, ?_⟩
    · rw [entry_enterRemoteClient, if_neg (hother hnone hp), hp]
    · rw [endpoints_enterRemoteClient, Function.update_of_ne (Nat.ne_of_lt hp)]
    · rw [next_enterRemoteClient]
      exact Nat.le_succ s.next

end Create

/-! ## Removing endpoints -/

section Clear

variable [DecidableEq Address]

omit [DecidableEq Address] in
/-- The entries of `remote_services_` after one is erased. -/
lemma entry_erase (key key' : RemoteKey) :
    entry { s with remoteServices := s.remoteServices.erase key } key' =
      if key' = key then none else s.entry key' := by
  unfold entry
  split_ifs with h
  · rw [h, AList.lookup_erase]
  · rw [AList.lookup_erase_ne h]

omit [DecidableEq Address] in
/-- The entries after those of some clients are erased. -/
lemma lookup_foldl_erase (clients : List UInt16) (k : InstanceKey) (reliable : Bool)
    (key : RemoteKey) : ∀ l : AList fun _ : RemoteKey => ℕ,
    (clients.foldl (fun l c => l.erase ⟨k, c, reliable⟩) l).lookup key =
      if key.service = k ∧ key.reliable = reliable ∧ key.client ∈ clients then none
      else l.lookup key := by
  induction clients with
  | nil =>
    intro l
    simp
  | cons c clients ih =>
    intro l
    rw [List.foldl_cons, ih]
    by_cases hmem : key.service = k ∧ key.reliable = reliable ∧ key.client ∈ clients
    · rw [if_pos hmem, if_pos ⟨hmem.1, hmem.2.1, List.mem_cons_of_mem c hmem.2.2⟩]
    · rw [if_neg hmem]
      by_cases hkey : key = ⟨k, c, reliable⟩
      · subst hkey
        rw [AList.lookup_erase, if_pos ⟨rfl, rfl, List.mem_cons_self⟩]
      · rw [AList.lookup_erase_ne hkey, if_neg]
        rintro ⟨rfl, rfl, hc⟩
        obtain rfl | hc := List.mem_cons.mp hc
        · exact hkey rfl
        · exact hmem ⟨rfl, rfl, hc⟩

omit [DecidableEq Address] in
/-- Some endpoints are stopped. -/
lemma foldl_stop_eq (ps : List ℕ) : ∀ s : RemoteClients Address, ps.foldl stop s =
    { s with endpoints := fun p =>
        if p ∈ ps then { s.endpoints p with isStopped := true } else s.endpoints p } := by
  induction ps with
  | nil =>
    intro s
    simp
  | cons q ps ih =>
    intro s
    rw [List.foldl_cons, ih]
    simp only [stop, RemoteClients.mk.injEq, true_and, and_true]
    funext p
    by_cases hq : p = q
    · subst hq
      simp
    · simp [hq]

/-- No service is reachable through an endpoint for `VSOMEIP_ROUTING_CLIENT`. -/
def Unreachable (s : RemoteClients Address) (p : ℕ) : Prop :=
  ∀ k reliable, s.entry ⟨k, routingClient, reliable⟩ ≠ some p

omit [DecidableEq Address] in
/-- The search of the source for an endpoint that is still in use. -/
lemma any_entries_iff (p : ℕ) :
    s.remoteServices.entries.any (fun e => e.1.client = routingClient ∧ e.2 = p) = true ↔
      ¬ s.Unreachable p := by
  simp only [List.any_eq_true, decide_eq_true_eq, Unreachable, not_forall, not_not]
  constructor
  · rintro ⟨⟨key, q⟩, hmem, hclient, rfl⟩
    refine ⟨key.service, key.reliable, ?_⟩
    have hkey : (⟨key.service, routingClient, key.reliable⟩ : RemoteKey) = key := by rw [← hclient]
    rw [hkey]
    exact AList.mem_lookup_iff.mpr hmem
  · rintro ⟨k, r, h⟩
    exact ⟨⟨⟨k, routingClient, r⟩, p⟩, AList.mem_lookup_iff.mp h, rfl, rfl⟩

/-- The endpoint of `VSOMEIP_ROUTING_CLIENT` is stopped if no service is reachable through it. -/
lemma release_eq (r : Bool) (p : ℕ) : ∃ e b,
    s.release r p = { s with endpoints := e, clientEndpointsByIp := b } ∧
    (∀ q, (e q).remote = (s.endpoints q).remote ∧ (e q).isReliable = (s.endpoints q).isReliable ∧
      ((e q).isStopped = true ↔ (s.endpoints q).isStopped = true ∨ q = p ∧ s.Unreachable p)) ∧
    ∀ remote r' q, b remote r' = some q ↔ s.clientEndpointsByIp remote r' = some q ∧
      ¬ (r' = r ∧ q = p ∧ (s.endpoints p).remote = remote ∧ s.Unreachable p) := by
  unfold release
  by_cases hreach : s.Unreachable p
  swap
  · rw [if_pos ((any_entries_iff p).mpr hreach)]
    refine ⟨_, _, rfl, fun q => ⟨rfl, rfl, ?_⟩, fun remote r' q => ?_⟩
    · exact (or_iff_left fun h => hreach h.2).symm
    · exact (and_iff_left fun h => hreach h.2.2.2).symm
  rw [if_neg fun h => (any_entries_iff p).mp h hreach]
  dsimp only
  have hstop : ∀ q, (update s.endpoints p { s.endpoints p with isStopped := true } q).remote =
        (s.endpoints q).remote ∧
      (update s.endpoints p { s.endpoints p with isStopped := true } q).isReliable =
        (s.endpoints q).isReliable ∧
      ((update s.endpoints p { s.endpoints p with isStopped := true } q).isStopped = true ↔
        (s.endpoints q).isStopped = true ∨ q = p ∧ s.Unreachable p) := by
    intro q
    by_cases hq : q = p
    · rw [hq, Function.update_self]
      exact ⟨rfl, rfl, iff_of_true rfl (.inr ⟨rfl, hreach⟩)⟩
    · rw [Function.update_of_ne hq]
      exact ⟨rfl, rfl, (or_iff_left fun h => hq h.1).symm⟩
  by_cases hfound : s.clientEndpointsByIp (s.endpoints p).remote r = some p
  · rw [if_pos hfound]
    refine ⟨_, _, rfl, hstop, fun remote r' q => ?_⟩
    rw [setClientEndpointByIp]
    dsimp only
    rw [update_update_apply]
    by_cases hcase : remote = (s.endpoints p).remote ∧ r' = r
    · obtain ⟨rfl, rfl⟩ := hcase
      rw [if_pos ⟨rfl, rfl⟩, hfound]
      constructor
      · intro h
        cases h
      · rintro ⟨h, hne⟩
        cases h
        exact absurd ⟨rfl, rfl, rfl, hreach⟩ hne
    · rw [if_neg hcase]
      exact (and_iff_left fun h => hcase ⟨h.2.2.1.symm, h.1⟩).symm
  · rw [if_neg hfound]
    refine ⟨_, _, rfl, hstop, fun remote r' q => ?_⟩
    refine (and_iff_left_of_imp fun h => ?_).symm
    rintro ⟨rfl, rfl, rfl, -⟩
    exact hfound h

/-- A state after the endpoints of a service and a transport have been removed from another one. -/
structure Cleared (s : RemoteClients Address) (k : InstanceKey) (r : Bool)
    (s' : RemoteClients Address) : Prop where
  next : s'.next = s.next
  remoteServiceInfo : s'.remoteServiceInfo = s.remoteServiceInfo
  specificEndpointClients : s'.specificEndpointClients = s.specificEndpointClients
  entry : ∀ key, s'.entry key =
    if key.service = k ∧ key.reliable = r ∧
      (key.client = routingClient ∨ key.client ∈ s.specificEndpointClients k) then none
    else s.entry key
  remote : ∀ p, (s'.endpoints p).remote = (s.endpoints p).remote
  isReliable : ∀ p, (s'.endpoints p).isReliable = (s.endpoints p).isReliable
  isStopped : ∀ p, (s'.endpoints p).isStopped = true ↔ (s.endpoints p).isStopped = true ∨
    (s.entry ⟨k, routingClient, r⟩ = some p ∧ s'.Unreachable p) ∨
    ∃ c ∈ s.specificEndpointClients k, c ≠ routingClient ∧ s.entry ⟨k, c, r⟩ = some p
  byIp : ∀ remote r' p, s'.clientEndpointsByIp remote r' = some p ↔
    s.clientEndpointsByIp remote r' = some p ∧
      ¬ (r' = r ∧ s.entry ⟨k, routingClient, r⟩ = some p ∧ (s.endpoints p).remote = remote ∧
        s'.Unreachable p)

omit [DecidableEq Address] in
/-- An entry that is left was there before. -/
lemma Cleared.entry_of_some {k : InstanceKey} {r : Bool} {s' : RemoteClients Address}
    (h : s.Cleared k r s') {key : RemoteKey} {p : ℕ} (hp : s'.entry key = some p) :
    s.entry key = some p := by
  rw [h.entry] at hp
  split_ifs at hp
  exact hp

omit [DecidableEq Address] in
/-- The entries that `clear_client_endpoints` leaves. -/
lemma lookup_clearClientEndpoints (s : RemoteClients Address) (k : InstanceKey) (r : Bool)
    (key : RemoteKey) :
    ((s.specificEndpointClients k).foldl (fun l c => l.erase ⟨k, c, r⟩)
      (s.remoteServices.erase ⟨k, routingClient, r⟩)).lookup key =
      if key.service = k ∧ key.reliable = r ∧
        (key.client = routingClient ∨ key.client ∈ s.specificEndpointClients k) then none
      else s.entry key := by
  have herase := @entry_erase _ s ⟨k, routingClient, r⟩ key
  unfold entry at herase
  rw [lookup_foldl_erase, herase]
  by_cases hspecific : key.service = k ∧ key.reliable = r ∧
      key.client ∈ s.specificEndpointClients k
  · rw [if_pos hspecific, if_pos ⟨hspecific.1, hspecific.2.1, .inr hspecific.2.2⟩]
  · rw [if_neg hspecific]
    refine if_congr ⟨?_, ?_⟩ rfl rfl
    · rintro rfl
      exact ⟨rfl, rfl, .inl rfl⟩
    · rintro ⟨hk, hr, hclient⟩
      have hrouting := hclient.resolve_right fun hc => hspecific ⟨hk, hr, hc⟩
      rw [← hk, ← hr, ← hrouting]

omit [DecidableEq Address] in
/-- The endpoints of the clients with an exclusive proxy. -/
lemma mem_specificEndpoints (s : RemoteClients Address) (k : InstanceKey) (r : Bool) (p : ℕ) :
    p ∈ (s.specificEndpointClients k).filterMap (fun c =>
        (s.remoteServices.erase ⟨k, routingClient, r⟩).lookup ⟨k, c, r⟩) ↔
      ∃ c ∈ s.specificEndpointClients k, c ≠ routingClient ∧ s.entry ⟨k, c, r⟩ = some p := by
  rw [List.mem_filterMap]
  refine exists_congr fun c => and_congr_right fun _ => ?_
  have herase := @entry_erase _ s ⟨k, routingClient, r⟩ ⟨k, c, r⟩
  unfold entry at herase ⊢
  rw [herase]
  by_cases hc : c = routingClient
  · subst hc
    simp
  · rw [if_neg fun heq => hc (congrArg RemoteKey.client heq)]
    exact (and_iff_right hc).symm

/-- What `clear_client_endpoints` does. -/
lemma cleared_clearClientEndpoints (s : RemoteClients Address) (k : InstanceKey) (r : Bool) :
    s.Cleared k r (s.clearClientEndpoints k r) := by
  unfold clearClientEndpoints
  dsimp only
  have hlookup := lookup_clearClientEndpoints s k r
  have hspecific := mem_specificEndpoints s k r
  generalize (s.specificEndpointClients k).foldl (fun l c => l.erase ⟨k, c, r⟩)
    (s.remoteServices.erase ⟨k, routingClient, r⟩) = services at hlookup ⊢
  generalize (s.specificEndpointClients k).filterMap (fun c =>
    (s.remoteServices.erase ⟨k, routingClient, r⟩).lookup ⟨k, c, r⟩) = ps at hspecific ⊢
  -- the endpoint of `VSOMEIP_ROUTING_CLIENT` is released, if there is one
  obtain ⟨e, b, hrelease, he, hb⟩ : ∃ e b,
      (match s.entry ⟨k, routingClient, r⟩ with
        | some p => release { s with remoteServices := services } r p
        | none => { s with remoteServices := services }) =
        { s with remoteServices := services, endpoints := e, clientEndpointsByIp := b } ∧
      (∀ q, (e q).remote = (s.endpoints q).remote ∧ (e q).isReliable = (s.endpoints q).isReliable ∧
        ((e q).isStopped = true ↔ (s.endpoints q).isStopped = true ∨
          s.entry ⟨k, routingClient, r⟩ = some q ∧
            Unreachable { s with remoteServices := services } q)) ∧
      ∀ remote r' q, b remote r' = some q ↔ s.clientEndpointsByIp remote r' = some q ∧
        ¬ (r' = r ∧ s.entry ⟨k, routingClient, r⟩ = some q ∧ (s.endpoints q).remote = remote ∧
          Unreachable { s with remoteServices := services } q) := by
    cases s.entry ⟨k, routingClient, r⟩ with
    | none =>
      refine ⟨_, _, rfl, fun q => ⟨rfl, rfl, ?_⟩, fun remote r' q => ?_⟩
      · simp
      · simp
    | some p =>
      obtain ⟨e, b, hrelease, he, hb⟩ :=
        @release_eq _ { s with remoteServices := services } _ r p
      refine ⟨e, b, hrelease, fun q => ⟨(he q).1, (he q).2.1, ?_⟩, fun remote r' q => ?_⟩
      · rw [(he q).2.2, Option.some.injEq]
        refine or_congr_right ⟨?_, ?_⟩
        · rintro ⟨rfl, hreach⟩
          exact ⟨rfl, hreach⟩
        · rintro ⟨rfl, hreach⟩
          exact ⟨rfl, hreach⟩
      · rw [hb, Option.some.injEq]
        refine and_congr_right fun _ => not_congr (and_congr_right fun _ => ⟨?_, ?_⟩)
        · rintro ⟨rfl, hremote, hreach⟩
          exact ⟨rfl, hremote, hreach⟩
        · rintro ⟨rfl, hremote, hreach⟩
          exact ⟨rfl, hremote, hreach⟩
  rw [hrelease, foldl_stop_eq]
  refine ⟨rfl, rfl, rfl, hlookup, fun p => ?_, fun p => ?_, fun p => ?_, hb⟩
  · dsimp only
    split_ifs
    · exact (he p).1
    · exact (he p).1
  · dsimp only
    split_ifs
    · exact (he p).2.1
    · exact (he p).2.1
  · dsimp only
    rw [← hspecific p]
    split_ifs with hp
    · exact iff_of_true rfl (.inr (.inr hp))
    · simp only [hp, or_false]
      exact (he p).2.2

omit [DecidableEq Address] in
/-- The endpoint of a client with an exclusive proxy is stopped. -/
lemma removeSpecificClientEndpoint_eq {client : UInt16} {k : InstanceKey} {reliable : Bool}
    (hclient : s.isSpecificEndpointClient client k ≠ routingClient) : ∃ e,
    s.removeSpecificClientEndpoint client k reliable =
      { s with
        remoteServices := s.remoteServices.erase ⟨k, client, reliable⟩
        endpoints := e } ∧
    ∀ q, (e q).remote = (s.endpoints q).remote ∧ (e q).isReliable = (s.endpoints q).isReliable ∧
      ((e q).isStopped = true ↔
        (s.endpoints q).isStopped = true ∨ s.entry ⟨k, client, reliable⟩ = some q) := by
  unfold RemoteClients.removeSpecificClientEndpoint
  rw [if_pos hclient]
  cases s.entry ⟨k, client, reliable⟩ with
  | none => exact ⟨_, rfl, fun q => ⟨rfl, rfl, by simp⟩⟩
  | some p =>
    refine ⟨_, rfl, fun q => ?_⟩
    simp only [stop]
    by_cases hq : q = p
    · rw [hq, Function.update_self]
      exact ⟨rfl, rfl, iff_of_true rfl (.inr rfl)⟩
    · rw [Function.update_of_ne hq]
      refine ⟨rfl, rfl, (or_iff_left fun h => hq ?_).symm⟩
      exact (Option.some.inj h).symm

end Clear

/-! ## Service infos and clients -/

section Infos

variable [DecidableEq Address]

omit [DecidableEq Address] in
/-- Adding clients changes the requests only. -/
lemma addClients_eq (k : InstanceKey) (version : Version) :
    ∃ r, s.addClients k version = { s with requests := r } := by
  unfold addClients
  split
  · exact ⟨_, rfl⟩
  · exact ⟨_, rfl⟩

/-- A new service info changes the requests and the endpoints that are known only. -/
lemma createServiceInfo_eq (cfg : RemoteConfig Address) (k : InstanceKey) (version : Version)
    (offered : Bool → Address × UInt16) : ∃ r f,
    s.createServiceInfo cfg k version offered = { s with requests := r, hasEndpoint := f } := by
  unfold createServiceInfo
  split
  · exact ⟨_, _, rfl⟩
  · exact ⟨_, _, rfl⟩

omit [DecidableEq Address] in
/-- Clearing a service info changes the requests and the endpoints that are known only. -/
lemma clearServiceInfo_eq (k : InstanceKey) (r : Bool) : ∃ r' f,
    s.clearServiceInfo k r = { s with requests := r', hasEndpoint := f } := by
  unfold clearServiceInfo
  split_ifs
  · exact ⟨_, _, rfl⟩
  · exact ⟨_, _, rfl⟩
  · exact ⟨_, _, rfl⟩

omit [DecidableEq Address] in
/-- Clearing a service info keeps the entries. -/
lemma entry_clearServiceInfo (k : InstanceKey) (r : Bool) (key : RemoteKey) :
    (s.clearServiceInfo k r).entry key = s.entry key := by
  obtain ⟨r', f, heq⟩ := @clearServiceInfo_eq _ s k r
  rw [heq]
  rfl

omit [DecidableEq Address] in
/-- Clearing a service info keeps the remote addresses. -/
lemma remoteServiceInfo_clearServiceInfo (k : InstanceKey) (r : Bool) :
    (s.clearServiceInfo k r).remoteServiceInfo = s.remoteServiceInfo := by
  obtain ⟨r', f, heq⟩ := @clearServiceInfo_eq _ s k r
  rw [heq]

omit [DecidableEq Address] in
/-- The client of an endpoint is the routing client or a selective one. -/
lemma isSpecificEndpointClient_cases (client : UInt16) (k : InstanceKey) :
    s.isSpecificEndpointClient client k = routingClient ∨
      s.isSpecificEndpointClient client k ∈ s.specificEndpointClients k := by
  unfold isSpecificEndpointClient
  split_ifs with h
  · exact .inr h
  · exact .inl rfl

end Infos

end RemoteClients

end Vsomeip
