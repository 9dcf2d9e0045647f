import Vsomeip.Routing.RemoteConsistency

set_option relaxedAutoImplicit false
set_option autoImplicit false

/-!
# The release of a service by a client with an exclusive proxy

A client with an exclusive proxy has endpoints of its own for a service instance. When it releases the
instance and others still request it, `release_service` wants to remove these endpoints, from
`remote_services_` and from `service_instances_`, and to stop them. It calls
`remove_specific_client_endpoint(_service, _instance, _client, …)`, which takes the client first, then
service and instance; all of them have 16 bits. So another key is looked up. The client also stays in
`specific_endpoint_clients_`, from which nothing is ever taken.

## Main definitions

* `Vsomeip.SelectiveClients` — the tables of `RemoteClients`, with `service_instances_`.
* `Vsomeip.SelectiveClients.releaseService` — `release_service` on all of them, which has its end in
  common with that of `RemoteClients`.
* `Vsomeip.SelectiveClients.Released` — what is left after a release.

## Main results

* `Vsomeip.SelectiveClients.tables_releaseService` — the tables of `RemoteClients` are changed as there.
* `Vsomeip.SelectiveClients.entries_releaseService_iff` — when the entries of the client are removed.
* `Vsomeip.SelectiveClients.not_released` — a client is never fully released.
-/

namespace Vsomeip

open Function (update)

/-- The tables of client endpoints, with `service_instances_`: the endpoints of a service with the
instances that they are for. -/
structure SelectiveClients (Address : Type) where
  tables : RemoteClients Address
  serviceInstances : UInt16 → ℕ → Option UInt16

namespace SelectiveClients

variable {Address : Type}

/-- `service_instances_[service].erase`. -/
def eraseInstance (s : SelectiveClients Address) (service : UInt16) (p : ℕ) :
    SelectiveClients Address :=
  { s with
    serviceInstances :=
      update s.serviceInstances service (update (s.serviceInstances service) p none) }

/-- The same if there is an endpoint. -/
def eraseInstance? (s : SelectiveClients Address) (service : UInt16) (p : Option ℕ) :
    SelectiveClients Address :=
  match p with
  | some p => s.eraseInstance service p
  | none => s

/-- `remove_specific_client_endpoint`. -/
def removeSpecificClientEndpoint (s : SelectiveClients Address) (client : UInt16) (k : InstanceKey)
    (reliable : Bool) : SelectiveClients Address :=
  let erased :=
    if s.tables.isSpecificEndpointClient client k ≠ routingClient then
      s.eraseInstance? k.1 (s.tables.entry ⟨k, client, reliable⟩)
    else s
  { erased with tables := s.tables.removeSpecificClientEndpoint client k reliable }

variable [DecidableEq Address]

/-- `clear_client_endpoints`. -/
def clearClientEndpoints (s : SelectiveClients Address) (k : InstanceKey) (reliable : Bool) :
    SelectiveClients Address :=
  let erased := (routingClient :: s.tables.specificEndpointClients k).foldl
    (fun s' c => s'.eraseInstance? k.1 (s.tables.entry ⟨k, c, reliable⟩)) s
  { erased with tables := s.tables.clearClientEndpoints k reliable }

/-- `serviceinfo::set_endpoint` without an endpoint. -/
def resetEndpoint (s : SelectiveClients Address) (k : InstanceKey) (reliable : Bool) :
    SelectiveClients Address :=
  { s with tables := s.tables.setEndpoint k reliable false }

/-- What `release_service` calls for these tables. -/
def releaseCalls : ReleaseCalls (SelectiveClients Address) where
  clearClientEndpoints := clearClientEndpoints
  resetEndpoint := resetEndpoint
  removeSpecificClientEndpoint := removeSpecificClientEndpoint

/-- `release_service`. -/
def releaseService (cfg : RemoteConfig Address) (s : SelectiveClients Address) (client : UInt16)
    (k : InstanceKey) : SelectiveClients Address :=
  let s := { s with tables := { s.tables with
    requests := s.tables.requests.releaseService cfg.requests client k } }
  releaseCalls.release (s.tables.requests.services k) client k s

/-- A client with an exclusive proxy has an endpoint for a remote service instance, and another client is
a requester of it as well. -/
structure HoldsEndpoint (s : SelectiveClients Address) (client : UInt16) (k : InstanceKey) : Prop where
  client_ne : client ≠ routingClient
  specific : client ∈ s.tables.specificEndpointClients k
  endpoint : ∃ reliable p, s.tables.entry ⟨k, client, reliable⟩ = some p
  requesters : ∃ info, s.tables.requests.services k = some info ∧ info.isLocal = false ∧
    ∃ other ∈ info.requesters, other ≠ client

/-- A client has been released: its endpoints have no entries and are stopped, it is not reported as a
specific client any more, and everything else is as it was. -/
structure Released (s s' : SelectiveClients Address) (client : UInt16) (k : InstanceKey) : Prop where
  entries : ∀ reliable, s'.tables.entry ⟨k, client, reliable⟩ = none
  instances : ∀ reliable p, s.tables.entry ⟨k, client, reliable⟩ = some p →
    s'.serviceInstances k.1 p = none
  stopped : ∀ reliable p, s.tables.entry ⟨k, client, reliable⟩ = some p →
    (s'.tables.endpoints p).isStopped = true
  notReported : s'.tables.isSpecificEndpointClient client k = routingClient
  others : ∀ key, ¬ (key.service = k ∧ key.client = client) →
    s'.tables.entry key = s.tables.entry key ∧
      ∀ p, s.tables.entry key = some p → s'.tables.endpoints p = s.tables.endpoints p

variable {s : SelectiveClients Address} {client : UInt16} {k : InstanceKey} {reliable : Bool}

/-- **The tables of client endpoints** are changed as in `RemoteClients`. -/
lemma tables_releaseService (cfg : RemoteConfig Address) :
    (s.releaseService cfg client k).tables = s.tables.releaseService cfg client k :=
  releaseCalls.map_release _ client k RemoteClients.releaseCalls SelectiveClients.tables
    (fun _ _ _ => rfl) (fun _ _ _ => rfl) (fun _ _ _ _ => rfl) _

/-- A release takes the client from the requesters of the instance. -/
lemma services_releaseService {cfg : RequestConfig} {r : ServiceRequests} {info : RequestedInfo}
    (hinfo : r.services k = some info) : (r.releaseService cfg client k).services k =
      some { info with requesters := info.requesters.erase client } := by
  have hbase : (r.baseReleaseService client k).services k =
      some { info with requesters := info.requesters.erase client } := by
    rw [ServiceRequests.baseReleaseService, hinfo]
    exact Function.update_self ..
  have hremove : ((r.baseReleaseService client k).requestedServiceRemove cfg client k).services k =
      some { info with requesters := info.requesters.erase client } := by
    rw [ServiceRequests.requestedServiceRemove_services]
    exact hbase
  rw [ServiceRequests.releaseService, hremove]
  dsimp only
  split_ifs <;> exact hremove

/-- The release of a service instance that another client requests as well. -/
lemma HoldsEndpoint.releaseService_eq (h : s.HoldsEndpoint client k) (cfg : RemoteConfig Address) :
    ∃ r, (s.releaseService cfg client k).tables =
      (({ s.tables with requests := r }).removeSpecificClientEndpoint k.1 (k.2, client)
        true).removeSpecificClientEndpoint k.1 (k.2, client) false := by
  obtain ⟨info, hinfo, hlocal, other, hother, hne⟩ := h.requesters
  have hcard : (info.requesters.erase client).card ≠ 0 :=
    Finset.card_ne_zero_of_mem (Finset.mem_erase.mpr ⟨hne, hother⟩)
  refine ⟨s.tables.requests.releaseService cfg.requests client k, ?_⟩
  rw [tables_releaseService, RemoteClients.releaseService]
  dsimp only
  rw [services_releaseService hinfo, ReleaseCalls.release]
  dsimp only
  rw [if_neg (by simp [hlocal]), if_neg hcard]
  rfl

omit [DecidableEq Address] in
/-- The entries and the specific clients after `remove_specific_client_endpoint`. -/
lemma removeSpecificClientEndpoint_frame (t : RemoteClients Address) (client : UInt16) (k : InstanceKey)
    (reliable : Bool) :
    (t.removeSpecificClientEndpoint client k reliable).specificEndpointClients =
        t.specificEndpointClients ∧
      ∀ key, (t.removeSpecificClientEndpoint client k reliable).entry key =
        if t.isSpecificEndpointClient client k ≠ routingClient ∧ key = ⟨k, client, reliable⟩ then none
        else t.entry key := by
  by_cases hclient : t.isSpecificEndpointClient client k = routingClient
  · rw [RemoteClients.removeSpecificClientEndpoint, if_neg (not_not.mpr hclient)]
    exact ⟨rfl, fun key => (if_neg fun h => h.1 hclient).symm⟩
  · obtain ⟨e, heq, -⟩ :=
      @RemoteClients.removeSpecificClientEndpoint_eq _ t client k reliable hclient
    rw [heq]
    refine ⟨rfl, fun key => ?_⟩
    simp only [ne_eq, hclient, not_false_eq_true, true_and]
    exact RemoteClients.entry_erase _ key

/-- The specific clients and the entries after the release. -/
lemma HoldsEndpoint.frame (h : s.HoldsEndpoint client k) (cfg : RemoteConfig Address) :
    (s.releaseService cfg client k).tables.specificEndpointClients = s.tables.specificEndpointClients ∧
      ∀ key, (s.releaseService cfg client k).tables.entry key =
        if s.tables.isSpecificEndpointClient k.1 (k.2, client) ≠ routingClient ∧
          key.service = (k.2, client) ∧ key.client = k.1 then none else s.tables.entry key := by
  obtain ⟨r, heq⟩ := h.releaseService_eq cfg
  rw [heq]
  have hfirst := removeSpecificClientEndpoint_frame { s.tables with requests := r } k.1 (k.2, client) true
  generalize { s.tables with requests := r }.removeSpecificClientEndpoint k.1 (k.2, client) true = t
    at hfirst ⊢
  have hsecond := removeSpecificClientEndpoint_frame t k.1 (k.2, client) false
  refine ⟨hsecond.1.trans hfirst.1, fun key => ?_⟩
  have hspecific : t.isSpecificEndpointClient k.1 (k.2, client) =
      s.tables.isSpecificEndpointClient k.1 (k.2, client) := by
    rw [RemoteClients.isSpecificEndpointClient, hfirst.1]
    rfl
  rw [hsecond.2, hspecific, hfirst.2]
  obtain ⟨service, client', reliable⟩ := key
  change (if s.tables.isSpecificEndpointClient k.1 (k.2, client) ≠ routingClient ∧ _ then none
    else if s.tables.isSpecificEndpointClient k.1 (k.2, client) ≠ routingClient ∧ _ then none
    else s.tables.entry _) = _
  by_cases hkey : service = (k.2, client) ∧ client' = k.1
  · obtain ⟨rfl, rfl⟩ := hkey
    cases reliable <;> simp
  · have hne (r : Bool) : ¬ (⟨service, client', reliable⟩ : RemoteKey) = ⟨(k.2, client), k.1, r⟩ := by
      rintro ⟨⟩
      exact hkey ⟨rfl, rfl⟩
    simp only [hne, hkey, and_false, if_false]

/-- **The entries of the client are removed** only if the three numbers that are mixed up are the same. -/
theorem entries_releaseService_iff (cfg : RemoteConfig Address) (h : s.HoldsEndpoint client k) :
    (∀ reliable, (s.releaseService cfg client k).tables.entry ⟨k, client, reliable⟩ = none) ↔
      k = (client, client) := by
  simp only [(h.frame cfg).2]
  constructor
  · intro hnone
    obtain ⟨reliable, p, hentry⟩ := h.endpoint
    by_contra hne
    have hkept := hnone reliable
    rw [if_neg, hentry] at hkept
    · cases hkept
    · rintro ⟨-, hservice, hclient⟩
      have hinstance : k.2 = client := congrArg Prod.snd hservice
      exact hne (Prod.ext hclient.symm hinstance)
  · rintro rfl reliable
    refine if_pos ⟨?_, rfl, rfl⟩
    rw [RemoteClients.isSpecificEndpointClient, if_pos h.specific]
    exact h.client_ne

/-- **A client with an exclusive proxy is never fully released**: it stays a specific client. -/
theorem not_released (cfg : RemoteConfig Address) (h : s.HoldsEndpoint client k) :
    ¬ Released s (s.releaseService cfg client k) client k := by
  intro hreleased
  have hreported := hreleased.notReported
  rw [RemoteClients.isSpecificEndpointClient, (h.frame cfg).1, if_pos h.specific] at hreported
  exact h.client_ne hreported

/-! ## Two clients of a service -/

/-- The clients 0x101, with an exclusive proxy, and 0x102 have requested a service that is offered over
TCP. -/
def exampleClients : SelectiveClients UInt32 where
  tables := Runs.run (RemoteClients.step RemoteClients.exampleConfig)
    (RemoteClients.init ⟨(0, 0), false, true⟩)
    [.requestService 0x101 (0x1234, 1) ⟨1, 0⟩ true fun _ => true,
      .requestService 0x102 (0x1234, 1) ⟨1, 0⟩ false fun _ => true, RemoteClients.exampleOffer 0x0A000002]
  serviceInstances := fun service p => if service = 0x1234 ∧ p < 2 then some 1 else none

/-- The client of the example holds its endpoint. -/
lemma holdsEndpoint_example : exampleClients.HoldsEndpoint 0x101 (0x1234, 1) where
  client_ne := by decide
  specific := by decide
  endpoint := ⟨true, 1, by decide⟩
  requesters := ⟨_, rfl, by decide, 0x102, by decide, by decide⟩

/-- The release by the client with the exclusive proxy. -/
theorem not_released_example : ¬ Released exampleClients
    (exampleClients.releaseService RemoteClients.exampleConfig 0x101 (0x1234, 1)) 0x101 (0x1234, 1) :=
  not_released _ holdsEndpoint_example

/-- **A client that is not released**: its endpoint is still entered. -/
theorem exists_not_released : ¬ ∀ (cfg : RemoteConfig UInt32) (s : SelectiveClients UInt32)
    (client : UInt16) (k : InstanceKey), s.HoldsEndpoint client k →
    Released s (s.releaseService cfg client k) client k := by
  intro h
  have hentries := (h RemoteClients.exampleConfig exampleClients 0x101 (0x1234, 1)
    holdsEndpoint_example).entries
  rw [entries_releaseService_iff _ holdsEndpoint_example] at hentries
  exact absurd hentries (by decide)

end SelectiveClients

end Vsomeip
