import Mathlib.Data.Finset.Image
import Vsomeip.Lib.Runs
import Vsomeip.Routing.OfferService

set_option relaxedAutoImplicit false
set_option autoImplicit false

/-!
# Requests of remote services

A request of a service instance is remembered in `requested_services_` for the client, in the service
info of the instance for its requesters, and in `requested_` of the service discovery, which searches
for the instance. The last table has one entry for all clients. Whether it is changed depends on
whether the instance is known at the time, that is, whether it has a service info.

Offers of remote hosts come and go: `add_routing_info` creates a service info and, if an endpoint of
the offer is new, makes the clients with a matching request its requesters; `del_routing_info` removes
the service info. The endpoints are left out.

## Main definitions

* `Vsomeip.ServiceRequests` — the three tables.
* `Vsomeip.ServiceRequests.requestService`, `Vsomeip.ServiceRequests.releaseService` — the operations.
* `Vsomeip.ServiceRequests.Searched` — what some client has requested is searched for.

## Main results

* `Vsomeip.ServiceRequests.searched_along_iff` — this holds along a run exactly if instances are
  requested while they are not known or already searched for, and released by one of several clients
  only while another one is a registered requester.
-/

namespace Vsomeip

/-- A request for a version is for a service instance of another version: the condition of
`request_service` and `add_routing_info`. -/
def Version.Matches (requested provided : Version) : Prop :=
  (requested.major = provided.major ∨ provided.major = 0 ∨ requested.major = 0xFF) ∧
    (requested.minor ≤ provided.minor ∨ provided.minor = 0 ∨ requested.minor = 0xFFFFFFFF)

instance (requested provided : Version) : Decidable (requested.Matches provided) :=
  inferInstanceAs (Decidable (_ ∧ _))

/-- What the requests are about in a `serviceinfo`. -/
structure RequestedInfo where
  version : Version
  isLocal : Bool
  requesters : Finset UInt16

/-- What the routing manager asks its configuration, and its own client. -/
structure RequestConfig where
  isLocalService : InstanceKey → Bool
  client : UInt16

/-- The tables that are about requests. -/
structure ServiceRequests where
  /-- `requested_services_`: the clients with the instances and versions that they have requested. -/
  requestedServices : Finset (UInt16 × InstanceKey × Version)
  services : InstanceKey → Option RequestedInfo
  /-- `requested_` of the service discovery. -/
  requested : Finset InstanceKey

namespace ServiceRequests

/-- No requests. -/
def init : ServiceRequests :=
  ⟨∅, fun _ => none, ∅⟩

variable (cfg : RequestConfig) (s : ServiceRequests) (client : UInt16) (k : InstanceKey)

/-- `routing_manager_impl::requested_service_add`. -/
def requestedServiceAdd (version : Version) : ServiceRequests :=
  { s with requestedServices := insert (client, k, version) s.requestedServices }

/-- `routing_manager_impl::requested_service_remove`. When the client has requested nothing else, the
requests of the routing manager's own client are erased, and not those of the client. -/
def requestedServiceRemove : ServiceRequests :=
  let rest := s.requestedServices.filter fun x => ¬ (x.1 = client ∧ x.2.1 = k)
  if ∃ x ∈ s.requestedServices, x.1 = client ∧ x.2.1 = k then
    { s with
      requestedServices :=
        if ∃ x ∈ rest, x.1 = client then rest else rest.filter fun x => x.1 ≠ cfg.client }
  else s

/-- `serviceinfo::add_client` and `serviceinfo::remove_client`. -/
def setRequesters (info : RequestedInfo) (requesters : Finset UInt16) : ServiceRequests :=
  { s with services := Function.update s.services k (some { info with requesters }) }

/-- `routing_manager_impl::request_service`, which begins with `routing_manager_base::request_service`. -/
def requestService (version : Version) : ServiceRequests :=
  match s.services k with
  | none =>
    let s := s.requestedServiceAdd client k version
    if cfg.isLocalService k then s else { s with requested := insert k s.requested }
  | some info =>
    if version.Matches info.version then
      let s := s.setRequesters k info (insert client info.requesters)
      if info.isLocal then s else s.requestedServiceAdd client k version
    else s

/-- `routing_manager_base::release_service`. -/
def baseReleaseService : ServiceRequests :=
  match s.services k with
  | none => s
  | some info => s.setRequesters k info (info.requesters.erase client)

/-- `routing_manager_impl::release_service`. -/
def releaseService : ServiceRequests :=
  let s := (s.baseReleaseService client k).requestedServiceRemove cfg client k
  match s.services k with
  | none => { s with requested := s.requested.erase k }
  | some info =>
    if info.isLocal then { s with requested := s.requested.erase k }
    else if info.requesters.card = 0 then { s with requested := s.requested.erase k }
    else s

/-- `routing_manager_impl::add_routing_info` for an offer in a version; `isNew` says that an endpoint of
it was not known. -/
def addRoutingInfo (version : Version) (isNew : Bool) : ServiceRequests :=
  let info := (s.services k).getD ⟨version, false, ∅⟩
  let requesters :=
    (s.requestedServices.filter fun x => x.2.1 = k ∧ x.2.2.Matches version).image (·.1)
  if info.isLocal then s
  else s.setRequesters k info (if isNew then info.requesters ∪ requesters else info.requesters)

/-- `routing_manager_impl::del_routing_info`, when it removes the service info. -/
def delRoutingInfo : ServiceRequests :=
  { s with services := Function.update s.services k none }

/-! ## Runs -/

/-- What happens to the tables. -/
inductive Event
  | request (client : UInt16) (k : InstanceKey) (version : Version)
  | release (client : UInt16) (k : InstanceKey)
  | offer (k : InstanceKey) (version : Version) (isNew : Bool)
  | loss (k : InstanceKey)

/-- The tables, with the clients that have requested an instance and not released it since. -/
structure World where
  tables : ServiceRequests
  wanted : Finset (UInt16 × InstanceKey)

/-- The tables after an event. -/
def step (w : World) : Event → World
  | .request client k version =>
    ⟨w.tables.requestService cfg client k version, insert (client, k) w.wanted⟩
  | .release client k => ⟨w.tables.releaseService cfg client k, w.wanted.erase (client, k)⟩
  | .offer k version isNew => ⟨w.tables.addRoutingInfo k version isNew, w.wanted⟩
  | .loss k => ⟨w.tables.delRoutingInfo k, w.wanted⟩

/-- What some client wants is searched for. -/
def Searched (w : World) : Prop :=
  ∀ client k, (client, k) ∈ w.wanted → k ∈ w.tables.requested

/-- The instances that are requested are remote ones. -/
def Remote : Event → Prop
  | .request _ k _ => cfg.isLocalService k = false
  | _ => True

/-- Another client is a registered requester of an instance that is known. -/
def Registered (s : ServiceRequests) (client : UInt16) (k : InstanceKey) : Prop :=
  ∃ info, s.services k = some info ∧ info.isLocal = false ∧ ∃ c ∈ info.requesters, c ≠ client

/-- The events that keep what is wanted searched for: an instance is requested while it is not known or
already searched for, and it is released while another client is a registered requester or no other
client wants it. -/
def Keeps (w : World) : Event → Prop
  | .request _ k _ => w.tables.services k = none ∨ k ∈ w.tables.requested
  | .release client k => w.tables.Registered client k ∨ ∀ c, (c, k) ∈ w.wanted → c = client
  | .offer .. => True
  | .loss .. => True

/-! ## The steps -/

variable {cfg} {s : ServiceRequests} {w : World} {client : UInt16} {k : InstanceKey}

/-- A release keeps the services. -/
@[simp] lemma requestedServiceRemove_services :
    (s.requestedServiceRemove cfg client k).services = s.services := by
  unfold requestedServiceRemove
  dsimp only
  split <;> rfl

/-- A release through the base table keeps what is requested of the network. -/
@[simp] lemma requestedServiceRemove_requested :
    (s.requestedServiceRemove cfg client k).requested = s.requested := by
  unfold requestedServiceRemove
  dsimp only
  split <;> rfl

/-- A request makes the service discovery search for the instance if it is not known. -/
lemma requested_requestService {version : Version} (hremote : cfg.isLocalService k = false) :
    (s.requestService cfg client k version).requested =
      if s.services k = none then insert k s.requested else s.requested := by
  unfold requestService
  cases hk : s.services k with
  | none => simp [hremote, requestedServiceAdd]
  | some info =>
    simp only [reduceCtorEq, if_false]
    split
    · split
      · rfl
      · rfl
    · rfl

/-- A release ends the search if no other client is registered as a requester. -/
lemma requested_releaseService [Decidable (s.Registered client k)] :
    (s.releaseService cfg client k).requested =
      if s.Registered client k then s.requested else s.requested.erase k := by
  unfold releaseService
  cases hk : s.services k with
  | none =>
    have hnot : ¬ s.Registered client k := by
      rintro ⟨info, hinfo, -⟩
      rw [hk] at hinfo
      cases hinfo
    simp [baseReleaseService, hk, hnot]
  | some info =>
    have hiff : s.Registered client k ↔
        info.isLocal = false ∧ (info.requesters.erase client).card ≠ 0 := by
      constructor
      · rintro ⟨info', hinfo, hlocal, c, hc, hne⟩
        rw [hk, Option.some.injEq] at hinfo
        subst hinfo
        exact ⟨hlocal, Finset.card_ne_zero_of_mem (Finset.mem_erase.mpr ⟨hne, hc⟩)⟩
      · rintro ⟨hlocal, hcard⟩
        obtain ⟨c, hc⟩ := Finset.card_ne_zero.mp hcard
        obtain ⟨hne, hc⟩ := Finset.mem_erase.mp hc
        exact ⟨info, hk, hlocal, c, hc, hne⟩
    simp only [baseReleaseService, hk, requestedServiceRemove_services, requestedServiceRemove_requested,
      setRequesters, Function.update_self, hiff]
    cases hlocal : info.isLocal with
    | true => simp
    | false =>
      by_cases hcard : (info.requesters.erase client).card = 0
      · simp [hcard]
      · simp [hcard]

/-- Routing info keeps what is requested. -/
lemma requested_addRoutingInfo {version : Version} {isNew : Bool} :
    (s.addRoutingInfo k version isNew).requested = s.requested := by
  unfold addRoutingInfo
  dsimp only
  split <;> rfl

/-- One event keeps what is wanted searched for, or does not. -/
lemma Searched.step_iff (hw : Searched w) {e : Event} (he : Remote cfg e) :
    Searched (step cfg w e) ↔ Keeps w e := by
  classical
  cases e with
  | request client k version =>
    simp only [Searched, step, Keeps, Finset.mem_insert, requested_requestService he]
    constructor
    · intro h
      have hk := h client k (.inl rfl)
      split at hk
      · exact .inl ‹_›
      · exact .inr hk
    · intro hkeeps c k' hwanted
      have hmem : k' = k ∨ k' ∈ w.tables.requested := by
        rcases hwanted with heq | hwanted
        · exact .inl (congrArg Prod.snd heq)
        · exact .inr (hw c k' hwanted)
      split
      · exact Finset.mem_insert.mpr hmem
      · rename_i hknown
        rcases hmem with rfl | hmem
        · exact hkeeps.resolve_left hknown
        · exact hmem
  | release client k =>
    simp only [Searched, step, Keeps, Finset.mem_erase, requested_releaseService]
    by_cases hreg : w.tables.Registered client k
    · simp only [hreg, if_true, true_or, iff_true]
      exact fun c k' hwanted => hw c k' hwanted.2
    · simp only [hreg, if_false, false_or, Finset.mem_erase]
      constructor
      · intro h c hwanted
        by_contra hne
        exact (h c k ⟨fun heq => hne (congrArg Prod.fst heq), hwanted⟩).1 rfl
      · intro h c k' hwanted
        refine ⟨?_, hw c k' hwanted.2⟩
        rintro rfl
        exact hwanted.1 (by rw [h c hwanted.2])
  | offer k version isNew =>
    refine iff_of_true ?_ trivial
    simp only [Searched, step, requested_addRoutingInfo]
    exact hw
  | loss k => exact iff_of_true hw trivial

/-- **What is wanted is searched for along a run** of requests and releases of remote instances, which
are offered and lost in between, if and only if every event meets the condition.

**Proof sketch.** An event that does not meet it breaks the property at once: the service discovery
does not know of a request for a known instance, and a release for an instance of which no other client
is a registered requester ends the search for all clients. -/
theorem searched_along_iff {events : List Event} (hevents : ∀ e ∈ events, Remote cfg e) :
    Runs.Along (step cfg) (fun w e => Searched (step cfg w e)) ⟨init, ∅⟩ events ↔
      Runs.Along (step cfg) Keeps ⟨init, ∅⟩ events := by
  have hinit : Searched ⟨init, ∅⟩ := fun client k h => absurd h (Finset.notMem_empty _)
  refine @Runs.along_iff _ _ (step cfg) Searched (fun _ e => Remote cfg e) Keeps
    (fun w e => Searched (step cfg w e)) (fun hw he hgood => ?_)
    (fun hw he hbad h => hbad ((hw.step_iff he).mp h)) _ _ hinit (Runs.along_of_forall hevents)
  have hnext := (hw.step_iff he).mpr hgood
  exact ⟨hnext, hnext⟩

/-! ## Two clients -/

/-- A routing manager of client 0x100, with no local services in its configuration. -/
def exampleConfig : RequestConfig :=
  ⟨fun _ => false, 0x100⟩

/-- Two clients request an instance, which is offered, and one of them releases it. -/
theorem searched_along_example :
    Runs.Along (step exampleConfig) (fun w e => Searched (step exampleConfig w e)) ⟨init, ∅⟩
      [.request 0x101 (1, 1) ⟨1, 0⟩, .request 0x102 (1, 1) ⟨1, 0⟩, .offer (1, 1) ⟨1, 0⟩ true,
        .release 0x101 (1, 1), .loss (1, 1)] := by
  have hremote : ∀ e ∈ [Event.request 0x101 (1, 1) ⟨1, 0⟩, .request 0x102 (1, 1) ⟨1, 0⟩,
      .offer (1, 1) ⟨1, 0⟩ true, .release 0x101 (1, 1), .loss (1, 1)], Remote exampleConfig e := by
    simp [Remote, exampleConfig]
  exact (searched_along_iff hremote).mpr
    ⟨.inl rfl, .inl rfl, trivial, .inl ⟨_, rfl, rfl, 0x102, by decide, by decide⟩, trivial, trivial⟩

/-- Two clients request an instance that is not offered, and one of them releases it: the service
discovery does not search for it any more. -/
theorem not_searched_released :
    (∀ e ∈ [Event.request 0x101 (1, 1) ⟨1, 0⟩, .request 0x102 (1, 1) ⟨1, 0⟩, .release 0x101 (1, 1)],
      Remote exampleConfig e) ∧
    ¬ Searched (Runs.run (step exampleConfig) ⟨init, ∅⟩
      [.request 0x101 (1, 1) ⟨1, 0⟩, .request 0x102 (1, 1) ⟨1, 0⟩, .release 0x101 (1, 1)]) := by
  refine ⟨by simp [Remote, exampleConfig], fun h => ?_⟩
  have hmem := h 0x102 (1, 1) (by decide)
  revert hmem
  decide

end ServiceRequests

end Vsomeip
