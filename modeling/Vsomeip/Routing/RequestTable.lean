import Vsomeip.Lib.NestedMap
import Vsomeip.Routing.ServiceRequests

set_option relaxedAutoImplicit false
set_option autoImplicit false

/-!
# The table of requests

`requested_services_` maps a client to services, a service to instances, and an instance to the versions
that the client has requested of it. `requested_service_remove` takes an instance out and then the levels
above it that have become empty. On the top level it erases the entry of `client_`, the routing manager's
own client, where the one of `_client` is meant.

The set in `ServiceRequests` stands for this table.

## Main definitions

* `Vsomeip.RequestTable` — the four levels.
* `Vsomeip.RequestTable.requestedServiceAdd`, `Vsomeip.RequestTable.requestedServiceRemove`.
* `Vsomeip.RequestTable.Represents` — a table stands for a set of requests.
* `Vsomeip.RequestTable.Exact` — the table stands for what was added and not removed since.

## Main results

* `Vsomeip.RequestTable.represents_requestedServiceRemove` — the table follows the set of
  `ServiceRequests`.
* `Vsomeip.RequestTable.exact_table_along_iff` — when the table is exact along a run.
-/

namespace Vsomeip

open NestedMap

/-- The versions that are requested of the instances of a service. -/
abbrev RequestedInstances : Type := Finmap fun _ : UInt16 => Finset Version

/-- The instances that are requested of the services. -/
abbrev RequestedServices : Type := Finmap fun _ : UInt16 => RequestedInstances

/-- `requested_services_`. -/
abbrev RequestTable : Type := Finmap fun _ : UInt16 => RequestedServices

/-- A request of a client: a version of a service instance. -/
abbrev Request : Type := UInt16 × InstanceKey × Version

namespace RequestTable

/-- `routing_manager_impl::requested_service_add`. -/
def requestedServiceAdd (t : RequestTable) (client : UInt16) (k : InstanceKey) (version : Version) :
    RequestTable :=
  let services := (t.lookup client).getD ∅
  let instances := (services.lookup k.1).getD ∅
  let versions := (instances.lookup k.2).getD ∅
  t.insert client (services.insert k.1 (instances.insert k.2 (insert version versions)))

/-- `routing_manager_impl::requested_service_remove` in the routing manager of a client. -/
def requestedServiceRemove (ownClient : UInt16) (t : RequestTable) (client : UInt16) (k : InstanceKey) :
    RequestTable :=
  match t.lookup client with
  | none => t
  | some services =>
    match services.lookup k.1 with
    | none => t
    | some instances =>
      if k.2 ∈ instances then
        let instances := instances.erase k.2
        if instances.keys.card = 0 then
          let services := services.erase k.1
          if services.keys.card = 0 then (t.insert client services).erase ownClient
          else t.insert client services
        else t.insert client (services.insert k.1 instances)
      else t

/-! ## What a table stands for -/

/-- A version is in a set of versions. -/
def VersionsHave (versions : Finset Version) (version : Version) : Prop := version ∈ versions

/-- A version is requested of an instance. -/
def InstancesHave (instances : RequestedInstances) (x : UInt16 × Version) : Prop :=
  Holds VersionsHave instances x.1 x.2

/-- A version is requested of an instance of a service. -/
def ServicesHave (services : RequestedServices) (x : InstanceKey × Version) : Prop :=
  Holds InstancesHave services x.1.1 (x.1.2, x.2)

/-- A request is in the table. -/
def Has (t : RequestTable) (x : Request) : Prop := Holds ServicesHave t x.1 x.2

/-- The table stands for a set of requests. -/
def Represents (t : RequestTable) (requests : Finset Request) : Prop := ∀ x, Has t x ↔ x ∈ requests

/-- No set of versions and no map of instances is empty. -/
structure PrunedServices (services : RequestedServices) : Prop where
  instances : Every (Pruned VersionsHave) services
  services : Pruned InstancesHave services

/-- The maps below the clients are pruned. The map of a client may be empty. -/
def PrunedTable (t : RequestTable) : Prop := Every PrunedServices t

variable {t : RequestTable} {services : RequestedServices} {instances : RequestedInstances}
  {client ownClient service instance_ : UInt16} {k : InstanceKey} {version : Version}

/-- No version in an empty set. -/
lemma not_versionsHave_empty : ¬ VersionsHave ∅ version := Finset.notMem_empty version

/-- No instance in an empty map. -/
lemma not_instancesHave_empty {x : UInt16 × Version} : ¬ InstancesHave ∅ x := not_holds_empty

/-- No service in an empty map. -/
lemma not_servicesHave_empty {x : InstanceKey × Version} : ¬ ServicesHave ∅ x := not_holds_empty

/-- An empty map has no empty parts. -/
lemma prunedServices_empty : PrunedServices ∅ := ⟨every_empty, every_empty⟩

/-- A service with instances leaves no empty part. -/
lemma PrunedServices.insert (h : PrunedServices services) (hinstances : Pruned VersionsHave instances)
    (hsome : ∃ x, InstancesHave instances x) : PrunedServices (services.insert service instances) :=
  ⟨h.instances.insert hinstances, Every.insert h.services hsome⟩

/-- Erasing a service leaves no empty part. -/
lemma PrunedServices.erase (h : PrunedServices services) : PrunedServices (services.erase service) :=
  ⟨h.instances.erase, Every.erase h.services⟩

/-- The services that a client has requested. -/
def servicesOf (t : RequestTable) (client : UInt16) : RequestedServices := (t.lookup client).getD ∅

/-- The instances in a map of services. -/
def instancesOf (services : RequestedServices) (service : UInt16) : RequestedInstances :=
  (services.lookup service).getD ∅

/-- The requests of a client, from the table. -/
lemma servicesHave_servicesOf {x : InstanceKey × Version} :
    ServicesHave (servicesOf t client) x ↔ Has t (client, x) :=
  holds_getD not_servicesHave_empty

/-- The requests of a service, from those of a client. -/
lemma instancesHave_instancesOf {x : UInt16 × Version} :
    InstancesHave (instancesOf services service) x ↔ ServicesHave services ((service, x.1), x.2) :=
  holds_getD not_instancesHave_empty

/-- The services of a client have no empty parts. -/
lemma PrunedTable.servicesOf (h : PrunedTable t) : PrunedServices (servicesOf t client) :=
  h.getD prunedServices_empty

/-- The instances of a service have no empty parts. -/
lemma PrunedServices.instancesOf (h : PrunedServices services) :
    Pruned VersionsHave (instancesOf services service) :=
  h.instances.getD every_empty

/-- A map of services without keys stands for no request. -/
lemma PrunedServices.card_keys_eq_zero_iff (h : PrunedServices services) :
    services.keys.card = 0 ↔ ∀ x, ¬ ServicesHave services x := by
  rw [h.services.card_keys_eq_zero_iff]
  exact ⟨fun hnone x => hnone x.1.1 (x.1.2, x.2), fun hnone service x => hnone ((service, x.1), x.2)⟩

/-! ### Additions -/

/-- The versions of an instance, with another one. -/
def withVersion (instances : RequestedInstances) (instance_ : UInt16) (version : Version) :
    RequestedInstances :=
  instances.insert instance_ (insert version ((instances.lookup instance_).getD ∅))

/-- The instances after a version is entered. -/
lemma instancesHave_withVersion {x : UInt16 × Version} :
    InstancesHave (withVersion instances instance_ version) x ↔
      x = (instance_, version) ∨ InstancesHave instances x := by
  rw [Prod.ext_iff]
  refine holds_insert_add fun version' => ?_
  exact Finset.mem_insert.trans (or_congr_right (holds_getD not_versionsHave_empty))

/-- The services after a version is entered. -/
lemma servicesHave_withVersion {x : InstanceKey × Version} :
    ServicesHave (services.insert k.1 (withVersion (instancesOf services k.1) k.2 version)) x ↔
      x = (k, version) ∨ ServicesHave services x := by
  have hx : x = (k, version) ↔ x.1.1 = k.1 ∧ (x.1.2, x.2) = (k.2, version) := by
    simp only [Prod.ext_iff, and_assoc]
  rw [hx]
  refine holds_insert_add fun y => ?_
  exact instancesHave_withVersion.trans (or_congr_right instancesHave_instancesOf)

/-- A request that is added is there, with all the others. -/
lemma has_requestedServiceAdd {x : Request} :
    Has (requestedServiceAdd t client k version) x ↔ x = (client, k, version) ∨ Has t x := by
  rw [Prod.ext_iff (y := (client, k, version))]
  refine holds_insert_add fun y => ?_
  exact servicesHave_withVersion.trans (or_congr_right servicesHave_servicesOf)

/-- A request leaves no empty part. -/
lemma PrunedTable.requestedServiceAdd (h : PrunedTable t) :
    PrunedTable (requestedServiceAdd t client k version) := by
  have hinstances : Pruned VersionsHave
      (withVersion (RequestTable.instancesOf (RequestTable.servicesOf t client) k.1) k.2 version) :=
    Every.insert h.servicesOf.instancesOf ⟨version, Finset.mem_insert_self ..⟩
  exact Every.insert h (h.servicesOf.insert hinstances
    ⟨(k.2, version), instancesHave_withVersion.mpr (.inl rfl)⟩)

/-! ### Removals -/

/-- The services of a client without an instance, and without the service if that was the last one. -/
def eraseInstance (services : RequestedServices) (k : InstanceKey) : RequestedServices :=
  let instances := (instancesOf services k.1).erase k.2
  if instances.keys.card = 0 then services.erase k.1 else services.insert k.1 instances

/-- What is left of the instances of a service. -/
lemma instancesHave_erase {x : UInt16 × Version} :
    InstancesHave ((instancesOf services k.1).erase k.2) x ↔
      x.1 ≠ k.2 ∧ ServicesHave services ((k.1, x.1), x.2) :=
  holds_erase.trans (and_congr_right fun _ => instancesHave_instancesOf)

/-- The requests of the other instances are left. -/
lemma servicesHave_eraseInstance (h : PrunedServices services) {x : InstanceKey × Version} :
    ServicesHave (eraseInstance services k) x ↔ x.1 ≠ k ∧ ServicesHave services x := by
  have hpruned : Pruned VersionsHave ((instancesOf services k.1).erase k.2) := h.instancesOf.erase
  have hx : x.1 = k ↔ x.1.1 = k.1 ∧ x.1.2 = k.2 := Prod.ext_iff
  rw [eraseInstance, Ne, hx]
  split_ifs with hcard
  · refine holds_erase.trans (and_congr_left fun hhas => not_congr ?_)
    refine ⟨fun hservice => ⟨hservice, ?_⟩, And.left⟩
    by_contra hinstance
    have hnone := hpruned.card_keys_eq_zero_iff.mp hcard x.1.2 x.2
    refine hnone ((instancesHave_erase (x := (x.1.2, x.2))).mpr ⟨hinstance, ?_⟩)
    rw [← hservice]
    exact hhas
  · exact holds_insert_remove fun y => instancesHave_erase

/-- Erasing an instance leaves no empty part. -/
lemma PrunedServices.eraseInstance (h : PrunedServices services) :
    PrunedServices (eraseInstance services k) := by
  have hpruned : Pruned VersionsHave ((RequestTable.instancesOf services k.1).erase k.2) :=
    h.instancesOf.erase
  rw [RequestTable.eraseInstance]
  split_ifs with hcard
  · exact h.erase
  · refine h.insert hpruned ?_
    by_contra hnone
    exact hcard (hpruned.card_keys_eq_zero_iff.mpr fun i v hheld => hnone ⟨(i, v), hheld⟩)

/-- A removal, by whether the client has requested the instance. -/
lemma requestedServiceRemove_eq :
    requestedServiceRemove ownClient t client k =
      if k.2 ∈ instancesOf (servicesOf t client) k.1 then
        let services := eraseInstance (servicesOf t client) k
        if services.keys.card = 0 then (t.insert client services).erase ownClient
        else t.insert client services
      else t := by
  have hnone {service instance_ : UInt16} : instance_ ∉ instancesOf ∅ service := by
    rw [instancesOf, Finmap.lookup_empty]
    exact Finmap.notMem_empty
  rw [requestedServiceRemove, servicesOf]
  cases hclient : t.lookup client with
  | none => exact (if_neg hnone).symm
  | some services =>
    simp only [Option.getD_some, instancesOf]
    cases hservice : services.lookup k.1 with
    | none => exact (if_neg Finmap.notMem_empty).symm
    | some instances =>
      simp only [Option.getD_some, eraseInstance, instancesOf, hservice]
      refine if_congr Iff.rfl ?_ rfl
      split_ifs with hcard hservices hservices
      · rfl
      · rfl
      · rw [Finset.card_eq_zero, Finset.eq_empty_iff_forall_notMem] at hservices
        exact absurd (Finmap.mem_keys.mpr (Finmap.mem_insert.mpr (.inl rfl))) (hservices k.1)
      · rfl

/-- An instance is in the table exactly if a version of it is requested. -/
lemma PrunedTable.mem_iff (h : PrunedTable t) :
    k.2 ∈ RequestTable.instancesOf (RequestTable.servicesOf t client) k.1 ↔
      ∃ version, Has t (client, k, version) := by
  rw [h.servicesOf.instancesOf.mem_iff]
  refine exists_congr fun version => ?_
  exact (instancesHave_instancesOf (x := (k.2, version))).trans servicesHave_servicesOf

/-- A removal takes the last requests of a client. -/
def TakesLast (t : RequestTable) (client : UInt16) (k : InstanceKey) : Prop :=
  (∃ version, Has t (client, k, version)) ∧ ∀ k' version, Has t (client, k', version) → k' = k

/-- The map of services that is left of a client has no keys exactly if its last requests are taken. -/
lemma PrunedTable.card_keys_eq_zero_iff (h : PrunedTable t) (hhas : ∃ version, Has t (client, k, version)) :
    (RequestTable.eraseInstance (RequestTable.servicesOf t client) k).keys.card = 0 ↔
      TakesLast t client k := by
  rw [h.servicesOf.eraseInstance.card_keys_eq_zero_iff, TakesLast, and_iff_right hhas]
  constructor
  · intro hnone k' version hheld
    by_contra hk
    exact hnone (k', version) ((servicesHave_eraseInstance h.servicesOf).mpr
      ⟨hk, servicesHave_servicesOf.mpr hheld⟩)
  · intro hlast x hheld
    obtain ⟨hk, hheld⟩ := (servicesHave_eraseInstance h.servicesOf).mp hheld
    exact hk (hlast x.1 x.2 (servicesHave_servicesOf.mp hheld))

/-- **What is left after a removal**: the requests of the client for the instance are gone, and all
requests of the routing manager's own client if they were the last ones of the client. -/
lemma has_requestedServiceRemove (h : PrunedTable t) {x : Request} :
    Has (requestedServiceRemove ownClient t client k) x ↔
      (¬ (x.1 = client ∧ x.2.1 = k) ∧ Has t x) ∧ ¬ (x.1 = ownClient ∧ TakesLast t client k) := by
  have hinsert : Has (t.insert client (eraseInstance (servicesOf t client) k)) x ↔
      ¬ (x.1 = client ∧ x.2.1 = k) ∧ Has t x := by
    refine holds_insert_remove (R := fun y : InstanceKey × Version => y.1 = k) fun y => ?_
    exact (servicesHave_eraseInstance h.servicesOf).trans
      (and_congr_right fun _ => servicesHave_servicesOf)
  rw [requestedServiceRemove_eq]
  split_ifs with hmem
  · have hlast := h.card_keys_eq_zero_iff (h.mem_iff.mp hmem)
    dsimp only
    split_ifs with hcard
    · have herase : Has ((t.insert client (eraseInstance (servicesOf t client) k)).erase ownClient) x ↔
          x.1 ≠ ownClient ∧ _ := holds_erase
      rw [herase, and_comm, ← hinsert]
      exact and_congr_right fun _ => by simp [hlast.mp hcard]
    · have hown : ¬ (x.1 = ownClient ∧ TakesLast t client k) := fun hown => hcard (hlast.mpr hown.2)
      rw [hinsert, and_iff_left hown]
  · rw [h.mem_iff] at hmem
    have hown : ¬ (x.1 = ownClient ∧ TakesLast t client k) := fun hown => hmem hown.2.1
    rw [and_iff_left hown]
    refine (and_iff_right_of_imp ?_).symm
    rintro hhas ⟨rfl, rfl⟩
    exact hmem ⟨x.2.2, hhas⟩

/-- A release leaves no empty part. -/
lemma PrunedTable.requestedServiceRemove (h : PrunedTable t) :
    PrunedTable (requestedServiceRemove ownClient t client k) := by
  have hinsert : PrunedTable (t.insert client
      (RequestTable.eraseInstance (RequestTable.servicesOf t client) k)) :=
    Every.insert h h.servicesOf.eraseInstance
  rw [requestedServiceRemove_eq]
  split_ifs
  · dsimp only
    split_ifs
    · exact hinsert.erase
    · exact hinsert
  · exact h

/-! ## The set of requests -/

variable {cfg : RequestConfig} {r : ServiceRequests} {requests : Finset Request}

/-- An addition to the table is one to the set that it stands for. -/
lemma Represents.requestedServiceAdd (h : Represents t r.requestedServices) :
    Represents (requestedServiceAdd t client k version)
      (r.requestedServiceAdd client k version).requestedServices := by
  intro x
  rw [has_requestedServiceAdd, h x]
  exact Finset.mem_insert.symm

/-- The last requests of a client, by the set that the table stands for. -/
lemma Represents.takesLast_iff (h : Represents t requests) : TakesLast t client k ↔
    (∃ x ∈ requests, x.1 = client ∧ x.2.1 = k) ∧
      ∀ x ∈ requests, x.1 = client → x.2.1 = k := by
  constructor
  · rintro ⟨⟨version, hhas⟩, hlast⟩
    refine ⟨⟨(client, k, version), (h _).mp hhas, rfl, rfl⟩, ?_⟩
    rintro ⟨_, k', version'⟩ hx rfl
    exact hlast k' version' ((h _).mpr hx)
  · rintro ⟨⟨⟨_, _, version⟩, hx, rfl, rfl⟩, hlast⟩
    exact ⟨⟨version, (h _).mpr hx⟩, fun k' version' hhas => hlast _ ((h _).mp hhas) rfl⟩

/-- **The table follows the set** of the requests: a removal from the table is one from the set that it
stands for. -/
theorem Represents.requestedServiceRemove (h : Represents t r.requestedServices)
    (hpruned : PrunedTable t) :
    Represents (requestedServiceRemove cfg.client t client k)
      (r.requestedServiceRemove cfg client k).requestedServices := by
  intro x
  rw [has_requestedServiceRemove hpruned, h x, h.takesLast_iff, ServiceRequests.requestedServiceRemove]
  have hrest : (∃ x ∈ r.requestedServices.filter fun x => ¬ (x.1 = client ∧ x.2.1 = k), x.1 = client) ↔
      ¬ ∀ x ∈ r.requestedServices, x.1 = client → x.2.1 = k := by
    simp only [Finset.mem_filter, not_and, not_forall, exists_prop]
    exact exists_congr fun y => ⟨fun hy => ⟨hy.1.1, hy.2, hy.1.2 hy.2⟩,
      fun hy => ⟨⟨hy.1, fun _ => hy.2.2⟩, hy.2.1⟩⟩
  split_ifs with hsome hlast
  · rw [hrest] at hlast
    simp only [Finset.mem_filter, hlast, and_false, not_false_eq_true, and_true]
    exact and_comm
  · rw [hrest, not_not] at hlast
    simp only [Finset.mem_filter, hsome, and_iff_left hlast, and_true]
    exact and_congr_left fun _ => and_comm
  · simp only [hsome, false_and, and_false, not_false_eq_true, and_true]
    exact and_iff_right_of_imp fun hx heq => hsome ⟨x, hx, heq⟩

/-! ## Runs -/

/-- A call of one of the two operations. -/
inductive Call
  | add (client : UInt16) (k : InstanceKey) (version : Version)
  | remove (client : UInt16) (k : InstanceKey)

/-- The table after a call. -/
def callTable (ownClient : UInt16) (t : RequestTable) : Call → RequestTable
  | .add client k version => requestedServiceAdd t client k version
  | .remove client k => requestedServiceRemove ownClient t client k

/-- The requests that have been added and not removed since. -/
def callRequests (requests : Finset Request) : Call → Finset Request
  | .add client k version => insert (client, k, version) requests
  | .remove client k => requests.filter fun x => ¬ (x.1 = client ∧ x.2.1 = k)

/-- The table, with what was added and not removed since. -/
abbrev Tracked : Type := RequestTable × Finset Request

/-- A call, on the table and on the requests. -/
def call (ownClient : UInt16) (w : Tracked) (c : Call) : Tracked :=
  (callTable ownClient w.1 c, callRequests w.2 c)

/-- After the call the table stands for the requests, and a removal has left those of the other clients
alone. -/
def Exact (ownClient : UInt16) (w : Tracked) (c : Call) : Prop :=
  Represents (callTable ownClient w.1 c) (callRequests w.2 c) ∧
    ∀ client k, c = .remove client k → ∀ x : Request, x.1 ≠ client →
      (Has (callTable ownClient w.1 c) x ↔ Has w.1 x)

/-- If a removal takes the last requests of a client other than the routing manager's own, this one has
no requests. -/
def SparesOwn (ownClient : UInt16) (w : Tracked) : Call → Prop
  | .add .. => True
  | .remove client k => client ≠ ownClient → (∃ x ∈ w.2, x.1 = client ∧ x.2.1 = k) →
    (∀ x ∈ w.2, x.1 = client → x.2.1 = k) → ∀ x ∈ w.2, x.1 ≠ ownClient

/-- A call leaves no empty part. -/
lemma PrunedTable.callTable (h : PrunedTable t) (c : Call) : PrunedTable (callTable ownClient t c) := by
  cases c with
  | add client k version => exact h.requestedServiceAdd
  | remove client k => exact h.requestedServiceRemove

/-- A call is exact if and only if it spares the routing manager's own client. -/
lemma exact_iff {w : Tracked} {c : Call} (hpruned : PrunedTable w.1) (h : Represents w.1 w.2) :
    Exact ownClient w c ↔ SparesOwn ownClient w c := by
  cases c with
  | add client k version =>
    refine iff_of_true ⟨fun x => ?_, fun _ _ hc => nomatch hc⟩ trivial
    rw [callTable, has_requestedServiceAdd, h x]
    exact Finset.mem_insert.symm
  | remove client k =>
    have hhas (x : Request) : Has (callTable ownClient w.1 (.remove client k)) x ↔
        (¬ (x.1 = client ∧ x.2.1 = k) ∧ Has w.1 x) ∧ ¬ (x.1 = ownClient ∧ TakesLast w.1 client k) :=
      has_requestedServiceRemove hpruned
    constructor
    · rintro ⟨hrepresents, -⟩ hne hsome hlast x hx hown
      have hleft : x ∈ callRequests w.2 (.remove client k) :=
        Finset.mem_filter.mpr ⟨hx, fun heq => hne (heq.1.symm.trans hown)⟩
      rw [← hrepresents, hhas] at hleft
      exact hleft.2 ⟨hown, h.takesLast_iff.mpr ⟨hsome, hlast⟩⟩
    · intro hspares
      have hkeeps {x : Request} (hx : Has w.1 x) (hother : ¬ (x.1 = client ∧ x.2.1 = k)) :
          ¬ (x.1 = ownClient ∧ TakesLast w.1 client k) := by
        rintro ⟨hown, htakes⟩
        obtain ⟨hsome, hlast⟩ := h.takesLast_iff.mp htakes
        by_cases hclient : client = ownClient
        · have heq : x.1 = client := hown.trans hclient.symm
          exact hother ⟨heq, hlast x ((h x).mp hx) heq⟩
        · exact hspares hclient hsome hlast x ((h x).mp hx) hown
      refine ⟨fun x => ?_, ?_⟩
      · rw [hhas, callRequests, Finset.mem_filter, ← h x, and_comm (a := Has w.1 x)]
        exact and_iff_left_of_imp fun hx => hkeeps hx.2 hx.1
      · rintro _ _ ⟨⟩ x hne
        have hother : ¬ (x.1 = client ∧ x.2.1 = k) := fun heq => hne heq.1
        rw [hhas, and_iff_right hother]
        exact and_iff_left_of_imp fun hx => hkeeps hx hother

/-- **The table of requests is exact along a run** if and only if no removal takes the last requests of
a client other than the routing manager's own while this one has requests. -/
theorem exact_table_along_iff (ownClient : UInt16) (calls : List Call) :
    Runs.Along (call ownClient) (Exact ownClient) (∅, ∅) calls ↔
      Runs.Along (call ownClient) (SparesOwn ownClient) (∅, ∅) calls := by
  have hinit : PrunedTable ∅ ∧ Represents ∅ ∅ :=
    ⟨every_empty, fun x => iff_of_false not_holds_empty (Finset.notMem_empty x)⟩
  refine @Runs.along_iff _ _ (call ownClient) (fun w => PrunedTable w.1 ∧ Represents w.1 w.2)
    (fun _ _ => True) (SparesOwn ownClient) (Exact ownClient) (fun hw _ hspares => ?_)
    (fun hw _ hnot hexact => hnot ((exact_iff hw.1 hw.2).mp hexact)) _ _ hinit
    (Runs.along_of_forall (P := fun _ => True) fun _ _ => trivial)
  have hexact := (exact_iff hw.1 hw.2).mpr hspares
  exact ⟨⟨hw.1.callTable _, hexact.1⟩, hexact⟩

/-- **A removal that takes the requests of another client**: the last request of the client 0x101 is
removed, and that of the routing manager's own client is gone. -/
theorem not_exact_along_own : ¬ ∀ (ownClient : UInt16) (calls : List Call),
    Runs.Along (call ownClient) (Exact ownClient) (∅, ∅) calls := by
  intro h
  obtain ⟨-, -, hexact, -⟩ := h 0x100
    [.add 0x100 (1, 1) ⟨1, 0⟩, .add 0x101 (2, 1) ⟨1, 0⟩, .remove 0x101 (2, 1)]
  obtain ⟨services, hservices, -⟩ := (hexact.1 (0x100, (1, 1), ⟨1, 0⟩)).mpr (by decide)
  have hnone : ((requestedServiceRemove 0x100 (requestedServiceAdd (requestedServiceAdd ∅ 0x100 (1, 1)
      ⟨1, 0⟩) 0x101 (2, 1) ⟨1, 0⟩) 0x101 (2, 1)).lookup 0x100).isNone := by decide
  rw [Option.isNone_iff_eq_none] at hnone
  exact absurd (hnone.symm.trans hservices) (by simp)

end RequestTable

end Vsomeip
