import Mathlib.Data.List.Basic
import Mathlib.Data.List.Nodup
import Vsomeip.Lib.Runs
import Vsomeip.Routing.RoutingInfo

set_option relaxedAutoImplicit false
set_option autoImplicit false

/-!
# What the requesters know of the offered instances

A proxy that has requested a service instance should have it in its `local_services_` exactly while
it is offered, with its hosting client and its version, whether the request or the offer came first.
It does not in general: `handle_requests` answers a request for any instance with the instances of
one hosting client only.

## Main definitions

* `Vsomeip.RoutingManagerStub.Exact` — every registered proxy knows exactly the offered instances
  among those that it has requested.
* `Vsomeip.RoutingManagerStub.Answerable` — the events that keep the tables of the proxies exact.

## Main results

* `Vsomeip.RoutingManagerStub.exact_of_answerable` — in every run of such events the tables of all
  proxies are exact.
* `Vsomeip.RoutingManagerStub.not_exact_any` — two clients host instances of a service when a third
  one requests any of them.
-/

namespace Vsomeip

open Std (TreeMap)

namespace LocalServices

variable (own client service instance_ : UInt16) (version : Version) (t : LocalServices)

/-- The entry of a new client offers nothing. -/
@[simp] lemma onEntry_addClient : t.onEntry own (.addClient client) = t := rfl

/-- The entry of a new service enters it into the table. -/
@[simp] lemma onEntry_addService :
    t.onEntry own (.addService client service instance_ version) =
      t.set service instance_ (some (version, client)) := rfl

/-- The entry of a service that is gone takes it out of the table. -/
@[simp] lemma onEntry_delService :
    t.onEntry own (.delService client service instance_ version) = t.set service instance_ none := rfl

variable {own client} in
/-- The entry of a client that is gone takes its services out of the table. -/
lemma onEntry_delClient (hown : client ≠ own) (h : client ≠ routingClient) :
    t.onEntry own (.delClient client) = t.removeLocal client := by
  simp [onEntry, RoutingInfoEntry.delClient, hown, h]

variable {own client t} in
/-- What is left after the services of a client are taken out. -/
lemma removeLocal_eq_some_iff {s i : UInt16} {x : Version × UInt16} :
    t.removeLocal client s i = some x ↔ t s i = some x ∧ x.2 ≠ client := by
  simp [removeLocal, Option.filter_eq_some_iff]

/-- An entry of a new service determines its client, service, instance and version. -/
lemma addService_inj {c c' s s' i i' : UInt16} {v v' : Version}
    (h : RoutingInfoEntry.addService c s i v = .addService c' s' i' v') :
    c = c' ∧ s = s' ∧ i = i' ∧ v = v' := by
  simp only [RoutingInfoEntry.addService, RoutingInfoEntry.mk.injEq, List.cons.injEq,
    ServiceInstance.mk.injEq] at h
  obtain ⟨-, hclient, ⟨hservice, hinstance, hmajor, hminor⟩, -⟩ := h
  exact ⟨hclient, hservice, hinstance, Version.ext hmajor hminor⟩

/-- The table after added instances, if these and the ones of the table before are true of a relation
that has at most one version and one client for an instance. -/
lemma onRoutingInfo_eq_some_iff {own : UInt16} {R : UInt16 → UInt16 → Version × UInt16 → Prop}
    (hR : ∀ s i x y, R s i x → R s i y → x = y) :
    ∀ {l : List RoutingInfoEntry} {t : LocalServices}, (∀ s i x, t s i = some x → R s i x) →
      (∀ e ∈ l, ∃ s i x, e = .addService x.2 s i x.1 ∧ R s i x) →
      ∀ {s i : UInt16} {x : Version × UInt16}, t.onRoutingInfo own l s i = some x ↔
        t s i = some x ∨ .addService x.2 s i x.1 ∈ l
  | [], t, _, _, s, i, x => by simp [onRoutingInfo]
  | e :: l, t, ht, hl, s, i, x => by
    obtain ⟨⟨service, instance_, y, rfl, hy⟩, hrest⟩ := List.forall_mem_cons.mp hl
    have ht' (s' i' : UInt16) (z : Version × UInt16)
        (h : t.set service instance_ (some y) s' i' = some z) : R s' i' z := by
      rw [set] at h
      split at h
      · rename_i heq
        cases h
        rw [heq.1, heq.2]
        exact hy
      · exact ht s' i' z h
    have hset : t.set service instance_ (some y) s i = some x ↔
        t s i = some x ∨ RoutingInfoEntry.addService x.2 s i x.1 =
          .addService y.2 service instance_ y.1 := by
      rw [set]
      split
      · rename_i heq
        obtain ⟨rfl, rfl⟩ := heq
        constructor
        · rintro ⟨⟩
          exact .inr rfl
        · rintro (h | h)
          · rw [hR s i x y (ht s i x h) hy]
          · rw [Prod.ext (addService_inj h).2.2.2 (addService_inj h).1]
      · rename_i hne
        rw [or_iff_left fun h => hne ⟨(addService_inj h).2.1, (addService_inj h).2.2.1⟩]
    rw [List.mem_cons, ← or_assoc, ← hset]
    exact onRoutingInfo_eq_some_iff hR ht' hrest

end LocalServices

namespace RoutingManagerStub

variable {host : StubHost} {s s' s'' : RoutingManagerStub}

/-! ## Versions -/

/-- The version of an offer, read from the nested map. -/
lemma version_eq (client service instance_ : UInt16) :
    s.version client service instance_ =
      ((s.routingInfo.getD client ∅).getD service ∅)[instance_]? := by
  rw [version, TreeMap.getD_eq_getD_getElem?, TreeMap.getD_eq_getD_getElem?]
  cases s.routingInfo[client]? with
  | none => simp
  | some offers => cases h : offers[service]? <;> simp [h]

/-- The versions depend on the routing info only. -/
lemma version_congr (h : s'.routingInfo = s.routingInfo) : s'.version = s.version := by
  funext client service instance_
  rw [version, version, h]

/-- The versions after one is entered. -/
lemma version_setVersion (client service instance_ : UInt16) (version : Version)
    (c svc i : UInt16) :
    (s.setVersion client service instance_ version).version c svc i =
      if c = client ∧ svc = service ∧ i = instance_ then some version else s.version c svc i := by
  rw [version_eq, version_eq, setVersion, TreeMap.getD_insert]
  by_cases hc : c = client
  · subst hc
    by_cases hs : svc = service
    · subst hs
      by_cases hi : i = instance_
      · subst hi
        simp
      · simp [TreeMap.getElem?_insert, hi, Ne.symm hi]
    · simp [TreeMap.getD_insert, hs, Ne.symm hs]
  · simp [hc, Ne.symm hc]

/-- The instances of a service are replaced, and the service is erased if there are none. -/
lemma getElem?_replace (offers : Offers) (service : UInt16) (instances : TreeMap UInt16 Version)
    (svc i : UInt16) :
    ((if instances.isEmpty then offers.erase service else offers.insert service instances).getD svc
      ∅)[i]? = if svc = service then instances[i]? else (offers.getD svc ∅)[i]? := by
  by_cases hs : svc = service
  · subst hs
    split
    · rename_i hempty
      simp [TreeMap.getElem?_of_isEmpty hempty]
    · simp
  · split
    · simp [TreeMap.getD_erase, Ne.symm hs]
    · simp [TreeMap.getD_insert, Ne.symm hs]

/-- The versions after one is erased. -/
lemma version_eraseVersion (client service instance_ c svc i : UInt16) :
    (s.eraseVersion client service instance_).version c svc i =
      if c = client ∧ svc = service ∧ i = instance_ then none else s.version c svc i := by
  rw [version_eq, version_eq, eraseVersion, TreeMap.getD_insert]
  by_cases hc : c = client
  · subst hc
    rw [if_pos Std.ReflCmp.compare_self, getElem?_replace]
    by_cases hs : svc = service
    · subst hs
      by_cases hi : i = instance_
      · subst hi
        simp
      · simp [TreeMap.getElem?_erase, hi, Ne.symm hi]
    · simp [hs]
  · simp [hc, Ne.symm hc]

/-- A service in `routing_info_` has an instance. -/
def NoEmptyService (s : RoutingManagerStub) : Prop :=
  ∀ ⦃client service : UInt16⦄ ⦃offers : Offers⦄ ⦃instances : TreeMap UInt16 Version⦄,
    s.routingInfo[client]? = some offers → offers[service]? = some instances →
      ∃ instance_, (s.version client service instance_).isSome

/-- No service without instances after the offers of a client are replaced by such ones. -/
lemma NoEmptyService.of_insert {client : UInt16} {offers : Offers} (hs : s.NoEmptyService)
    (hinfo : s'.routingInfo = s.routingInfo.insert client offers)
    (hoffers : ∀ {service instances}, offers[service]? = some instances →
      ∃ instance_, (s'.version client service instance_).isSome) : s'.NoEmptyService := by
  intro c service offers' instances hc hservice
  rw [hinfo, TreeMap.getElem?_insert] at hc
  split at hc
  · rename_i hcompare
    obtain rfl := Std.LawfulEqCmp.compare_eq_iff_eq.mp hcompare
    cases hc
    exact hoffers hservice
  · rename_i hcompare
    obtain ⟨i, hi⟩ := hs hc hservice
    refine ⟨i, ?_⟩
    rw [version, hinfo, TreeMap.getElem?_insert, if_neg hcompare]
    rwa [version] at hi

/-- A service that is listed for a client has an instance with a version. -/
lemma NoEmptyService.getD (hs : s.NoEmptyService) {client service : UInt16}
    {instances : TreeMap UInt16 Version}
    (h : (s.routingInfo.getD client ∅)[service]? = some instances) :
    ∃ instance_, (s.version client service instance_).isSome := by
  rw [TreeMap.getD_eq_getD_getElem?] at h
  cases hc : s.routingInfo[client]? with
  | none => simp [hc] at h
  | some offers => exact hs hc (by simpa [hc] using h)

/-- Entering a version makes no service without instances. -/
lemma NoEmptyService.setVersion (hs : s.NoEmptyService) (client service instance_ : UInt16)
    (version : Version) : (s.setVersion client service instance_ version).NoEmptyService := by
  refine hs.of_insert rfl fun {svc instances} h => ?_
  rw [TreeMap.getElem?_insert] at h
  split at h
  · rename_i hcompare
    obtain rfl := Std.LawfulEqCmp.compare_eq_iff_eq.mp hcompare
    exact ⟨instance_, by simp [version_setVersion]⟩
  · obtain ⟨i, hi⟩ := hs.getD h
    refine ⟨i, ?_⟩
    rw [version_setVersion]
    split
    · rfl
    · exact hi

/-- Erasing a version leaves no service without instances. -/
lemma NoEmptyService.eraseVersion (hs : s.NoEmptyService) (client service instance_ : UInt16) :
    (s.eraseVersion client service instance_).NoEmptyService := by
  refine hs.of_insert rfl fun {svc instances} h => ?_
  have hother {m : TreeMap UInt16 Version} (hsvc : svc ≠ service)
      (h : (s.routingInfo.getD client ∅)[svc]? = some m) :
      ∃ i, ((s.eraseVersion client service instance_).version client svc i).isSome := by
    obtain ⟨i, hi⟩ := hs.getD h
    exact ⟨i, by rwa [version_eraseVersion, if_neg (by simp [hsvc])]⟩
  split at h
  · rw [TreeMap.getElem?_erase] at h
    split at h
    · cases h
    · rename_i hcompare
      exact hother (fun heq => hcompare (Std.LawfulEqCmp.compare_eq_iff_eq.mpr heq.symm)) h
  · rename_i hempty
    rw [TreeMap.getElem?_insert] at h
    split at h
    · rename_i hcompare
      obtain rfl := Std.LawfulEqCmp.compare_eq_iff_eq.mp hcompare
      rw [Bool.not_eq_true, TreeMap.isEmpty_eq_false_iff_exists_mem] at hempty
      obtain ⟨i, hi⟩ := hempty
      refine ⟨i, ?_⟩
      rw [version_eraseVersion]
      rw [TreeMap.mem_iff_isSome_getElem?, TreeMap.getElem?_erase] at hi
      split at hi
      · cases hi
      · rename_i hi'
        rw [if_neg fun hand => hi' (Std.LawfulEqCmp.compare_eq_iff_eq.mpr hand.2.2.symm), version_eq]
        exact hi
    · rename_i hcompare
      exact hother (fun heq => hcompare (Std.LawfulEqCmp.compare_eq_iff_eq.mpr heq.symm)) h

/-! ## Commands -/

/-- From a state to a later one nothing has changed but that commands were sent and that more clients
know of each other. -/
structure Grows (s s' : RoutingManagerStub) : Prop where
  routingInfo : s'.routingInfo = s.routingInfo
  serviceRequests : s'.serviceRequests = s.serviceRequests
  localEndpoints : s'.localEndpoints = s.localEndpoints
  connected : ∀ {x y : UInt16}, x ∈ s.connectionMatrix y → x ∈ s'.connectionMatrix y

/-- A state grows into itself. -/
lemma Grows.refl (s : RoutingManagerStub) : Grows s s :=
  ⟨rfl, rfl, rfl, id⟩

/-- Growth is transitive. -/
lemma Grows.trans (h : Grows s s') (h' : Grows s' s'') : Grows s s'' :=
  ⟨h'.routingInfo.trans h.routingInfo, h'.serviceRequests.trans h.serviceRequests,
    h'.localEndpoints.trans h.localEndpoints, fun hx => h'.connected (h.connected hx)⟩

/-- Growth keeps the versions. -/
lemma Grows.version (h : Grows s s') : s'.version = s.version :=
  version_congr h.routingInfo

/-- Growth keeps the requests. -/
lemma Grows.requestsOf (h : Grows s s') : s'.requestsOf = s.requestsOf := by
  funext client
  rw [RoutingManagerStub.requestsOf, RoutingManagerStub.requestsOf, h.serviceRequests]

/-- The connections after an entry is put into the routing info of a client. -/
lemma mem_connectionMatrix_insert {target x y : UInt16} {entries : List RoutingInfoEntry}
    (h : s.clientRoutingInfo target = some entries) (entry : RoutingInfoEntry) :
    x ∈ (s.insertClientRoutingInfo target entry).connectionMatrix y ↔
      x ∈ s.connectionMatrix y ∨ y = target ∧ x = entry.client := by
  rw [insertClientRoutingInfo, h]
  by_cases hy : y = target
  · subst hy
    simp [or_comm]
  · simp [hy]

/-- The tables of the clients depend on what they were sent only. -/
lemma localServices_congr (h : s'.sent = s.sent) : s'.localServices = s.localServices := by
  funext client
  rw [localServices, localServices, h]

/-- An entry that is put into a routing info is not sent yet. -/
lemma localServices_insert (target : UInt16) (entry : RoutingInfoEntry) :
    (s.insertClientRoutingInfo target entry).localServices = s.localServices := by
  refine localServices_congr ?_
  rw [insertClientRoutingInfo]
  split <;> rfl

/-- Putting in an entry is growth. -/
lemma grows_insert (target : UInt16) (entry : RoutingInfoEntry) :
    Grows s (s.insertClientRoutingInfo target entry) := by
  cases h : s.clientRoutingInfo target with
  | none =>
    rw [insertClientRoutingInfo, h]
    exact .refl s
  | some entries =>
    have hconnected {x y : UInt16} (hx : x ∈ s.connectionMatrix y) :=
      (mem_connectionMatrix_insert h entry).mpr (.inl hx)
    rw [insertClientRoutingInfo, h] at hconnected ⊢
    exact ⟨rfl, rfl, rfl, hconnected⟩

/-- Sending the routing info is growth. -/
lemma grows_send (host : StubHost) (target : UInt16) :
    Grows s (s.sendClientRoutingInfo host target) := by
  rw [sendClientRoutingInfo]
  split
  · exact .refl s
  · split
    · exact ⟨rfl, rfl, rfl, id⟩
    · exact .refl s

/-- What a client that is sent a command makes of it. -/
lemma localServices_send {target : UInt16} {entries : List RoutingInfoEntry}
    (h : s.clientRoutingInfo target = some entries)
    (hsize : RoutingInfoEntry.commandSize entries ≤ host.maxLocalMessageSize) (c : UInt16) :
    (s.sendClientRoutingInfo host target).localServices c =
      if c = target ∧ s.localEndpoints target then
        (s.localServices c).onRoutingInfo c entries
      else s.localServices c := by
  rw [sendClientRoutingInfo, h]
  cases hend : s.localEndpoints target with
  | false => simp
  | true =>
    by_cases hc : c = target
    · subst hc
      simp [localServices, hsize, List.foldl_append]
    · simp [localServices, hsize, hc]

variable {target : UInt16} {entry : RoutingInfoEntry}

/-- Telling a client is growth. -/
lemma grows_tell (host : StubHost) (s : RoutingManagerStub) (target : UInt16)
    (entry : RoutingInfoEntry) : Grows s (s.tell host target entry) := by
  have hcreate : Grows s (s.createClientRoutingInfo target) := ⟨rfl, rfl, rfl, id⟩
  exact (hcreate.trans (grows_insert target entry)).trans (grows_send host target)

/-- The table of a client after a command with one entry. -/
lemma localServices_tell (hentry : entry.services.length ≤ 1) (c : UInt16) :
    (s.tell host target entry).localServices c =
      if c = target ∧ s.localEndpoints target then (s.localServices c).onEntry c entry
      else s.localServices c := by
  have hsize : RoutingInfoEntry.commandSize [entry] ≤ host.maxLocalMessageSize := by
    have := host.sendsEntry
    simp only [RoutingInfoEntry.commandSize, RoutingInfoEntry.size, List.map_cons, List.map_nil,
      List.sum_cons, List.sum_nil]
    omega
  have hbuffer : ((s.createClientRoutingInfo target).insertClientRoutingInfo target
      entry).clientRoutingInfo target = some [entry] := by
    simp [createClientRoutingInfo, insertClientRoutingInfo]
  rw [tell, localServices_send hbuffer hsize, localServices_insert,
    (grows_insert target entry).localEndpoints]
  rfl

/-- A client that is told of another one is connected to it. -/
lemma mem_connectionMatrix_tell :
    entry.client ∈ (s.tell host target entry).connectionMatrix target := by
  have hbuffer : (s.createClientRoutingInfo target).clientRoutingInfo target = some [] := by
    simp [createClientRoutingInfo]
  exact (grows_send host target).connected
    ((mem_connectionMatrix_insert hbuffer entry).mpr (.inr ⟨rfl, rfl⟩))

/-- Telling a client changes no other client's routing info. -/
lemma clientRoutingInfo_tell_of_ne {c : UInt16} (h : c ≠ target) :
    (s.tell host target entry).clientRoutingInfo c = s.clientRoutingInfo c := by
  rw [tell, sendClientRoutingInfo]
  simp only [createClientRoutingInfo, insertClientRoutingInfo, Function.update_self]
  split
  · simp [h]
  · simp [h]

/-! ## Offers -/

section Inform

variable {hoster service instance_ : UInt16} {informService : Bool}

/-- Informing a requester is growth. -/
lemma grows_informRequester (r : UInt16 × List (UInt16 × UInt16)) :
    Grows s (informRequester host hoster service instance_ entry informService s r) := by
  rw [informRequester]
  split
  · dsimp only
    split
    · split
      · exact (grows_tell host _ _ _).trans (grows_tell host _ _ _)
      · exact grows_tell host _ _ _
    · split
      · exact grows_tell host _ _ _
      · exact .refl s
  · exact .refl s

/-- Informing some requesters is growth. -/
lemma grows_foldl_informRequester (l : List (UInt16 × List (UInt16 × UInt16))) :
    Grows s (l.foldl (informRequester host hoster service instance_ entry informService) s) := by
  induction l generalizing s with
  | nil => exact .refl s
  | cons r l ih => exact (grows_informRequester r).trans ih

/-- Informing all requesters is growth. -/
lemma grows_informRequesters :
    Grows s (s.informRequesters host hoster service instance_ entry informService) :=
  grows_foldl_informRequester _

/-- The tables after one requester is informed: its own changes if it is a connected proxy that has
requested the service. -/
lemma localServices_informRequester (hentry : entry.services.length ≤ 1)
    (r : UInt16 × List (UInt16 × UInt16)) (c : UInt16) :
    (informRequester host hoster service instance_ entry informService s r).localServices c =
      if c = r.1 ∧ IsProxy host c ∧ s.localEndpoints c ∧ anyMatches r.2 service instance_ then
        (s.localServices c).onEntry c entry
      else s.localServices c := by
  have hclient (c : UInt16) :
      (s.tell host hoster (.addClient r.1)).localServices c = s.localServices c := by
    have hnone : (RoutingInfoEntry.addClient r.1).services.length ≤ 1 := Nat.zero_le 1
    rw [localServices_tell hnone]
    split <;> rfl
  have hends := (grows_tell host s hoster (.addClient r.1)).localEndpoints
  rw [informRequester]
  by_cases hmatch : anyMatches r.2 service instance_
  · by_cases hproxy : IsProxy host r.1
    · simp only [hmatch, if_true, hproxy, and_true]
      split
      · rw [localServices_tell hentry, hclient, hends]
        by_cases hc : c = r.1
        · subst hc
          simp [hproxy]
        · simp [hc]
      · rw [localServices_tell hentry]
        by_cases hc : c = r.1
        · subst hc
          simp [hproxy]
        · simp [hc]
    · have hother : ¬ (c = r.1 ∧ IsProxy host c ∧ s.localEndpoints c ∧
          anyMatches r.2 service instance_) := by
        rintro ⟨hc, hcproxy, -⟩
        exact hproxy (hc ▸ hcproxy)
      rw [if_neg hother]
      simp only [hmatch, if_true, hproxy, if_false]
      split
      · exact hclient c
      · rfl
  · simp [hmatch]

/-- The table of a client after the loop over the requesters, which are distinct. -/
lemma localServices_foldl_informRequester (hentry : entry.services.length ≤ 1) (c : UInt16) :
    ∀ {l : List (UInt16 × List (UInt16 × UInt16))} {s : RoutingManagerStub},
      l.Pairwise (fun x y => x.1 ≠ y.1) →
      (l.foldl (informRequester host hoster service instance_ entry informService) s).localServices
          c =
        if IsProxy host c ∧ s.localEndpoints c ∧
            ∃ r ∈ l, r.1 = c ∧ anyMatches r.2 service instance_ then
          (s.localServices c).onEntry c entry
        else s.localServices c
  | [], _, _ => by simp
  | r :: l, s, h => by
    obtain ⟨hr, hl⟩ := List.pairwise_cons.mp h
    rw [List.foldl_cons, localServices_foldl_informRequester hentry c hl,
      localServices_informRequester hentry, (grows_informRequester r).localEndpoints]
    by_cases hc : c = r.1
    · subst hc
      have hnot : ¬ ∃ x ∈ l, x.1 = r.1 ∧ anyMatches x.2 service instance_ :=
        fun ⟨x, hmem, heq, _⟩ => hr x hmem heq.symm
      rw [if_neg (fun hand => hnot hand.2.2)]
      simp only [List.exists_mem_cons_iff, hnot, or_false, true_and]
    · simp only [List.exists_mem_cons_iff, hc, Ne.symm hc, false_and, false_or, if_false]

/-- A client has requested a service instance. -/
def Requested (s : RoutingManagerStub) (client service instance_ : UInt16) : Prop :=
  anyMatches (s.requestsOf client) service instance_

instance (client service instance_ : UInt16) : Decidable (s.Requested client service instance_) :=
  inferInstanceAs (Decidable (_ = true))

/-- Whether a service is requested depends on the requests of the client only. -/
lemma requested_congr {client service instance_ : UInt16}
    (h : s'.requestsOf client = s.requestsOf client) :
    s'.Requested client service instance_ ↔ s.Requested client service instance_ := by
  rw [Requested, h, Requested]

/-- A service is requested if the list of requests has a match for it. -/
lemma requested_iff_exists {client service instance_ : UInt16} :
    s.Requested client service instance_ ↔
      ∃ r ∈ s.serviceRequests.toList, r.1 = client ∧ anyMatches r.2 service instance_ := by
  have hmem : (∃ r ∈ s.serviceRequests.toList, r.1 = client ∧ anyMatches r.2 service instance_) ↔
      ∃ requests, s.serviceRequests[client]? = some requests ∧
        anyMatches requests service instance_ := by
    constructor
    · rintro ⟨⟨c, requests⟩, hmem, rfl, hmatch⟩
      exact ⟨requests, TreeMap.mem_toList_iff_getElem?_eq_some.mp hmem, hmatch⟩
    · rintro ⟨requests, hget, hmatch⟩
      exact ⟨(client, requests), TreeMap.mem_toList_iff_getElem?_eq_some.mpr hget, rfl, hmatch⟩
  rw [hmem, Requested, requestsOf, TreeMap.getD_eq_getD_getElem?]
  cases s.serviceRequests[client]? with
  | none => simp [anyMatches]
  | some requests => simp

/-- The table of a client after `inform_requesters`. -/
lemma localServices_informRequesters (hentry : entry.services.length ≤ 1) {c : UInt16}
    (hproxy : IsProxy host c) (hend : s.localEndpoints c) :
    (s.informRequesters host hoster service instance_ entry informService).localServices c =
      if s.Requested c service instance_ then (s.localServices c).onEntry c entry
      else s.localServices c := by
  have hdistinct : s.serviceRequests.toList.Pairwise fun x y => x.1 ≠ y.1 :=
    TreeMap.distinct_keys_toList.imp fun hne heq =>
      hne (Std.LawfulEqCmp.compare_eq_iff_eq.mpr heq)
  rw [informRequesters, localServices_foldl_informRequester hentry c hdistinct]
  simp [hproxy, hend, requested_iff_exists]

/-- The requesters are connected to a client that has informed them of an offer. -/
lemma connected_informRequesters (hhoster : IsProxy host hoster) {c : UInt16}
    (hrequested : s.Requested c service instance_) :
    c ∈ (s.informRequesters host hoster service instance_ entry true).connectionMatrix hoster := by
  obtain ⟨⟨c, requests⟩, hmem, rfl, hmatch⟩ := requested_iff_exists.mp hrequested
  obtain ⟨l, l', hl⟩ := List.append_of_mem hmem
  rw [informRequesters, hl, List.foldl_append, List.foldl_cons]
  generalize l.foldl _ s = s'
  refine (grows_foldl_informRequester l').connected ?_
  rw [informRequester]
  simp only [hmatch, hhoster, true_and, if_true]
  have hconnected : c ∈ (if ¬ s'.isAlreadyConnected hoster c = true then
      s'.tell host hoster (.addClient c) else s').connectionMatrix hoster := by
    split
    · exact mem_connectionMatrix_tell
    · rename_i h
      simpa [isAlreadyConnected] using h
  split
  · exact (grows_tell host _ c entry).connected hconnected
  · exact hconnected

end Inform

/-! ## Requests -/

section Host

variable {client service instance_ : UInt16} {instances : List (UInt16 × Version)} {v : Version}

/-- What is found is offered, and answers the request. -/
lemma findHost_spec (h : s.findHost service instance_ = some (client, instances)) {i : UInt16}
    (hi : (i, v) ∈ instances) :
    s.version client service i = some v ∧ (instance_ = anyInstance ∨ i = instance_) := by
  obtain ⟨⟨c, offers⟩, hmem, hfound⟩ := List.exists_of_findSome?_eq_some h
  rw [TreeMap.mem_toList_iff_getElem?_eq_some] at hmem
  cases hservice : offers[service]? with
  | none => simp [hservice] at hfound
  | some m =>
    simp only [hservice, Option.bind_eq_bind, Option.bind_some] at hfound
    split at hfound
    · rename_i hany
      cases hfound
      rw [TreeMap.mem_toList_iff_getElem?_eq_some] at hi
      exact ⟨by simp [version, hmem, hservice, hi], .inl hany⟩
    · cases hinstance : m[instance_]? with
      | none => simp [hinstance] at hfound
      | some found =>
        simp only [hinstance, Option.bind_some, Option.some.injEq, Prod.mk.injEq] at hfound
        obtain ⟨rfl, rfl⟩ := hfound
        obtain ⟨rfl, rfl⟩ := Prod.mk.inj (List.mem_singleton.mp hi)
        exact ⟨by simp [version, hmem, hservice, hinstance], .inr rfl⟩

/-- An offered instance is found, if no other client offers it. -/
lemma findHost_of_unique (hinstance : instance_ ≠ anyInstance)
    (h : s.version client service instance_ = some v)
    (hunique : ∀ {c v'}, s.version c service instance_ = some v' → c = client) :
    s.findHost service instance_ = some (client, [(instance_, v)]) := by
  have hsome : (s.findHost service instance_).isSome := by
    rw [findHost, List.findSome?_isSome_iff]
    rw [version] at h
    cases hclient : s.routingInfo[client]? with
    | none => simp [hclient] at h
    | some offers =>
      cases hservice : offers[service]? with
      | none => simp [hclient, hservice] at h
      | some m =>
        refine ⟨(client, offers), TreeMap.mem_toList_iff_getElem?_eq_some.mpr hclient, ?_⟩
        have hm : m[instance_]? = some v := by simpa [hclient, hservice] using h
        simp [hservice, hinstance, hm]
  obtain ⟨⟨c, instances⟩, hfound⟩ := Option.isSome_iff_exists.mp hsome
  have hlist : ∃ v', instances = [(instance_, v')] := by
    obtain ⟨⟨c', offers⟩, -, hone⟩ := List.exists_of_findSome?_eq_some hfound
    simp only [Option.bind_eq_bind, if_neg hinstance, Option.bind_eq_some_iff, Option.some.injEq,
      Prod.mk.injEq] at hone
    obtain ⟨-, -, v', -, -, rfl⟩ := hone
    exact ⟨v', rfl⟩
  obtain ⟨v', rfl⟩ := hlist
  have hversion := (findHost_spec hfound List.mem_cons_self).1
  obtain rfl := hunique hversion
  rw [hfound, Option.some.inj (hversion.symm.trans h)]

/-- For any instance the client with the least identifier is found, with all of its instances. -/
lemma findHost_any_of_least (hs : s.NoEmptyService) (h : s.version client service instance_ = some v)
    (hleast : ∀ {c i v'}, s.version c service i = some v' → client ≤ c) :
    ∃ instances, s.findHost service anyInstance = some (client, instances) ∧
      (instance_, v) ∈ instances := by
  rw [version] at h
  cases hclient : s.routingInfo[client]? with
  | none => simp [hclient] at h
  | some offers =>
    cases hservice : offers[service]? with
    | none => simp [hclient, hservice] at h
    | some m =>
      have hm : m[instance_]? = some v := by simpa [hclient, hservice] using h
      have hmem : (client, offers) ∈ s.routingInfo.toList :=
        TreeMap.mem_toList_iff_getElem?_eq_some.mpr hclient
      refine ⟨m.toList, ?_, TreeMap.mem_toList_iff_getElem?_eq_some.mpr hm⟩
      obtain ⟨l, l', hl⟩ := List.append_of_mem hmem
      rw [findHost, hl, List.findSome?_append, List.findSome?_eq_none_iff.mpr]
      · simp [hservice]
      · rintro ⟨c, offers'⟩ hc
        cases hservice' : offers'[service]? with
        | none => simp [hservice']
        | some m' =>
          have hmem' : (c, offers') ∈ s.routingInfo.toList := hl ▸ List.mem_append_left _ hc
          obtain ⟨i, hi⟩ := hs (TreeMap.mem_toList_iff_getElem?_eq_some.mp hmem') hservice'
          obtain ⟨v', hv'⟩ := Option.isSome_iff_exists.mp hi
          have hlt : compare c client = .lt := by
            have hpair := s.routingInfo.ordered_keys_toList
            rw [hl, List.pairwise_append] at hpair
            exact hpair.2.2 _ hc _ List.mem_cons_self
          exact absurd (hleast hv') (UInt16.not_le.mpr (Std.compare_eq_lt.mp hlt))

end Host

section Requests

variable {client : UInt16} {requests : List (UInt16 × UInt16)} {request : UInt16 × UInt16}
variable {x : RoutingManagerStub × Bool} {acc : List RoutingInfoEntry}

/-- The entries that answer a request. -/
def answer (s : RoutingManagerStub) (request : UInt16 × UInt16) : List RoutingInfoEntry :=
  match s.findHost request.1 request.2 with
  | none => []
  | some (found, instances) => instances.map fun i => .addService found request.1 i.1 i.2

/-- The host that is found for a request depends on the routing info only. -/
lemma findHost_congr (h : s'.routingInfo = s.routingInfo) : s'.findHost = s.findHost := by
  funext service instance_
  rw [findHost, findHost, h]

/-- The answer to a request depends on the routing info only. -/
lemma answer_congr (h : s'.routingInfo = s.routingInfo) : s'.answer = s.answer := by
  funext request
  rw [answer, answer, findHost_congr h]

/-- The entries of an answer: the instances of the host that is found. -/
lemma mem_answer_iff {e : RoutingInfoEntry} :
    e ∈ s.answer request ↔ ∃ found instances i v, s.findHost request.1 request.2 =
      some (found, instances) ∧ (i, v) ∈ instances ∧ .addService found request.1 i v = e := by
  rw [answer]
  cases s.findHost request.1 request.2 with
  | none => simp
  | some p =>
    obtain ⟨found, instances⟩ := p
    simp

/-- From a state to a later one some requests of a client have been added, and nothing else has
changed but that commands were sent and that more clients know of each other. -/
structure Handled (client : UInt16) (requests : List (UInt16 × UInt16))
    (s s' : RoutingManagerStub) : Prop where
  routingInfo : s'.routingInfo = s.routingInfo
  localEndpoints : s'.localEndpoints = s.localEndpoints
  connected : ∀ {x y : UInt16}, x ∈ s.connectionMatrix y → x ∈ s'.connectionMatrix y
  requestsOf : ∀ {c : UInt16}, c ≠ client → s'.requestsOf c = s.requestsOf c
  mem_requestsOf : ∀ {r : UInt16 × UInt16},
    r ∈ s'.requestsOf client ↔ r ∈ s.requestsOf client ∨ r ∈ requests

/-- Growth handles no request. -/
lemma Grows.handled (h : Grows s s') (client : UInt16) : Handled client [] s s' where
  routingInfo := h.routingInfo
  localEndpoints := h.localEndpoints
  connected := h.connected
  requestsOf _ := congrFun h.requestsOf _
  mem_requestsOf := by simp [h.requestsOf]

/-- Requests that are handled one after the other. -/
lemma Handled.trans {requests' : List (UInt16 × UInt16)} (h : Handled client requests s s')
    (h' : Handled client requests' s' s'') : Handled client (requests ++ requests') s s'' where
  routingInfo := h'.routingInfo.trans h.routingInfo
  localEndpoints := h'.localEndpoints.trans h.localEndpoints
  connected hx := h'.connected (h.connected hx)
  requestsOf hc := (h'.requestsOf hc).trans (h.requestsOf hc)
  mem_requestsOf := by
    intro r
    rw [h'.mem_requestsOf, h.mem_requestsOf, List.mem_append, or_assoc]

/-- Growth after requests that are handled. -/
lemma Handled.grows (h : Handled client requests s s') (h' : Grows s' s'') :
    Handled client requests s s'' := by
  simpa using h.trans (h'.handled client)

/-- What is requested after requests are handled. -/
lemma Handled.requested_iff (h : Handled client requests s s') {c service instance_ : UInt16} :
    s'.Requested c service instance_ ↔
      s.Requested c service instance_ ∨ c = client ∧ anyMatches requests service instance_ := by
  by_cases hc : c = client
  · subst hc
    simp only [Requested, anyMatches, List.any_eq_true, h.mem_requestsOf, true_and]
    constructor
    · rintro ⟨r, hr | hr, hmatch⟩
      · exact .inl ⟨r, hr, hmatch⟩
      · exact .inr ⟨r, hr, hmatch⟩
    · rintro (⟨r, hr, hmatch⟩ | ⟨r, hr, hmatch⟩)
      · exact ⟨r, .inl hr, hmatch⟩
      · exact ⟨r, .inr hr, hmatch⟩
  · simp [Requested, h.requestsOf hc, hc]

/-- A request that is added is handled. -/
lemma handled_addRequest (client : UInt16) (request : UInt16 × UInt16) :
    Handled client [request] s (s.addRequest client request) where
  routingInfo := rfl
  localEndpoints := rfl
  connected := id
  requestsOf hc := by simp [addRequest, requestsOf, TreeMap.getD_insert, Ne.symm hc]
  mem_requestsOf := by
    intro r
    simp [addRequest, requestsOf, or_comm]

/-- The entries of the instances of a host are put into the routing info one after the other. -/
lemma foldl_insert (client : UInt16) (entry : UInt16 × Version → RoutingInfoEntry) :
    ∀ (instances : List (UInt16 × Version)) {s : RoutingManagerStub} {b : Bool},
      let x := instances.foldl
        (fun x i => (x.1.insertClientRoutingInfo client (entry i), true)) (s, b)
      Grows s x.1 ∧ x.1.localServices = s.localServices ∧
        x.2 = (b || !instances.isEmpty) ∧
        ∀ {acc}, s.clientRoutingInfo client = some acc →
          x.1.clientRoutingInfo client = some (acc ++ instances.map entry)
  | [], s, _ => by simpa using Grows.refl s
  | i :: instances, s, _ => by
    obtain ⟨hgrows, hview, havailable, hbuffer⟩ := foldl_insert client entry instances
      (s := s.insertClientRoutingInfo client (entry i)) (b := true)
    refine ⟨(grows_insert client (entry i)).trans hgrows,
      hview.trans (localServices_insert client (entry i)), by simpa using havailable, ?_⟩
    intro acc hacc
    have hone : (s.insertClientRoutingInfo client (entry i)).clientRoutingInfo client =
        some (acc ++ [entry i]) := by simp [insertClientRoutingInfo, hacc]
    simpa using hbuffer hone

/-- One request: the client that is found is told of the requester, and no table changes. A requester
knows itself, so that the client that is told is another one. -/
lemma handleRequest_spec (request : UInt16 × UInt16)
    (hself : IsProxy host client → client ∈ x.1.connectionMatrix client) :
    let x' := handleRequest host client x request
    Handled client [request] x.1 x'.1 ∧ x'.1.localServices = x.1.localServices ∧
      x'.2 = (x.2 || (IsProxy host client && !(x.1.answer request).isEmpty)) ∧
      (∀ {acc}, IsProxy host client → x.1.clientRoutingInfo client = some acc →
        x'.1.clientRoutingInfo client = some (acc ++ x.1.answer request)) ∧
      ∀ {found instances}, x.1.findHost request.1 request.2 = some (found, instances) →
        IsProxy host found → client ∈ x'.1.connectionMatrix found := by
  have hadd := handled_addRequest (s := x.1) client request
  rw [handleRequest]
  simp only [findHost_congr hadd.routingInfo, answer]
  cases hfound : x.1.findHost request.1 request.2 with
  | none => exact ⟨hadd, rfl, by simp, by simp [addRequest], by simp⟩
  | some p =>
    obtain ⟨found, instances⟩ := p
    dsimp only
    obtain ⟨s', hs', hgrows, hview, hbuffer, hconnected⟩ : ∃ s',
        (if IsProxy host found ∧ ¬ (x.1.addRequest client request).isAlreadyConnected found client
          then if client = found then
            ((x.1.addRequest client request).insertClientRoutingInfo found (.addClient client), true)
            else ((x.1.addRequest client request).tell host found (.addClient client), x.2)
          else (x.1.addRequest client request, x.2)) = (s', x.2) ∧
        Grows (x.1.addRequest client request) s' ∧ s'.localServices = x.1.localServices ∧
        s'.clientRoutingInfo client = x.1.clientRoutingInfo client ∧
        (IsProxy host found → client ∈ s'.connectionMatrix found) := by
      split
      · rename_i h
        have hother : client ≠ found := by
          rintro rfl
          exact h.2 (by simpa [isAlreadyConnected, addRequest] using hself h.1)
        rw [if_neg hother]
        refine ⟨_, rfl, grows_tell host _ _ _, ?_, clientRoutingInfo_tell_of_ne hother,
          fun _ => mem_connectionMatrix_tell⟩
        funext c
        have hnone : (RoutingInfoEntry.addClient client).services.length ≤ 1 := Nat.zero_le 1
        rw [localServices_tell hnone]
        split <;> rfl
      · rename_i h
        refine ⟨_, rfl, .refl _, rfl, rfl, fun hfoundProxy => ?_⟩
        simpa [hfoundProxy, isAlreadyConnected] using h
    rw [hs']
    by_cases hproxy : IsProxy host client
    · rw [if_pos hproxy]
      obtain ⟨hgrows', hview', havailable, hbuffer'⟩ := foldl_insert client
        (fun i => RoutingInfoEntry.addService found request.1 i.1 i.2) instances (s := s') (b := x.2)
      refine ⟨hadd.grows (hgrows.trans hgrows'), hview'.trans hview,
        by simpa [hproxy] using havailable, fun _ hacc => hbuffer' (hbuffer.trans hacc), ?_⟩
      rintro _ _ ⟨⟩ hfoundProxy
      exact hgrows'.connected (hconnected hfoundProxy)
    · rw [if_neg hproxy]
      refine ⟨hadd.grows hgrows, hview, by simp [hproxy],
        fun h => absurd h hproxy, ?_⟩
      rintro _ _ ⟨⟩ hfoundProxy
      exact hconnected hfoundProxy

/-- The loop over the requests. -/
lemma foldl_handleRequest_spec :
    ∀ (requests : List (UInt16 × UInt16)) {x : RoutingManagerStub × Bool},
      (IsProxy host client → client ∈ x.1.connectionMatrix client) →
      let x' := requests.foldl (handleRequest host client) x
      Handled client requests x.1 x'.1 ∧ x'.1.localServices = x.1.localServices ∧
        x'.2 = (x.2 || (IsProxy host client && !(requests.flatMap x.1.answer).isEmpty)) ∧
        (∀ {acc}, IsProxy host client → x.1.clientRoutingInfo client = some acc →
          x'.1.clientRoutingInfo client = some (acc ++ requests.flatMap x.1.answer)) ∧
        ∀ {request found instances}, request ∈ requests →
          x.1.findHost request.1 request.2 = some (found, instances) →
          IsProxy host found → client ∈ x'.1.connectionMatrix found
  | [], x, _ => ⟨(Grows.refl x.1).handled client, rfl, by simp, by simp, by simp⟩
  | request :: requests, x, hself => by
    obtain ⟨hhandled, hview, havailable, hbuffer, hconnected⟩ :=
      handleRequest_spec request hself
    obtain ⟨hhandled', hview', havailable', hbuffer', hconnected'⟩ :=
      foldl_handleRequest_spec requests fun h => hhandled.connected (hself h)
    have hanswer := answer_congr hhandled.routingInfo
    refine ⟨hhandled.trans hhandled', hview'.trans hview, ?_, fun hproxy hacc => ?_, ?_⟩
    · rw [List.foldl_cons, havailable', havailable, hanswer, List.flatMap_cons, Bool.or_assoc,
        ← Bool.and_or_distrib_left]
      cases x.1.answer request <;> simp
    · rw [List.foldl_cons, hbuffer' hproxy (hbuffer hproxy hacc), hanswer, List.flatMap_cons,
        List.append_assoc]
    · intro r found instances hr hfound hproxy
      rcases List.mem_cons.mp hr with rfl | hr
      · exact hhandled'.connected (hconnected hfound hproxy)
      · have hfound' : (handleRequest host client x request).1.findHost r.1 r.2 =
            some (found, instances) := by rw [findHost_congr hhandled.routingInfo, hfound]
        exact hconnected' hr hfound' hproxy

/-- The answers to the requests of a client fit in a local message. -/
def Fits (host : StubHost) (s : RoutingManagerStub) (requests : List (UInt16 × UInt16)) : Prop :=
  RoutingInfoEntry.commandSize (requests.flatMap s.answer) ≤ host.maxLocalMessageSize

/-- What `handle_requests` does for a client that is connected. -/
lemma handleRequests_spec (hself : IsProxy host client → client ∈ s.connectionMatrix client)
    (hend : IsProxy host client → s.localEndpoints client)
    (hfits : IsProxy host client → Fits host s requests) :
    Handled client requests s (s.handleRequests host client requests) ∧
      (∀ c, (s.handleRequests host client requests).localServices c =
        if c = client ∧ IsProxy host client then
          (s.localServices c).onRoutingInfo c (requests.flatMap s.answer)
        else s.localServices c) ∧
      ∀ {request found instances}, request ∈ requests →
        s.findHost request.1 request.2 = some (found, instances) →
        IsProxy host found →
        client ∈ (s.handleRequests host client requests).connectionMatrix found := by
  rw [handleRequests]
  by_cases hnil : requests = []
  · subst hnil
    refine ⟨(Grows.refl s).handled client, fun c => ?_, by simp⟩
    simp [LocalServices.onRoutingInfo]
  · rw [if_neg hnil]
    obtain ⟨hhandled, hview, havailable, hbuffer, hconnected⟩ :=
      foldl_handleRequest_spec (x := (s.createClientRoutingInfo client, false)) requests hself
    have hcreate : Grows s (s.createClientRoutingInfo client) := ⟨rfl, rfl, rfl, id⟩
    have hanswer : (s.createClientRoutingInfo client).answer = s.answer :=
      answer_congr hcreate.routingInfo
    have hhandled' := (hcreate.handled client).trans hhandled
    generalize requests.foldl (handleRequest host client) (s.createClientRoutingInfo client, false) =
      x' at *
    obtain ⟨s', available⟩ := x'
    have hview' : s'.localServices = s.localServices := hview
    dsimp only at havailable ⊢
    rw [hanswer] at havailable
    cases havailable' : available with
    | false =>
      refine ⟨hhandled', fun c => ?_, hconnected⟩
      rw [if_neg Bool.false_ne_true, hview']
      split
      · rename_i h
        have hempty : requests.flatMap s.answer = [] := by
          simpa [havailable', h.2] using havailable
        rw [hempty]
        rfl
      · rfl
    | true =>
      have hproxy : IsProxy host client := by
        by_contra hproxy
        simp [havailable', hproxy] at havailable
      have hcreated : (s.createClientRoutingInfo client).clientRoutingInfo client = some [] := by
        simp [createClientRoutingInfo]
      have hbuffer' := hbuffer hproxy hcreated
      rw [hanswer] at hbuffer'
      refine ⟨hhandled'.grows (grows_send host client), fun c => ?_,
        fun hr hfound hfoundProxy =>
          (grows_send host client).connected (hconnected hr hfound hfoundProxy)⟩
      rw [if_pos rfl, localServices_send hbuffer' (hfits hproxy), hview', hhandled'.localEndpoints]
      simp [hproxy, hend hproxy]

end Requests

/-! ## Registrations -/

section Registration

variable {client : UInt16}

/-- Taking out the services of a client twice is taking them out once. -/
lemma localServices_removeLocal_idem (t : LocalServices) (client : UInt16) :
    (t.removeLocal client).removeLocal client = t.removeLocal client := by
  funext s i
  simp [LocalServices.removeLocal, Option.filter_filter]

/-- The loop over the clients that are connected to a deregistered one. -/
lemma foldl_tell_spec (host : StubHost) (hclient : client ≠ routingClient) :
    ∀ (l : List UInt16) {s : RoutingManagerStub},
      let s' := l.foldl (fun s target =>
        if target ≠ client ∧ IsProxy host target then s.tell host target (.delClient client)
        else s) s
      Grows s s' ∧ ∀ {c}, c ≠ client → IsProxy host c → s.localEndpoints c →
        s'.localServices c =
          if c ∈ l then (s.localServices c).removeLocal client else s.localServices c
  | [], s => by simpa using Grows.refl s
  | target :: l, s => by
    obtain ⟨hgrows, hview⟩ := foldl_tell_spec host hclient l
      (s := if target ≠ client ∧ IsProxy host target then s.tell host target (.delClient client)
        else s)
    have hone : Grows s (if target ≠ client ∧ IsProxy host target then
        s.tell host target (.delClient client) else s) := by
      split
      · exact grows_tell host s target _
      · exact .refl s
    refine ⟨hone.trans hgrows, fun {c} hc hproxy hend => ?_⟩
    rw [List.foldl_cons, hview hc hproxy (by rwa [hone.localEndpoints])]
    have hnone : (RoutingInfoEntry.delClient client).services.length ≤ 1 := Nat.zero_le 1
    have hstep : (if target ≠ client ∧ IsProxy host target then
        s.tell host target (.delClient client) else s).localServices c =
        if c = target then (s.localServices c).removeLocal client else s.localServices c := by
      by_cases htarget : c = target
      · subst htarget
        have hboth : c ≠ client ∧ IsProxy host c := ⟨hc, hproxy⟩
        rw [if_pos hboth, localServices_tell hnone, if_pos ⟨rfl, hend⟩, if_pos rfl,
          LocalServices.onEntry_delClient _ (Ne.symm hc) hclient]
      · rw [if_neg htarget]
        split
        · rw [localServices_tell hnone, if_neg fun h => htarget h.1]
        · rfl
    rw [hstep]
    by_cases htarget : c = target
    · simp [htarget, localServices_removeLocal_idem]
    · simp [htarget]

/-- The clients that are connected to a client are told that it is gone, the others are not. -/
lemma tellConnected_spec (host : StubHost) (s : RoutingManagerStub)
    (hclient : client ≠ routingClient) :
    Grows s (s.tellConnected host client) ∧
      ∀ {c}, c ≠ client → IsProxy host c → s.localEndpoints c →
        (s.tellConnected host client).localServices c =
          if c ∈ s.connectionMatrix client then (s.localServices c).removeLocal client
          else s.localServices c :=
  foldl_tell_spec host hclient _

/-- A deregistration erases the offers of the client. -/
lemma version_onDeregister (c service instance_ : UInt16) :
    (s.onDeregisterApplication client).version c service instance_ =
      if c = client then none else s.version c service instance_ := by
  rw [version, onDeregisterApplication, TreeMap.getElem?_erase]
  by_cases hc : c = client
  · simp [hc]
  · simp [hc, Ne.symm hc, version]

/-- A deregistration leaves no service without instances. -/
lemma NoEmptyService.onDeregister (hs : s.NoEmptyService) :
    (s.onDeregisterApplication client).NoEmptyService := by
  intro c service offers instances hc hservice
  rw [onDeregisterApplication, TreeMap.getElem?_erase] at hc
  split at hc
  · cases hc
  · rename_i hne
    obtain ⟨i, hi⟩ := hs hc hservice
    refine ⟨i, ?_⟩
    rwa [version_onDeregister, if_neg fun h => hne (Std.LawfulEqCmp.compare_eq_iff_eq.mpr h.symm)]

/-- A registration keeps the versions. -/
lemma version_onRegister : (s.onRegisterApplication client).version = s.version := by
  rw [onRegisterApplication]
  split
  · rfl
  · funext c service instance_
    rw [version_eq, version_eq, TreeMap.getD_insert]
    split
    · rename_i h
      rw [Std.LawfulEqCmp.compare_eq_iff_eq.mp h]
    · rfl

/-- The loop over the connected clients erases nothing from `routing_info_`. -/
lemma grows_tellConnected (host : StubHost) (s : RoutingManagerStub) (client : UInt16) :
    Grows s (s.tellConnected host client) := by
  unfold tellConnected
  generalize s.connectionMatrix client = l
  induction l generalizing s with
  | nil => exact .refl s
  | cons target l ih =>
    refine Grows.trans ?_ (ih _)
    dsimp only
    split
    · exact grows_tell host s target _
    · exact .refl s

/-- A deregistration erases what the client offers, and a registration erases nothing. -/
lemma version_clientRegistration (host : StubHost) (s : RoutingManagerStub) (client : UInt16)
    (type : RegistrationType) (c service instance_ : UInt16) :
    (s.clientRegistration host client type).version c service instance_ =
      if type ≠ .register ∧ c = client then none else s.version c service instance_ := by
  cases type with
  | register =>
    rw [if_neg fun h => h.1 rfl, clientRegistration, (grows_tell host _ _ _).version,
      version_onRegister]
  | deregister =>
    have hgrows := (grows_tell host (s.onDeregisterApplication client) client
      (.delClient client)).trans (grows_tellConnected host _ client)
    have hversion : (s.clientRegistration host client .deregister).version =
        (s.onDeregisterApplication client).version := version_congr hgrows.routingInfo
    rw [hversion, version_onDeregister]
    simp
  | deregisterOnError =>
    have hgrows := grows_tellConnected host (s.onDeregisterApplication client) client
    have hversion : (s.clientRegistration host client .deregisterOnError).version =
        (s.onDeregisterApplication client).version := version_congr hgrows.routingInfo
    rw [hversion, version_onDeregister]
    simp

/-- A registration makes no service without instances. -/
lemma NoEmptyService.onRegister (hs : s.NoEmptyService) :
    (s.onRegisterApplication client).NoEmptyService := by
  by_cases hend : s.localEndpoints client
  · rwa [onRegisterApplication, if_pos hend]
  · have hinfo : (s.onRegisterApplication client).routingInfo =
        s.routingInfo.insert client (s.routingInfo.getD client ∅) := by
      rw [onRegisterApplication, if_neg hend]
    refine hs.of_insert hinfo fun h => ?_
    rw [version_onRegister]
    exact hs.getD h

end Registration

/-! ## Runs -/

/-- Every registered proxy knows, of the instances that it has requested, exactly the offered ones,
with their version and the client that hosts them. -/
def Exact (host : StubHost) (s : RoutingManagerStub) : Prop :=
  ∀ ⦃client : UInt16⦄, s.localEndpoints client → IsProxy host client →
    ∀ ⦃service instance_ : UInt16⦄, s.Requested client service instance_ →
      ∀ (version : Version) (hoster : UInt16),
        s.localServices client service instance_ = some (version, hoster) ↔
          s.version hoster service instance_ = some version

/-- Of a service of which any instance is requested, every instance is hosted by the client with the
least identifier that hosts one, unless it was requested before or is also requested by itself. -/
def Reaches (s : RoutingManagerStub) (client : UInt16) (requests : List (UInt16 × UInt16)) : Prop :=
  ∀ ⦃service : UInt16⦄, (service, anyInstance) ∈ requests →
    ∀ ⦃c i : UInt16⦄ ⦃v : Version⦄, s.version c service i = some v →
      (∀ ⦃c' i' : UInt16⦄ ⦃v' : Version⦄, s.version c' service i' = some v' → c ≤ c') ∨
        s.Requested client service i ∨ i ≠ anyInstance ∧ (service, i) ∈ requests

/-- The events that keep the tables of the proxies exact. A new proxy has a client identifier that is
not registered, and registers with an empty table; only proxies register and deregister; an instance
is not offered by two clients; a proxy that requests services is registered, all instances that it
requests are found for it, and the answer fits in a local message. -/
def Answerable (host : StubHost) (s : RoutingManagerStub) : Event → Prop
  | .start client => ¬ s.localEndpoints client
  | .registration client .register =>
    IsProxy host client ∧ (s.localEndpoints client ∨ s.localServices client = .empty)
  | .registration client _ => IsProxy host client
  | .offer client service instance_ _ => ∀ c v, s.version c service instance_ = some v → c = client
  | .stopOffer .. => True
  | .request client requests => IsProxy host client →
    s.localEndpoints client ∧ s.Reaches client requests ∧ Fits host s requests

/-- What holds of the stub in every run of such events. -/
structure Inv (host : StubHost) (s : RoutingManagerStub) : Prop where
  exact : ∀ ⦃c : UInt16⦄, s.localEndpoints c → IsProxy host c →
    ∀ (service instance_ : UInt16) (v : Version) (h : UInt16),
      s.localServices c service instance_ = some (v, h) ↔
        s.Requested c service instance_ ∧ s.version h service instance_ = some v
  connected : ∀ ⦃c : UInt16⦄, s.localEndpoints c → IsProxy host c →
    ∀ ⦃service instance_ : UInt16⦄ ⦃v : Version⦄ ⦃h : UInt16⦄,
      s.localServices c service instance_ = some (v, h) → IsProxy host h → c ∈ s.connectionMatrix h
  self : ∀ ⦃c : UInt16⦄, s.localEndpoints c → c ∈ s.connectionMatrix c
  unique : ∀ ⦃c c' service instance_ : UInt16⦄ ⦃v v' : Version⦄,
    s.version c service instance_ = some v → s.version c' service instance_ = some v' → c = c'
  noEmptyService : s.NoEmptyService
  requests : ∀ ⦃c : UInt16⦄, IsProxy host c → ¬ s.localEndpoints c → s.requestsOf c = []

/-- Under the invariant the tables of all clients are exact. -/
lemma Inv.exact_all (hs : s.Inv host) : Exact host s := by
  intro client hend hproxy service instance_ hrequested version hoster
  rw [hs.exact hend hproxy, and_iff_right hrequested]

/-- At the start nothing is offered. -/
lemma version_init (client service instance_ : UInt16) :
    (init host).version client service instance_ = none := by
  rw [version_eq, init, TreeMap.getD_insert]
  split <;> simp

/-- The invariant holds at the start. -/
lemma inv_init : (init host).Inv host where
  exact _ hend := by cases hend
  connected _ hend := by cases hend
  self _ hend := by cases hend
  unique _ _ _ _ _ _ h := by simp [version_init] at h
  noEmptyService := by
    intro client service offers instances hclient hservice
    rw [init, TreeMap.getElem?_insert] at hclient
    split at hclient
    · cases hclient
      simp at hservice
    · simp at hclient
  requests _ _ _ := by simp [requestsOf, init]

/-- Services without instances depend on the routing info only. -/
lemma NoEmptyService.congr (hs : s.NoEmptyService) (h : s'.routingInfo = s.routingInfo) :
    s'.NoEmptyService := by
  intro client service offers instances hclient hservice
  rw [h] at hclient
  rw [version_congr h]
  exact hs hclient hservice

variable {client : UInt16}

/-- A new proxy. -/
lemma Inv.step_start (hs : s.Inv host) (hend : ¬ s.localEndpoints client) :
    (s.step host (.start client)).Inv host := by
  have hview {c : UInt16} (hc : s.localEndpoints c) :
      (s.step host (.start client)).localServices c = s.localServices c := by
    have hne : c ≠ client := by
      rintro rfl
      exact hend hc
    simp [step, localServices, hne]
  refine ⟨fun c hc hproxy => ?_, fun c hc hproxy => ?_, hs.self, hs.unique, hs.noEmptyService,
    hs.requests⟩
  · rw [hview hc]
    exact hs.exact hc hproxy
  · rw [hview hc]
    exact hs.connected hc hproxy

/-- The registration of a client. -/
lemma Inv.step_register (hs : s.Inv host) (hproxy : IsProxy host client)
    (hnew : s.localEndpoints client ∨ s.localServices client = .empty) :
    (s.step host (.registration client .register)).Inv host := by
  have hends {c : UInt16} : (s.onRegisterApplication client).localEndpoints c ↔
      s.localEndpoints c ∨ c = client := by
    rw [onRegisterApplication]
    by_cases hend : s.localEndpoints client
    · rw [if_pos hend, or_iff_left_of_imp]
      rintro rfl
      exact hend
    · rw [if_neg hend]
      by_cases hc : c = client
      · simp [hc]
      · simp [hc]
  have hold : (s.onRegisterApplication client).localServices = s.localServices ∧
      (s.onRegisterApplication client).requestsOf = s.requestsOf ∧
      (s.onRegisterApplication client).connectionMatrix = s.connectionMatrix := by
    rw [onRegisterApplication]
    split <;> exact ⟨rfl, rfl, rfl⟩
  have hgrows := grows_tell host (s.onRegisterApplication client) client (.addClient client)
  have hview (c : UInt16) : (s.step host (.registration client .register)).localServices c =
      s.localServices c := by
    have hnone : (RoutingInfoEntry.addClient client).services.length ≤ 1 := Nat.zero_le 1
    rw [step, clientRegistration, localServices_tell hnone, hold.1]
    split <;> rfl
  have hrequests : (s.step host (.registration client .register)).requestsOf = s.requestsOf :=
    hgrows.requestsOf.trans hold.2.1
  have hrequested {c service instance_ : UInt16} :
      (s.step host (.registration client .register)).Requested c service instance_ ↔
        s.Requested c service instance_ := requested_congr (congrFun hrequests c)
  have hversion : (s.step host (.registration client .register)).version = s.version :=
    hgrows.version.trans version_onRegister
  have hconnected {x y : UInt16} (hx : x ∈ s.connectionMatrix y) :
      x ∈ (s.step host (.registration client .register)).connectionMatrix y :=
    hgrows.connected (hold.2.2 ▸ hx)
  have hends' {c : UInt16} : (s.step host (.registration client .register)).localEndpoints c ↔
      s.localEndpoints c ∨ c = client := by rw [step, clientRegistration, hgrows.localEndpoints, hends]
  -- a client that was not registered has requested nothing and knows nothing
  have hfresh : ¬ s.localEndpoints client →
      (∀ service instance_, s.localServices client service instance_ = none) ∧
        ∀ service instance_, ¬ s.Requested client service instance_ := by
    intro hend
    refine ⟨fun service instance_ => ?_, fun service instance_ => ?_⟩
    · rw [hnew.resolve_left hend]
      rfl
    · simp [Requested, hs.requests hproxy hend, anyMatches]
  refine ⟨fun c hc hcproxy service instance_ v h => ?_, fun c hc hcproxy service instance_ v h => ?_,
    fun c hc => ?_, ?_, (hs.noEmptyService.onRegister).congr hgrows.routingInfo, ?_⟩
  · rw [hview, hrequested, hversion]
    by_cases hend : s.localEndpoints c
    · exact hs.exact hend hcproxy service instance_ v h
    · obtain rfl := (hends'.mp hc).resolve_left hend
      simp [hfresh hend]
  · rw [hview]
    intro hx hh
    by_cases hend : s.localEndpoints c
    · exact hconnected (hs.connected hend hcproxy hx hh)
    · obtain rfl := (hends'.mp hc).resolve_left hend
      simp [hfresh hend] at hx
  · by_cases hcc : c = client
    · subst hcc
      exact mem_connectionMatrix_tell
    · exact hconnected (hs.self ((hends'.mp hc).resolve_right hcc))
  · rw [hversion]
    exact hs.unique
  · intro c hcproxy hend
    rw [hrequests]
    exact hs.requests hcproxy fun h => hend (hends'.mpr (.inl h))

/-- A client is deregistered: `s'` is the stub after `on_deregister_application`, in which at most the
client itself has been sent something. -/
lemma Inv.of_deregister (hs : s.Inv host) (hproxy : IsProxy host client)
    (hgrows : Grows (s.onDeregisterApplication client) s')
    (hview : ∀ c, c ≠ client → s'.localServices c = s.localServices c) :
    ((s'.tellConnected host client).forget client).Inv host := by
  obtain ⟨hgrows', hview'⟩ := tellConnected_spec host s' hproxy.1
  have hversion (c service instance_ : UInt16) :
      ((s'.tellConnected host client).forget client).version c service instance_ =
        if c = client then none else s.version c service instance_ := by
    rw [← version_onDeregister, ← hgrows.version, ← hgrows'.version]
    rfl
  have hends {c : UInt16} : ((s'.tellConnected host client).forget client).localEndpoints c ↔
      c ≠ client ∧ s.localEndpoints c := by
    rw [forget, hgrows'.localEndpoints, hgrows.localEndpoints]
    by_cases hc : c = client
    · simp [hc]
    · simp [hc, onDeregisterApplication]
  have hrequests {c : UInt16} (hc : c ≠ client) :
      ((s'.tellConnected host client).forget client).requestsOf c = s.requestsOf c := by
    rw [requestsOf, forget, hgrows'.serviceRequests, hgrows.serviceRequests, TreeMap.getD_erase,
      if_neg fun h => hc (Std.LawfulEqCmp.compare_eq_iff_eq.mp h).symm]
    rfl
  have hconnected {x y : UInt16} (hx : x ≠ client) (hy : y ≠ client)
      (h : x ∈ s.connectionMatrix y) :
      x ∈ ((s'.tellConnected host client).forget client).connectionMatrix y := by
    have h' : x ∈ (s'.tellConnected host client).connectionMatrix y :=
      hgrows'.connected (hgrows.connected h)
    simp [forget, hy, hx, h']
  -- every proxy loses what the client hosts, if only because it knew nothing of it
  have hremoved {c : UInt16} (hc : c ≠ client) (hcproxy : IsProxy host c) (hend : s.localEndpoints c)
      (service instance_ : UInt16) (v : Version) (h : UInt16) :
      ((s'.tellConnected host client).forget client).localServices c service instance_ =
        some (v, h) ↔ s.localServices c service instance_ = some (v, h) ∧ h ≠ client := by
    have hend' : s'.localEndpoints c := by
      rw [hgrows.localEndpoints]
      exact hend
    have hforget : ((s'.tellConnected host client).forget client).localServices c =
        (s'.tellConnected host client).localServices c := rfl
    rw [hforget, hview' hc hcproxy hend', hview c hc]
    split
    · exact LocalServices.removeLocal_eq_some_iff
    · rename_i hnot
      refine (and_iff_left_of_imp fun hx => ?_).symm
      rintro rfl
      exact hnot (hgrows.connected (hs.connected hend hcproxy hx hproxy))
  refine ⟨fun c hc hcproxy service instance_ v h => ?_, fun c hc hcproxy service instance_ v h => ?_,
    fun c hc => ?_, fun c c' service instance_ v v' h h' => ?_, ?_, fun c hcproxy hend => ?_⟩
  · obtain ⟨hne, hend⟩ := hends.mp hc
    rw [hremoved hne hcproxy hend, hs.exact hend hcproxy, hversion, requested_congr (hrequests hne)]
    by_cases hh : h = client
    · simp [hh]
    · simp [hh]
  · obtain ⟨hne, hend⟩ := hends.mp hc
    rw [hremoved hne hcproxy hend]
    rintro ⟨hx, hh⟩ hhproxy
    exact hconnected hne hh (hs.connected hend hcproxy hx hhproxy)
  · obtain ⟨hne, hend⟩ := hends.mp hc
    exact hconnected hne hne (hs.self hend)
  · rw [hversion] at h h'
    split at h
    · cases h
    · split at h'
      · cases h'
      · exact hs.unique h h'
  · exact (hs.noEmptyService.onDeregister).congr (hgrows'.routingInfo.trans hgrows.routingInfo)
  · by_cases hc : c = client
    · subst hc
      simp [requestsOf, forget]
    · rw [hrequests hc]
      exact hs.requests hcproxy fun h => hend (hends.mpr ⟨hc, h⟩)

/-- The deregistration of a client. -/
lemma Inv.step_deregister (hs : s.Inv host) (hproxy : IsProxy host client)
    {type : RegistrationType} (htype : type ≠ .register) :
    (s.step host (.registration client type)).Inv host := by
  cases type with
  | register => exact absurd rfl htype
  | deregister =>
    refine hs.of_deregister hproxy (grows_tell host _ _ _) fun c hc => ?_
    have hnone : (RoutingInfoEntry.delClient client).services.length ≤ 1 := Nat.zero_le 1
    rw [localServices_tell hnone, if_neg fun h => hc h.1]
    rfl
  | deregisterOnError => exact hs.of_deregister hproxy (.refl _) fun _ _ => rfl

section Offer

variable {service instance_ : UInt16} {version : Version}

/-- What is offered is told to those that have requested it: `s'` is the stub with the changed
`routing_info_`, and `x` is what the requesters then know of the instance. -/
lemma Inv.of_inform (hs : s.Inv host) {informService : Bool} {x : Option (Version × UInt16)}
    (hentry : entry.services.length ≤ 1)
    (happly : ∀ c (t : LocalServices), t.onEntry c entry = t.set service instance_ x)
    (hframe : s'.localServices = s.localServices ∧ s'.serviceRequests = s.serviceRequests ∧
      s'.localEndpoints = s.localEndpoints ∧ s'.connectionMatrix = s.connectionMatrix)
    (hempty : s'.NoEmptyService)
    (hother : ∀ {c svc i}, ¬ (svc = service ∧ i = instance_) →
      s'.version c svc i = s.version c svc i)
    (hversion : ∀ {v h}, s'.version h service instance_ = some v ↔ x = some (v, h))
    (hconnected : ∀ {v h}, x = some (v, h) → h = client ∧ informService = true) :
    (s'.informRequesters host client service instance_ entry informService).Inv host := by
  obtain ⟨hview, hrequests, hends, hmatrix⟩ := hframe
  have hgrows : Grows s' (s'.informRequesters host client service instance_ entry informService) :=
    grows_informRequesters
  have hends' {c : UInt16} : (s'.informRequesters host client service instance_ entry
      informService).localEndpoints c ↔ s.localEndpoints c := by rw [hgrows.localEndpoints, hends]
  have hrequestsOf (c : UInt16) : (s'.informRequesters host client service instance_ entry
      informService).requestsOf c = s.requestsOf c := by
    rw [hgrows.requestsOf, requestsOf, hrequests, requestsOf]
  have hrequested (c svc i : UInt16) : s'.Requested c svc i ↔ s.Requested c svc i :=
    requested_congr (by rw [requestsOf, hrequests, requestsOf])
  have hview' {c : UInt16} (hc : s.localEndpoints c) (hcproxy : IsProxy host c) :
      (s'.informRequesters host client service instance_ entry informService).localServices c =
        if s.Requested c service instance_ then (s.localServices c).set service instance_ x
        else s.localServices c := by
    rw [localServices_informRequesters hentry hcproxy (by rwa [hends]), hview, happly]
    simp only [hrequested]
  refine ⟨fun c hc hcproxy svc i v h => ?_, fun c hc hcproxy svc i v h => ?_, fun c hc => ?_,
    fun c c' svc i v v' h h' => ?_, hempty.congr hgrows.routingInfo, fun c hcproxy hend => ?_⟩
  · rw [hview' (hends'.mp hc) hcproxy, hgrows.version, requested_congr (hrequestsOf c)]
    have hold := hs.exact (hends'.mp hc) hcproxy svc i v h
    by_cases hkey : svc = service ∧ i = instance_
    · obtain ⟨rfl, rfl⟩ := hkey
      rw [hversion]
      by_cases hr : s.Requested c svc i
      · rw [if_pos hr]
        simp only [LocalServices.set, and_self, if_true]
        exact (and_iff_right hr).symm
      · rw [if_neg hr, hold]
        exact iff_of_false (fun h => hr h.1) fun h => hr h.1
    · rw [hother hkey]
      split
      · rw [LocalServices.set, if_neg hkey]
        exact hold
      · exact hold
  · rw [hview' (hends'.mp hc) hcproxy]
    intro hx hh
    have hold (hx : s.localServices c svc i = some (v, h)) :
        c ∈ (s'.informRequesters host client service instance_ entry informService).connectionMatrix
          h :=
      hgrows.connected (hmatrix ▸ hs.connected (hends'.mp hc) hcproxy hx hh)
    split at hx
    · rename_i hr
      rw [LocalServices.set] at hx
      split at hx
      · obtain ⟨rfl, rfl⟩ := hconnected hx
        exact connected_informRequesters hh ((hrequested c service instance_).mpr hr)
      · exact hold hx
    · exact hold hx
  · exact hgrows.connected (hmatrix ▸ hs.self (hends'.mp hc))
  · rw [hgrows.version] at h h'
    by_cases hkey : svc = service ∧ i = instance_
    · obtain ⟨rfl, rfl⟩ := hkey
      rw [hversion] at h h'
      exact congrArg Prod.snd (Option.some.inj (h.symm.trans h'))
    · rw [hother hkey] at h h'
      exact hs.unique h h'
  · rw [hrequestsOf]
    exact hs.requests hcproxy fun h => hend (hends'.mpr h)

/-- What is in `routing_info_` after an offer. -/
lemma version_onOfferService (c svc i : UInt16) :
    (s.onOfferService host client service instance_ version).version c svc i =
      if (client = routingClient ∨ host.isOfferAllowed client service instance_ = true) ∧
        c = client ∧ svc = service ∧ i = instance_ then some version else s.version c svc i := by
  rw [onOfferService]
  by_cases hallowed : client = routingClient ∨ host.isOfferAllowed client service instance_ = true
  · rw [if_pos hallowed, grows_informRequesters.version, version_setVersion]
    simp [hallowed]
  · rw [if_neg hallowed]
    simp [hallowed]

/-- The end of an offer erases at most the instance from `routing_info_`. -/
lemma version_onStopOfferService_or (host : StubHost) (s : RoutingManagerStub)
    (client service instance_ : UInt16) (version : Version) (c : UInt16) :
    (s.onStopOfferService host client service instance_ version).version c service instance_ = none ∨
      (s.onStopOfferService host client service instance_ version).version c service instance_ =
        s.version c service instance_ := by
  rw [onStopOfferService]
  split
  · exact .inr rfl
  · split
    · rw [grows_informRequesters.version, version_eraseVersion]
      split
      · exact .inl rfl
      · exact .inr rfl
    · exact .inr rfl

/-- The end of an offer keeps the offers of other instances. -/
lemma version_onStopOfferService_of_ne {c svc i : UInt16} (h : ¬ (svc = service ∧ i = instance_)) :
    (s.onStopOfferService host client service instance_ version).version c svc i =
      s.version c svc i := by
  rw [onStopOfferService]
  split
  · rfl
  · split
    · rw [grows_informRequesters.version, version_eraseVersion, if_neg fun h' => h h'.2]
    · rfl

/-- The end of an offer erases it. -/
lemma version_onStopOfferService_self (h : s.version client service instance_ = some version) :
    (s.onStopOfferService host client service instance_ version).version client service instance_ =
      none := by
  rw [onStopOfferService, h]
  simp only [true_or, if_true]
  rw [grows_informRequesters.version, version_eraseVersion, if_pos ⟨rfl, rfl, rfl⟩]

/-- An instance is offered. -/
lemma Inv.step_offer (hs : s.Inv host)
    (hunique : ∀ c v, s.version c service instance_ = some v → c = client) :
    (s.step host (.offer client service instance_ version)).Inv host := by
  rw [step, onOfferService]
  split
  · refine hs.of_inform (x := some (version, client)) Nat.le.refl (fun _ _ => rfl)
      ⟨rfl, rfl, rfl, rfl⟩ (hs.noEmptyService.setVersion client service instance_ version)
      (fun {c svc i} hkey => ?_) (fun {v h} => ?_) fun h => ?_
    · rw [version_setVersion, if_neg fun h => hkey h.2]
    · rw [version_setVersion]
      by_cases hh : h = client
      · simp [hh]
      · have hnone : s.version h service instance_ ≠ some v := fun hx => hh (hunique h v hx)
        simp [hh, hnone, Ne.symm hh]
    · cases h
      exact ⟨rfl, rfl⟩
  · exact hs

/-- An instance is no longer offered. -/
lemma Inv.step_stopOffer (hs : s.Inv host) :
    (s.step host (.stopOffer client service instance_ version)).Inv host := by
  rw [step, onStopOfferService]
  split
  · exact hs
  · rename_i found hfound
    split
    · refine hs.of_inform (x := none) Nat.le.refl (fun _ _ => rfl) ⟨rfl, rfl, rfl, rfl⟩
        (hs.noEmptyService.eraseVersion client service instance_) (fun {c svc i} hkey => ?_)
        (fun {v h} => ?_) fun h => by cases h
      · rw [version_eraseVersion, if_neg fun h => hkey h.2]
      · rw [version_eraseVersion]
        by_cases hh : h = client
        · simp [hh]
        · have hnone : s.version h service instance_ ≠ some v := fun hx => hh (hs.unique hx hfound)
          simp [hh, hnone]
    · exact hs

end Offer

section Request

variable {requests : List (UInt16 × UInt16)}

/-- An entry that answers requests is true and matches one of them. -/
lemma mem_flatMap_answer {e : RoutingInfoEntry} (he : e ∈ requests.flatMap s.answer) :
    ∃ h service i v, e = .addService h service i v ∧ s.version h service i = some v ∧
      anyMatches requests service i ∧ ∃ request ∈ requests, ∃ instances,
        s.findHost request.1 request.2 = some (h, instances) := by
  obtain ⟨request, hrequest, hanswer⟩ := List.mem_flatMap.mp he
  obtain ⟨h, instances, i, v, hfound, hi, rfl⟩ := mem_answer_iff.mp hanswer
  obtain ⟨hversion, hmatch⟩ := findHost_spec hfound hi
  refine ⟨h, request.1, i, v, rfl, hversion, ?_, request, hrequest, instances, hfound⟩
  rw [anyMatches, List.any_eq_true]
  refine ⟨request, hrequest, ?_⟩
  simp only [beq_self_eq_true, Bool.true_and, Bool.or_eq_true, beq_iff_eq]
  exact hmatch.imp_right Eq.symm

/-- An offered instance that was not requested before is among the answers. -/
lemma Inv.addService_mem (hs : s.Inv host) (hreaches : s.Reaches client requests)
    {service i h : UInt16} {v : Version} (hmatch : anyMatches requests service i)
    (hversion : s.version h service i = some v) (hnew : ¬ s.Requested client service i) :
    .addService h service i v ∈ requests.flatMap s.answer := by
  have hspecific (hi : i ≠ anyInstance) (hmem : (service, i) ∈ requests) :
      .addService h service i v ∈ requests.flatMap s.answer := by
    refine List.mem_flatMap.mpr ⟨_, hmem, mem_answer_iff.mpr ⟨h, [(i, v)], i, v, ?_, by simp, rfl⟩⟩
    exact findHost_of_unique hi hversion fun hv => hs.unique hv hversion
  rw [anyMatches, List.any_eq_true] at hmatch
  obtain ⟨⟨service', instance_⟩, hmem, hmatch⟩ := hmatch
  simp only [Bool.and_eq_true, beq_iff_eq, Bool.or_eq_true] at hmatch
  obtain ⟨rfl, hinstance⟩ := hmatch
  by_cases hany : instance_ = anyInstance
  · subst hany
    rcases hreaches hmem hversion with hleast | hrequested | ⟨hi, hmem'⟩
    · obtain ⟨instances, hfound, hin⟩ := findHost_any_of_least hs.noEmptyService hversion
        fun hv => hleast hv
      exact List.mem_flatMap.mpr ⟨_, hmem, mem_answer_iff.mpr ⟨h, instances, i, v, hfound, hin, rfl⟩⟩
    · exact absurd hrequested hnew
    · exact hspecific hi hmem'
  · obtain rfl := hinstance.resolve_left hany
    exact hspecific hany hmem

/-- A client requests services. -/
lemma Inv.step_request (hs : s.Inv host)
    (hgood : IsProxy host client →
      s.localEndpoints client ∧ s.Reaches client requests ∧ Fits host s requests) :
    (s.step host (.request client requests)).Inv host := by
  obtain ⟨hhandled, hview, hconnected⟩ := handleRequests_spec (fun h => hs.self (hgood h).1)
    (fun h => (hgood h).1) fun h => (hgood h).2.2
  rw [step]
  generalize s.handleRequests host client requests = s' at *
  have hversion : s'.version = s.version := version_congr hhandled.routingInfo
  -- the table of the requester: what it knew and what the answers say
  have hrequester (hend : s.localEndpoints client) (hproxy : IsProxy host client)
      (service i : UInt16) (v : Version) (h : UInt16) :
      s'.localServices client service i = some (v, h) ↔
        s.localServices client service i = some (v, h) ∨
          .addService h service i v ∈ requests.flatMap s.answer := by
    rw [hview, if_pos ⟨rfl, hproxy⟩]
    refine LocalServices.onRoutingInfo_eq_some_iff
      (R := fun service i x => s.version x.2 service i = some x.1) ?_ ?_ ?_
    · intro service i x y hx hy
      have hclient := hs.unique hx hy
      rw [hclient] at hx
      exact Prod.ext (Option.some.inj (hx.symm.trans hy)) hclient
    · exact fun service i x hx => ((hs.exact hend hproxy service i x.1 x.2).mp hx).2
    · intro e he
      obtain ⟨h, service, i, v, rfl, hv, -, -⟩ := mem_flatMap_answer he
      exact ⟨service, i, (v, h), rfl, hv⟩
  refine ⟨fun c hc hcproxy service i v h => ?_, fun c hc hcproxy service i v h => ?_, fun c hc => ?_,
    ?_, hs.noEmptyService.congr hhandled.routingInfo, fun c hcproxy hend => ?_⟩
  · rw [hhandled.localEndpoints] at hc
    have hold := hs.exact hc hcproxy service i v h
    rw [hhandled.requested_iff, hversion]
    by_cases hclient : c = client
    · subst hclient
      rw [hrequester hc hcproxy, hold, or_and_right, and_iff_right rfl]
      constructor
      · rintro (h' | hentry)
        · exact .inl h'
        · obtain ⟨h', service', i', v', heq, hv, hmatch, -⟩ := mem_flatMap_answer hentry
          obtain ⟨rfl, rfl, rfl, rfl⟩ := LocalServices.addService_inj heq
          exact .inr ⟨hmatch, hv⟩
      · rintro (h' | ⟨hmatch, hv⟩)
        · exact .inl h'
        · by_cases hrequested : s.Requested c service i
          · exact .inl ⟨hrequested, hv⟩
          · exact .inr (hs.addService_mem (hgood hcproxy).2.1 hmatch hv hrequested)
    · rw [hview, if_neg fun h => hclient h.1, hold]
      simp [hclient]
  · rw [hhandled.localEndpoints] at hc
    intro hx hh
    by_cases hclient : c = client
    · subst hclient
      rcases (hrequester hc hcproxy service i v h).mp hx with hx | hentry
      · exact hhandled.connected (hs.connected hc hcproxy hx hh)
      · obtain ⟨h', service', i', v', heq, -, -, request, hmem, instances, hfound⟩ :=
          mem_flatMap_answer hentry
        obtain ⟨rfl, -⟩ := LocalServices.addService_inj heq
        exact hconnected hmem hfound hh
    · rw [hview, if_neg fun h => hclient h.1] at hx
      exact hhandled.connected (hs.connected hc hcproxy hx hh)
  · rw [hhandled.localEndpoints] at hc
    exact hhandled.connected (hs.self hc)
  · rw [hversion]
    exact hs.unique
  · rw [hhandled.localEndpoints] at hend
    have hne : c ≠ client := by
      rintro rfl
      exact hend (hgood hcproxy).1
    rw [hhandled.requestsOf hne]
    exact hs.requests hcproxy hend

end Request

/-- Every such event keeps the invariant. -/
lemma Inv.step {e : Event} (hs : s.Inv host) (he : s.Answerable host e) :
    (s.step host e).Inv host := by
  cases e with
  | start client => exact hs.step_start he
  | registration client type =>
    cases type with
    | register => exact hs.step_register he.1 he.2
    | deregister => exact hs.step_deregister he (by decide)
    | deregisterOnError => exact hs.step_deregister he (by decide)
  | offer client service instance_ version => exact hs.step_offer he
  | stopOffer client service instance_ version => exact hs.step_stopOffer
  | request client requests => exact hs.step_request he

/-- **The tables of the proxies are exact**: after every run of events that can be answered, every
registered proxy that has requested a service instance has it in its table exactly if it is offered,
with its version and the client that hosts it.

**Proof sketch.** The invariant says so of the requested instances, and that a proxy knows of no
others; that a proxy which knows of an instance is connected to its hosting client, so that it learns
of the end of that client; and that an instance is offered by one client only. -/
theorem exact_of_answerable (host : StubHost) (events : List Event)
    (h : Runs.Along (step host) (Answerable host) (init host) events) :
    Exact host (Runs.run (step host) (init host) events) :=
  (@Runs.inv_run_of_along _ _ (step host) (Inv host) (Answerable host) (fun hs he => hs.step he) _ _
    inv_init h).exact_all

/-- A host with client `1` and with local messages of at most 1400 bytes. -/
def exampleHost : StubHost where
  client := 1
  maxLocalMessageSize := 1400
  isOfferAllowed _ _ _ := true
  sendsEntry := by decide

/-- The host and a client offer instances of a service. Another client requests both of them, and later on
an instance that nobody offers; then the first client ends its offer. -/
def exampleEvents : List Event :=
  [.offer 1 0x1234 1 ⟨1, 0⟩, .start 0x10, .registration 0x10 .register,
    .offer 0x10 0x1234 2 ⟨1, 1⟩, .start 0x11, .registration 0x11 .register,
    .request 0x11 [(0x1234, 1), (0x1234, 2)], .request 0x11 [(0x1235, 1)],
    .stopOffer 0x10 0x1234 2 ⟨1, 1⟩]

/-- At the end the client knows the instance of the host. -/
theorem exact_of_answerable_offers :
    Exact exampleHost (Runs.run (step exampleHost) (init exampleHost) exampleEvents) := by
  refine exact_of_answerable exampleHost _
    ⟨?_, Bool.false_ne_true, ⟨by decide, .inr rfl⟩, ?_, Bool.false_ne_true, ⟨by decide, .inr rfl⟩,
      fun _ => ⟨by decide, ?_, by rw [Fits]; decide⟩, fun _ => ⟨by decide, ?_, by rw [Fits]; decide⟩,
      trivial, trivial⟩
  · intro c v hv
    rw [version_init] at hv
    cases hv
  · -- nobody offers the other instance before
    intro c v hv
    change (clientRegistration exampleHost _ 0x10 .register).version c 0x1234 2 = some v at hv
    rw [version_clientRegistration, if_neg fun h => h.1 rfl] at hv
    change (onOfferService exampleHost (init exampleHost) 1 0x1234 1 ⟨1, 0⟩).version c 0x1234 2 =
      some v at hv
    rw [version_onOfferService, if_neg fun h => absurd h.2.2.2 (by decide), version_init] at hv
    cases hv
  all_goals
    intro service hmem
    simp [anyInstance] at hmem

/-- Two clients host instances of a service of which a third one then requests any instance. -/
theorem not_exact_any :
    ¬ ∀ (host : StubHost) (events : List Event),
      Exact host (Runs.run (step host) (init host) events) := by
  intro h
  have hexact := h exampleHost [.registration 0x10 .register, .registration 0x11 .register,
    .registration 0x12 .register, .offer 0x10 0x1234 1 ⟨1, 0⟩, .offer 0x11 0x1234 2 ⟨1, 0⟩,
    .request 0x12 [(0x1234, anyInstance)]]
  have hknown := (@hexact 0x12 (by decide) (by decide) 0x1234 2 (by decide) ⟨1, 0⟩ 0x11).mpr (by decide)
  exact absurd hknown (by decide)

end RoutingManagerStub

end Vsomeip
