import Vsomeip.Lib.Runs
import Vsomeip.Routing.RemoteClients

set_option relaxedAutoImplicit false
set_option autoImplicit false

/-!
# Endpoints follow the offers of remote services

An endpoint in `remote_services_` should connect to the address in `remote_service_info_`, and a request
should be sent to where the last offer says that the service is; `client_endpoints_by_ip_` should have
the endpoints of `VSOMEIP_ROUTING_CLIENT` under their addresses; and the endpoints without an entry
should be the stopped ones.

The tables come apart in three cases. An offer with a changed address replaces the entry in
`remote_service_info_`, but the endpoints stay connected to the old one. An offer that no longer names a
transport leaves the entry of this transport, so that requests are still sent there. And when a service
is lost for which neither a reliable nor an unreliable endpoint is named, its entries in
`remote_service_info_` are removed and its endpoints are kept. Every other step keeps the tables in
order.

## Main definitions

* `Vsomeip.RemoteClients.Follows` — the endpoints follow `remote_service_info_`.
* `Vsomeip.RemoteClients.Inv` — the invariant of the steps that meet the condition.
* `Vsomeip.RemoteOffers` — the tables with the last offer of every instance.
* `Vsomeip.RemoteOffers.Follows` — the endpoints follow the last offers.
* `Vsomeip.RemoteOffers.Unchanged` — the condition on a step.

## Main results

* `Vsomeip.RemoteOffers.follows_along_iff` — the endpoints follow the offers along a run exactly if all
  of its steps meet the condition.
-/

namespace Vsomeip

open Function (update)

namespace RemoteClients

variable {Address : Type}

/-- The endpoints follow `remote_service_info_`. -/
structure Follows [DecidableEq Address] (s : RemoteClients Address) : Prop where
  /-- An endpoint of a service connects to its entry in `remote_service_info_`. -/
  connects : ∀ {key p}, s.entry key = some p →
    s.remoteServiceInfo key.service key.reliable = some (s.endpoints p).remote
  /-- `client_endpoints_by_ip_` has the endpoints of `VSOMEIP_ROUTING_CLIENT`. -/
  byIp : ∀ {remote reliable p}, s.clientEndpointsByIp remote reliable = some p ↔
    (∃ k, s.entry ⟨k, routingClient, reliable⟩ = some p) ∧ (s.endpoints p).remote = remote
  /-- The endpoints without an entry are stopped. -/
  stopped : ∀ {p}, p < s.next → ((s.endpoints p).isStopped = true ↔ ∀ key, s.entry key ≠ some p)
  /-- Requests are sent to the address in `remote_service_info_`. -/
  requests : ∀ {key free p}, (s.findOrCreateRemoteClient key free).2 = some p →
    s.remoteServiceInfo key.service key.reliable =
      some ((s.findOrCreateRemoteClient key free).1.endpoints p).remote

/-- No offer with these addresses changes the address of a transport for which there is an endpoint. -/
def KeepsAddresses (s : RemoteClients Address) (k : InstanceKey) (offered : Bool → Address × UInt16) :
    Prop :=
  ∀ reliable client, (offered reliable).2 ≠ illegalPort → s.entry ⟨k, client, reliable⟩ ≠ none →
    s.remoteServiceInfo k reliable = some (offered reliable)

/-- If a known service is lost without a transport, there is no endpoint for it. -/
def KeepsEndpoints (s : RemoteClients Address) (k : InstanceKey) (hasReliable hasUnreliable : Bool) :
    Prop :=
  s.requests.services k ≠ none → hasReliable = false → hasUnreliable = false →
    ∀ client reliable, s.entry ⟨k, client, reliable⟩ = none

/-- What holds along a good run. Besides the properties themselves: entries point to endpoints that have
been made, of their transport; they are of `VSOMEIP_ROUTING_CLIENT` or of clients with an exclusive
proxy; and the latter share no endpoints. -/
structure Inv (s : RemoteClients Address) : Prop where
  lt_next : ∀ {key p}, s.entry key = some p → p < s.next
  reliable : ∀ {key p}, s.entry key = some p → (s.endpoints p).isReliable = key.reliable
  specific : ∀ {key p}, s.entry key = some p →
    key.client = routingClient ∨ key.client ∈ s.specificEndpointClients key.service
  unshared : ∀ {key key' p}, s.entry key = some p → key.client ≠ routingClient →
    s.entry key' = some p → key' = key
  connects : ∀ {key p}, s.entry key = some p →
    s.remoteServiceInfo key.service key.reliable = some (s.endpoints p).remote
  byIp : ∀ {remote reliable p}, s.clientEndpointsByIp remote reliable = some p ↔
    (∃ k, s.entry ⟨k, routingClient, reliable⟩ = some p) ∧ (s.endpoints p).remote = remote
  stopped : ∀ {p}, p < s.next → ((s.endpoints p).isStopped = true ↔ ∀ key, s.entry key ≠ some p)

/-- The invariant of the tables holds at the start. -/
lemma inv_init (e : RemoteEndpoint Address) : (init e).Inv where
  lt_next h := by cases h
  reliable h := by cases h
  specific h := by cases h
  unshared h := by cases h
  connects h := by cases h
  byIp := by
    refine ⟨fun h => ?_, fun h => ?_⟩
    · cases h
    · obtain ⟨⟨k, hk⟩, -⟩ := h
      cases hk
  stopped h := absurd h (Nat.not_lt_zero _)

variable {s : RemoteClients Address}

/-- The service infos do not matter. -/
lemma Inv.setRequests (hs : s.Inv) (r : ServiceRequests) (f : InstanceKey → Bool → Bool) :
    Inv { s with requests := r, hasEndpoint := f } :=
  ⟨hs.lt_next, hs.reliable, hs.specific, hs.unshared, hs.connects, hs.byIp, hs.stopped⟩

/-- More clients may have an exclusive proxy. -/
lemma Inv.setSpecific (hs : s.Inv) {f : InstanceKey → List UInt16}
    (hf : ∀ k, s.specificEndpointClients k ⊆ f k) : Inv { s with specificEndpointClients := f } :=
  ⟨hs.lt_next, hs.reliable, fun h => (hs.specific h).imp_right fun hc => hf _ hc, hs.unshared,
    hs.connects, hs.byIp, hs.stopped⟩

/-- An entry of `remote_service_info_` can be replaced while no endpoint uses it. -/
lemma Inv.setRemoteServiceInfo (hs : s.Inv) {k : InstanceKey} {reliable : Bool}
    {info : Option (Address × UInt16)}
    (h : info = s.remoteServiceInfo k reliable ∨ ∀ client, s.entry ⟨k, client, reliable⟩ = none) :
    (s.setRemoteServiceInfo k reliable info).Inv := by
  refine ⟨hs.lt_next, hs.reliable, hs.specific, hs.unshared, fun {key p} hp => ?_, hs.byIp,
    hs.stopped⟩
  have hinfo := hs.connects hp
  have hp' : s.entry key = some p := hp
  simp only [RemoteClients.setRemoteServiceInfo]
  by_cases hk : key.service = k
  · by_cases hr : key.reliable = reliable
    · obtain heq | hnone := h
      · rw [hk, Function.update_self, hr, Function.update_self, heq, ← hk, ← hr]
        exact hinfo
      · subst hk hr
        rw [hnone key.client] at hp'
        cases hp'
    · rw [hk, Function.update_self, Function.update_of_ne hr, ← hk]
      exact hinfo
  · rw [Function.update_of_ne hk]
    exact hinfo

/-! ## Finding and creating endpoints -/

section Create

variable [DecidableEq Address] {key : RemoteKey} {remote : Address × UInt16} {p : ℕ}

omit [DecidableEq Address] in
/-- A service is entered for an endpoint of its address. -/
lemma Inv.insert (hs : s.Inv) (hnone : s.entry key = none) (hclient : key.client = routingClient)
    (hinfo : s.remoteServiceInfo key.service key.reliable = some remote)
    (hip : s.clientEndpointsByIp remote key.reliable = some p) :
    Inv { s with remoteServices := s.remoteServices.insert key p } := by
  obtain ⟨⟨k₀, hk₀⟩, hremote⟩ := hs.byIp.mp hip
  have hreliable := hs.reliable hk₀
  refine ⟨fun {key' q} h => ?_, fun {key' q} h => ?_, fun {key' q} h => ?_,
    fun {key' key'' q} h hne h'' => ?_, fun {key' q} h => ?_, fun {remote' r q} => ?_,
    fun {q} hq => ?_⟩
  · rw [entry_insert] at h
    split_ifs at h
    · cases h
      exact hs.lt_next hk₀
    · exact hs.lt_next h
  · rw [entry_insert] at h
    split_ifs at h with heq
    · cases h
      rw [heq]
      exact hreliable
    · exact hs.reliable h
  · rw [entry_insert] at h
    split_ifs at h with heq
    · exact .inl (heq ▸ hclient)
    · exact hs.specific h
  · rw [entry_insert] at h h''
    split_ifs at h with heq
    · exact absurd (heq ▸ hclient) hne
    · split_ifs at h'' with heq'
      · -- the endpoint is one of `VSOMEIP_ROUTING_CLIENT`
        cases h''
        have hsame := hs.unshared h hne hk₀
        exact absurd (congrArg RemoteKey.client hsame).symm hne
      · exact hs.unshared h hne h''
  · rw [entry_insert] at h
    split_ifs at h with heq
    · cases h
      rw [heq, hremote]
      exact hinfo
    · exact hs.connects h
  · simp only [entry_insert]
    rw [hs.byIp]
    refine and_congr_left fun hq => ⟨fun ⟨k, hk⟩ => ⟨k, ?_⟩, fun ⟨k, hk⟩ => ?_⟩
    · rw [if_neg, hk]
      rintro rfl
      rw [hnone] at hk
      cases hk
    · split_ifs at hk with heq
      · cases hk
        obtain rfl : r = key.reliable := congrArg RemoteKey.reliable heq
        exact ⟨k₀, hk₀⟩
      · exact ⟨k, hk⟩
  · simp only [entry_insert]
    rw [hs.stopped hq]
    refine ⟨fun h key' => ?_, fun h key' hkey' => ?_⟩
    · split_ifs
      · rintro ⟨⟩
        exact h _ hk₀
      · exact h key'
    · refine h key' ?_
      rw [if_neg, hkey']
      rintro rfl
      rw [hnone] at hkey'
      cases hkey'

/-- The endpoints that have entries are not the new one. -/
lemma Inv.endpoints_enterRemoteClient_of_entry (hs : s.Inv) {key' : RemoteKey} {q : ℕ}
    (h : s.entry key' = some q) : (s.enterRemoteClient key remote).endpoints q = s.endpoints q := by
  rw [endpoints_enterRemoteClient]
  exact Function.update_of_ne (Nat.ne_of_lt (hs.lt_next h)) _ _

/-- `client_endpoints_by_ip_` has the new endpoint exactly if it is one of
`VSOMEIP_ROUTING_CLIENT`. -/
lemma Inv.byIp_enterRemoteClient (hs : s.Inv) (hnone : s.entry key = none)
    (hip : key.client = routingClient → s.clientEndpointsByIp remote key.reliable = none)
    {remote' : Address × UInt16} {r : Bool} {q : ℕ} :
    (s.enterRemoteClient key remote).clientEndpointsByIp remote' r = some q ↔
      (∃ k, (s.enterRemoteClient key remote).entry ⟨k, routingClient, r⟩ = some q) ∧
        ((s.enterRemoteClient key remote).endpoints q).remote = remote' := by
  have hother : ∀ {k}, s.entry ⟨k, routingClient, r⟩ = some q →
      (⟨k, routingClient, r⟩ : RemoteKey) ≠ key := by
    rintro k hk rfl
    rw [hnone] at hk
    cases hk
  simp only [entry_enterRemoteClient]
  rw [clientEndpointsByIp_enterRemoteClient]
  split_ifs with hcase
  · obtain ⟨hrouting, rfl, rfl⟩ := hcase
    constructor
    · rintro ⟨⟩
      refine ⟨⟨key.service, if_pos ?_⟩, ?_⟩
      · rw [← hrouting]
      · rw [endpoints_enterRemoteClient, Function.update_self]
    · rintro ⟨⟨k, hk⟩, hremote⟩
      split_ifs at hk with hkey
      · exact hk
      · rw [hs.endpoints_enterRemoteClient_of_entry hk] at hremote
        have hfound := hs.byIp.mpr ⟨⟨k, hk⟩, hremote⟩
        rw [hip hrouting] at hfound
        cases hfound
  · rw [hs.byIp]
    constructor
    · rintro ⟨⟨k, hk⟩, hremote⟩
      refine ⟨⟨k, (if_neg (hother hk)).trans hk⟩, ?_⟩
      rw [hs.endpoints_enterRemoteClient_of_entry hk, hremote]
    · rintro ⟨⟨k, hk⟩, hremote⟩
      split_ifs at hk with hkey
      · cases hk
        refine absurd ⟨?_, ?_, ?_⟩ hcase
        · exact (congrArg RemoteKey.client hkey).symm
        · rw [← hremote, endpoints_enterRemoteClient, Function.update_self]
        · exact congrArg RemoteKey.reliable hkey
      · rw [hs.endpoints_enterRemoteClient_of_entry hk] at hremote
        exact ⟨⟨k, hk⟩, hremote⟩

/-- An endpoint is created for a service and a client that has none. -/
lemma Inv.enterRemoteClient (hs : s.Inv) (hnone : s.entry key = none)
    (hclient : key.client = routingClient ∨ key.client ∈ s.specificEndpointClients key.service)
    (hinfo : s.remoteServiceInfo key.service key.reliable = some remote)
    (hip : key.client = routingClient → s.clientEndpointsByIp remote key.reliable = none) :
    (s.enterRemoteClient key remote).Inv := by
  have hfresh : ∀ key', s.entry key' ≠ some s.next :=
    fun key' h => Nat.lt_irrefl _ (hs.lt_next h)
  refine ⟨fun {key' q} h => ?_, fun {key' q} h => ?_, fun {key' q} h => ?_,
    fun {key' key'' q} h hne h'' => ?_, fun {key' q} h => ?_, hs.byIp_enterRemoteClient hnone hip,
    fun {q} hq => ?_⟩
  · rw [entry_enterRemoteClient] at h
    rw [next_enterRemoteClient]
    split_ifs at h
    · cases h
      exact Nat.lt_succ_self s.next
    · exact Nat.lt_succ_of_lt (hs.lt_next h)
  · rw [entry_enterRemoteClient] at h
    split_ifs at h with hkey
    · cases h
      rw [endpoints_enterRemoteClient, Function.update_self, hkey]
    · rw [hs.endpoints_enterRemoteClient_of_entry h]
      exact hs.reliable h
  · rw [entry_enterRemoteClient] at h
    rw [specificEndpointClients_enterRemoteClient]
    split_ifs at h with hkey
    · exact hkey ▸ hclient
    · exact hs.specific h
  · rw [entry_enterRemoteClient] at h h''
    split_ifs at h with hkey
    · cases h
      split_ifs at h'' with hkey'
      · rw [hkey, hkey']
      · exact absurd h'' (hfresh key'')
    · split_ifs at h'' with hkey'
      · cases h''
        exact absurd h (hfresh key')
      · exact hs.unshared h hne h''
  · rw [entry_enterRemoteClient] at h
    rw [remoteServiceInfo_enterRemoteClient]
    split_ifs at h with hkey
    · cases h
      rw [endpoints_enterRemoteClient, Function.update_self, hkey]
      exact hinfo
    · rw [hs.endpoints_enterRemoteClient_of_entry h]
      exact hs.connects h
  · rw [next_enterRemoteClient] at hq
    simp only [entry_enterRemoteClient, endpoints_enterRemoteClient]
    by_cases hnew : q = s.next
    · subst hnew
      simp only [Function.update_self, Bool.false_eq_true, false_iff, not_forall, not_not]
      exact ⟨key, if_pos rfl⟩
    · rw [Function.update_of_ne hnew, hs.stopped (by omega)]
      refine ⟨fun h key' => ?_, fun h key' hkey' => ?_⟩
      · split_ifs
        · rintro ⟨⟩
          exact hnew rfl
        · exact h key'
      · refine h key' ?_
        rw [if_neg, hkey']
        rintro rfl
        rw [hnone] at hkey'
        cases hkey'

/-- `find_or_create_remote_client` keeps the invariant, also for a client that becomes one with an
exclusive proxy afterwards. -/
lemma Inv.findOrCreateRemoteClient_setSpecific (hs : s.Inv) (free : Bool)
    {f : InstanceKey → List UInt16} (hf : ∀ k, s.specificEndpointClients k ⊆ f k)
    (hclient : key.client = routingClient ∨ key.client ∈ f key.service) :
    Inv { (s.findOrCreateRemoteClient key free).1 with specificEndpointClients := f } := by
  obtain heq | ⟨remote, p, hnone, hrouting, hinfo, hip, heq⟩ | ⟨remote, hnone, hinfo, hip, heq⟩ :=
    @findOrCreateRemoteClient_cases _ s _ key free
  · rw [heq]
    exact hs.setSpecific hf
  · rw [heq]
    exact (hs.insert hnone hrouting hinfo hip).setSpecific hf
  · rw [heq, ← enterRemoteClient_setSpecific]
    exact (hs.setSpecific hf).enterRemoteClient hnone hclient hinfo hip

/-- Finding or creating an endpoint keeps the invariant. -/
lemma Inv.findOrCreateRemoteClient (hs : s.Inv) (free : Bool)
    (hclient : key.client = routingClient ∨ key.client ∈ s.specificEndpointClients key.service) :
    (s.findOrCreateRemoteClient key free).1.Inv := by
  have h := hs.findOrCreateRemoteClient_setSpecific free (fun k => List.Subset.refl _) hclient
  rwa [← (extends_findOrCreateRemoteClient key free).specificEndpointClients] at h

/-- The invariant gives the properties. -/
lemma Inv.follows (hs : s.Inv) : s.Follows where
  connects := hs.connects
  byIp := hs.byIp
  stopped := hs.stopped
  requests {key free p} h := by
    obtain heq | ⟨remote, q, hnone, hrouting, hinfo, hip, heq⟩ | ⟨remote, hnone, hinfo, hip, heq⟩ :=
      @findOrCreateRemoteClient_cases _ s _ key free
    · rw [heq] at h ⊢
      exact hs.connects h
    · rw [heq] at h ⊢
      cases h
      rw [hinfo, (hs.byIp.mp hip).2]
    · rw [heq] at h ⊢
      cases h
      rw [hinfo, endpoints_enterRemoteClient, Function.update_self]

end Create

/-! ## Removing endpoints -/

section Clear

variable [DecidableEq Address]

/-- A state after some entries have been removed from another one: the endpoints without an entry are
stopped and are not in `client_endpoints_by_ip_`. -/
structure Removed (s s' : RemoteClients Address) : Prop where
  next : s'.next = s.next
  remoteServiceInfo : s'.remoteServiceInfo = s.remoteServiceInfo
  specificEndpointClients : s'.specificEndpointClients = s.specificEndpointClients
  entry : ∀ {key p}, s'.entry key = some p → s.entry key = some p
  remote : ∀ p, (s'.endpoints p).remote = (s.endpoints p).remote
  isReliable : ∀ p, (s'.endpoints p).isReliable = (s.endpoints p).isReliable
  isStopped : ∀ p, (s'.endpoints p).isStopped = true ↔ (s.endpoints p).isStopped = true ∨
    (∃ key, s.entry key = some p) ∧ ∀ key, s'.entry key ≠ some p
  byIp : ∀ remote r p, s'.clientEndpointsByIp remote r = some p ↔
    s.clientEndpointsByIp remote r = some p ∧ ∃ k, s'.entry ⟨k, routingClient, r⟩ = some p

omit [DecidableEq Address] in
/-- Removing entries keeps the invariant. -/
lemma Inv.removed (hs : s.Inv) {s' : RemoteClients Address} (h : s.Removed s') : s'.Inv := by
  refine ⟨fun hp => ?_, fun {key p} hp => ?_, fun {key p} hp => ?_, fun hp hne hp' => ?_,
    fun {key p} hp => ?_, fun {remote r p} => ?_, fun {p} hp => ?_⟩
  · rw [h.next]
    exact hs.lt_next (h.entry hp)
  · rw [h.isReliable]
    exact hs.reliable (h.entry hp)
  · rw [h.specificEndpointClients]
    exact hs.specific (h.entry hp)
  · exact hs.unshared (h.entry hp) hne (h.entry hp')
  · rw [h.remoteServiceInfo, h.remote]
    exact hs.connects (h.entry hp)
  · rw [h.byIp, h.remote, hs.byIp]
    constructor
    · rintro ⟨⟨-, hremote⟩, hk⟩
      exact ⟨hk, hremote⟩
    · rintro ⟨⟨k, hk⟩, hremote⟩
      exact ⟨⟨⟨k, h.entry hk⟩, hremote⟩, k, hk⟩
  · rw [h.next] at hp
    rw [h.isStopped, hs.stopped hp]
    constructor
    · rintro (hnone | ⟨-, hnone⟩) key hkey
      · exact hnone key (h.entry hkey)
      · exact hnone key hkey
    · intro hnone
      by_cases hbefore : ∃ key, s.entry key = some p
      · exact .inr ⟨hbefore, hnone⟩
      · exact .inl fun key hkey => hbefore ⟨key, hkey⟩

omit [DecidableEq Address] in
/-- `clear_client_endpoints` stops the endpoints that lose their last entry. -/
lemma Inv.isStopped_cleared (hs : s.Inv) {k : InstanceKey} {r : Bool} {s' : RemoteClients Address}
    (h : s.Cleared k r s') (p : ℕ) :
    (s'.endpoints p).isStopped = true ↔ (s.endpoints p).isStopped = true ∨
      (∃ key, s.entry key = some p) ∧ ∀ key, s'.entry key ≠ some p := by
  rw [h.isStopped]
  refine or_congr_right ⟨?_, ?_⟩
  · rintro (⟨hrouting, hreach⟩ | ⟨c, hc, hne, hentry⟩)
    · refine ⟨⟨_, hrouting⟩, fun key hkey => ?_⟩
      by_cases hclient : key.client = routingClient
      · refine hreach key.service key.reliable ?_
        rw [← hclient]
        exact hkey
      · have hsame := hs.unshared (h.entry_of_some hkey) hclient hrouting
        exact hclient (congrArg RemoteKey.client hsame).symm
    · refine ⟨⟨_, hentry⟩, fun key hkey => ?_⟩
      have hsame := hs.unshared hentry hne (h.entry_of_some hkey)
      rw [h.entry, hsame, if_pos ⟨rfl, rfl, .inr hc⟩] at hkey
      cases hkey
  · rintro ⟨⟨key, hkey⟩, hnone⟩
    have hnow := hnone key
    rw [h.entry] at hnow
    split_ifs at hnow with hcleared
    · obtain ⟨rfl, rfl, hclient⟩ := hcleared
      by_cases hrouting : key.client = routingClient
      · refine .inl ⟨?_, fun k' r' => hnone _⟩
        rw [← hrouting]
        exact hkey
      · exact .inr ⟨key.client, hclient.resolve_left hrouting, hrouting, hkey⟩
    · exact absurd hkey hnow

omit [DecidableEq Address] in
/-- `clear_client_endpoints` removes the endpoints of `VSOMEIP_ROUTING_CLIENT` that lose their last
entry from `client_endpoints_by_ip_`. -/
lemma Inv.byIp_cleared (hs : s.Inv) {k : InstanceKey} {r : Bool} {s' : RemoteClients Address}
    (h : s.Cleared k r s') (remote : Address × UInt16) (r' : Bool) (p : ℕ) :
    s'.clientEndpointsByIp remote r' = some p ↔
      s.clientEndpointsByIp remote r' = some p ∧ ∃ k, s'.entry ⟨k, routingClient, r'⟩ = some p := by
  rw [h.byIp]
  refine and_congr_right fun hip => ?_
  obtain ⟨⟨k', hk'⟩, hremote⟩ := hs.byIp.mp hip
  constructor
  · intro hkept
    by_cases hcleared : k' = k ∧ r' = r
    · -- the entry is removed, but another service is reachable through the endpoint
      obtain ⟨rfl, rfl⟩ := hcleared
      have hreach : ¬ s'.Unreachable p := fun hreach => hkept ⟨rfl, hk', hremote, hreach⟩
      simp only [Unreachable, not_forall, not_not] at hreach
      obtain ⟨k'', r'', hk''⟩ := hreach
      have hr : r'' = r' := (hs.reliable (h.entry_of_some hk'')).symm.trans (hs.reliable hk')
      exact ⟨k'', hr ▸ hk''⟩
    · refine ⟨k', ?_⟩
      rw [h.entry, if_neg fun hc => hcleared ⟨hc.1, hc.2.1⟩]
      exact hk'
  · rintro ⟨k'', hk''⟩ hkept
    exact hkept.2.2.2 k'' r' hk''

/-- `clear_client_endpoints` keeps the invariant. -/
lemma Inv.clearClientEndpoints (hs : s.Inv) (k : InstanceKey) (r : Bool) :
    (s.clearClientEndpoints k r).Inv := by
  have h := cleared_clearClientEndpoints s k r
  exact hs.removed ⟨h.next, h.remoteServiceInfo, h.specificEndpointClients, h.entry_of_some, h.remote,
    h.isReliable, hs.isStopped_cleared h, hs.byIp_cleared h⟩

/-- Afterwards the service has no endpoint for the transport. -/
lemma Inv.entry_clearClientEndpoints (hs : s.Inv) (k : InstanceKey) (r : Bool) (client : UInt16) :
    (s.clearClientEndpoints k r).entry ⟨k, client, r⟩ = none := by
  rw [(cleared_clearClientEndpoints s k r).entry]
  split_ifs with h
  · rfl
  · cases hentry : s.entry ⟨k, client, r⟩ with
    | none => rfl
    | some p => exact absurd ⟨rfl, rfl, hs.specific hentry⟩ h

omit [DecidableEq Address] in
/-- The endpoint of a client with an exclusive proxy is removed. It has no other entry. -/
lemma Inv.removeSpecificClientEndpoint (hs : s.Inv) (client : UInt16) (k : InstanceKey)
    (reliable : Bool) : (s.removeSpecificClientEndpoint client k reliable).Inv := by
  by_cases hclient : s.isSpecificEndpointClient client k ≠ routingClient
  swap
  · rw [RemoteClients.removeSpecificClientEndpoint, if_neg hclient]
    exact hs
  have hrouting : client ≠ routingClient := by
    rintro rfl
    exact hclient (ite_self _)
  obtain ⟨e, heq, he⟩ := @removeSpecificClientEndpoint_eq _ s client k reliable hclient
  rw [heq]
  have hentry : ∀ key, entry { s with
      remoteServices := s.remoteServices.erase ⟨k, client, reliable⟩, endpoints := e } key =
      if key = ⟨k, client, reliable⟩ then none else s.entry key :=
    entry_erase ⟨k, client, reliable⟩
  have hold : ∀ {key p}, entry { s with
      remoteServices := s.remoteServices.erase ⟨k, client, reliable⟩, endpoints := e } key = some p →
      s.entry key = some p := by
    intro key p hp
    rw [hentry] at hp
    split_ifs at hp
    exact hp
  refine hs.removed ⟨rfl, rfl, rfl, hold, fun p => (he p).1, fun p => (he p).2.1, fun p => ?_,
    fun remote r p => ?_⟩
  · rw [(he p).2.2]
    refine or_congr_right ⟨fun h => ⟨⟨_, h⟩, fun key hkey => ?_⟩, ?_⟩
    · have hsame := hs.unshared h hrouting (hold hkey)
      rw [hentry, if_pos hsame] at hkey
      cases hkey
    · rintro ⟨⟨key, hkey⟩, hnone⟩
      have hnow := hnone key
      rw [hentry] at hnow
      split_ifs at hnow with hsame
      · exact hsame ▸ hkey
      · exact absurd hkey hnow
  · refine (and_iff_left_of_imp fun hip => ?_).symm
    obtain ⟨⟨k', hk'⟩, -⟩ := hs.byIp.mp hip
    refine ⟨k', ?_⟩
    rw [hentry, if_neg fun hsame => hrouting (congrArg RemoteKey.client hsame).symm]
    exact hk'

end Clear

/-! ## Offers -/

section Offers

variable [DecidableEq Address] {k : InstanceKey} {version : Version}
  {offered : Bool → Address × UInt16} {free : UInt16 → Bool}

/-- The endpoints of clients with an exclusive proxy. -/
lemma foldl_findOrCreateRemoteClient (free : UInt16 → Bool) : ∀ (clients : List UInt16)
    (s : RemoteClients Address), clients ⊆ s.specificEndpointClients k →
    Extends s (clients.foldl
      (fun s c => (s.findOrCreateRemoteClient ⟨k, c, true⟩ (free c)).1) s) ∧
    (s.Inv → (clients.foldl
      (fun s c => (s.findOrCreateRemoteClient ⟨k, c, true⟩ (free c)).1) s).Inv)
  | [], s, _ => ⟨Extends.refl s, id⟩
  | c :: clients, s, hclients => by
    obtain ⟨hc, hclients⟩ := List.cons_subset.mp hclients
    have hextends := @extends_findOrCreateRemoteClient _ s _ ⟨k, c, true⟩ (free c)
    rw [← hextends.specificEndpointClients] at hclients
    obtain ⟨hrest, hinv⟩ := foldl_findOrCreateRemoteClient free clients _ hclients
    refine ⟨hextends.trans hrest, fun hs => hinv ?_⟩
    exact hs.findOrCreateRemoteClient (free c) (.inr hc)

/-- Connecting to a new reliable endpoint takes nothing away and keeps the invariant. -/
lemma connectReliable_spec (s : RemoteClients Address) (k : InstanceKey) (version : Version)
    (free : UInt16 → Bool) : Extends s (s.connectReliable k version free) ∧
      (s.Inv → (s.connectReliable k version free).Inv) := by
  unfold connectReliable
  dsimp only
  have hstart : ∀ s' : RemoteClients Address, Extends s s' → (s.Inv → s'.Inv) →
      Extends s ((s'.specificEndpointClients k).foldl
        (fun s c => (s.findOrCreateRemoteClient ⟨k, c, true⟩ (free c)).1) (s'.addClients k version)) ∧
      (s.Inv → ((s'.specificEndpointClients k).foldl
        (fun s c => (s.findOrCreateRemoteClient ⟨k, c, true⟩ (free c)).1)
        (s'.addClients k version)).Inv) := by
    intro s' hextends hinv
    obtain ⟨r, hadd⟩ := @addClients_eq _ s' k version
    rw [hadd]
    obtain ⟨hrest, hinv'⟩ := foldl_findOrCreateRemoteClient free (s'.specificEndpointClients k)
      { s' with requests := r } (List.Subset.refl _)
    refine ⟨hextends.trans (Extends.trans ?_ hrest), fun hs => hinv' ?_⟩
    · exact ⟨rfl, rfl, id, fun _ => rfl, le_rfl⟩
    · exact (hinv hs).setRequests r s'.hasEndpoint
  split_ifs
  · exact hstart s (Extends.refl s) id
  · refine hstart _ (extends_findOrCreateRemoteClient _ _) fun hs => ?_
    exact hs.findOrCreateRemoteClient (free routingClient) (.inl rfl)

omit [DecidableEq Address] in
/-- Replacing an entry of `remote_service_info_` leaves the others. -/
lemma setRemoteServiceInfo_apply (s : RemoteClients Address) (k : InstanceKey) (reliable : Bool)
    (info : Option (Address × UInt16)) (k' : InstanceKey) (r : Bool) :
    (s.setRemoteServiceInfo k reliable info).remoteServiceInfo k' r =
      if k' = k ∧ r = reliable then info else s.remoteServiceInfo k' r := by
  rw [setRemoteServiceInfo]
  by_cases hk : k' = k
  · subst hk
    by_cases hr : r = reliable
    · simp [hr]
    · simp [hr]
  · simp [hk]

/-- `remote_service_info_` after an offer, in which a transport without a port keeps its entry. -/
def offeredInfo (s : RemoteClients Address) (k : InstanceKey) (offered : Bool → Address × UInt16)
    (k' : InstanceKey) (reliable : Bool) : Option (Address × UInt16) :=
  if k' = k ∧ (offered reliable).2 ≠ illegalPort then some (offered reliable)
  else s.remoteServiceInfo k' reliable

omit [DecidableEq Address] in
/-- A transport for which `remote_service_info_` is left as it is. -/
lemma offeredInfo_of_not_isNew {reliable : Bool} (h : ¬ s.IsNew k offered reliable)
    (k' : InstanceKey) : s.offeredInfo k offered k' reliable = s.remoteServiceInfo k' reliable := by
  unfold offeredInfo
  split_ifs with hnamed
  · rw [hnamed.1]
    exact (not_not.mp fun hinfo => h ⟨hnamed.2, hinfo⟩).symm
  · rfl

omit [DecidableEq Address] in
/-- A transport of which the address is entered. -/
lemma offeredInfo_of_isNew {reliable : Bool} (h : s.IsNew k offered reliable) (k' : InstanceKey) :
    s.offeredInfo k offered k' reliable =
      if k' = k then some (offered reliable) else s.remoteServiceInfo k' reliable := by
  unfold offeredInfo
  simp only [h.1, not_false_eq_true, and_true, ne_eq]

/-- The offers after `add_routing_info`. The entries and endpoints stay. -/
lemma extends_enterOffer (s : RemoteClients Address) (k : InstanceKey) (version : Version)
    (offered : Bool → Address × UInt16) (free : UInt16 → Bool) :
    Extends { s with remoteServiceInfo := s.offeredInfo k offered }
      (s.enterOffer k version offered free) ∧
    (s.Inv → s.KeepsAddresses k offered → (s.enterOffer k version offered free).Inv) := by
  have hnone : s.KeepsAddresses k offered → ∀ {reliable},
      s.IsNew k offered reliable → ∀ client, s.entry ⟨k, client, reliable⟩ = none := by
    intro h reliable hnew client
    exact not_not.mp fun hentry => hnew.2 (h reliable client hnew.1 hentry)
  -- the entries that are replaced one after the other are those of `offeredInfo`
  have hinfo {s' t : RemoteClients Address} (h : Extends s' t)
      (hs' : s' = { s with remoteServiceInfo := s'.remoteServiceInfo })
      (hoffered : ∀ k' reliable, s'.remoteServiceInfo k' reliable =
        s.offeredInfo k offered k' reliable) :
      Extends { s with remoteServiceInfo := s.offeredInfo k offered } t := by
    have heq : s'.remoteServiceInfo = s.offeredInfo k offered :=
      funext fun k' => funext fun reliable => hoffered k' reliable
    rw [← heq, ← hs']
    exact h
  unfold enterOffer
  dsimp only
  by_cases hfalse : s.IsNew k offered false
  · simp only [if_pos hfalse]
    by_cases htrue : s.IsNew k offered true
    · simp only [if_pos htrue]
      obtain ⟨hextends, hinv⟩ := connectReliable_spec ((s.setRemoteServiceInfo k false
        (some (offered false))).setRemoteServiceInfo k true (some (offered true))) k version free
      refine ⟨hinfo hextends rfl fun k' reliable => ?_, fun hs h => hinv ?_⟩
      · rw [setRemoteServiceInfo_apply, setRemoteServiceInfo_apply]
        cases reliable with
        | true => simp [offeredInfo_of_isNew htrue]
        | false => simp [offeredInfo_of_isNew hfalse]
      · exact (hs.setRemoteServiceInfo (.inr (hnone h hfalse))).setRemoteServiceInfo
          (.inr (hnone h htrue))
    · simp only [if_neg htrue]
      obtain ⟨r, hadd⟩ :=
        @addClients_eq _ (s.setRemoteServiceInfo k false (some (offered false))) k version
      have hextends : Extends (s.setRemoteServiceInfo k false (some (offered false)))
          { s.setRemoteServiceInfo k false (some (offered false)) with requests := r } :=
        ⟨rfl, rfl, id, fun _ => rfl, le_rfl⟩
      rw [hadd]
      refine ⟨hinfo hextends rfl fun k' reliable => ?_, fun hs h => ?_⟩
      · rw [setRemoteServiceInfo_apply]
        cases reliable with
        | true => simp [offeredInfo_of_not_isNew htrue]
        | false => simp [offeredInfo_of_isNew hfalse]
      · exact (hs.setRemoteServiceInfo (.inr (hnone h hfalse))).setRequests r s.hasEndpoint
  · simp only [if_neg hfalse]
    by_cases htrue : s.IsNew k offered true
    · simp only [if_pos htrue]
      obtain ⟨hextends, hinv⟩ := connectReliable_spec
        (s.setRemoteServiceInfo k true (some (offered true))) k version free
      refine ⟨hinfo hextends rfl fun k' reliable => ?_, fun hs h => hinv ?_⟩
      · rw [setRemoteServiceInfo_apply]
        cases reliable with
        | true => simp [offeredInfo_of_isNew htrue]
        | false => simp [offeredInfo_of_not_isNew hfalse]
      · exact hs.setRemoteServiceInfo (.inr (hnone h htrue))
    · simp only [if_neg htrue]
      refine ⟨hinfo (Extends.refl s) rfl fun k' reliable => ?_, fun hs _ => hs⟩
      cases reliable with
      | true => exact (offeredInfo_of_not_isNew htrue k').symm
      | false => exact (offeredInfo_of_not_isNew hfalse k').symm

/-- `remote_service_info_` after an offer that is not rejected. -/
lemma remoteServiceInfo_addRoutingInfo (cfg : RemoteConfig Address)
    (hlocal : (s.requests.services k).any (·.isLocal) = false) :
    (s.addRoutingInfo cfg k version offered free).remoteServiceInfo = s.offeredInfo k offered := by
  rw [addRoutingInfo, hlocal, if_neg (by decide)]
  obtain ⟨r, f, hcreate⟩ := @createServiceInfo_eq _ s _ cfg k version offered
  rw [hcreate]
  exact (extends_enterOffer { s with requests := r, hasEndpoint := f } k version offered
    free).1.remoteServiceInfo

/-- An offer keeps the invariant unless it changes the address of an endpoint. -/
lemma Inv.addRoutingInfo (hs : s.Inv) (cfg : RemoteConfig Address)
    (h : (s.requests.services k).any (·.isLocal) = false → s.KeepsAddresses k offered) :
    (s.addRoutingInfo cfg k version offered free).Inv := by
  unfold RemoteClients.addRoutingInfo
  split_ifs with hlocal
  · exact hs
  · obtain ⟨r, f, hcreate⟩ := @createServiceInfo_eq _ s _ cfg k version offered
    rw [hcreate]
    obtain ⟨-, hinv⟩ := extends_enterOffer { s with requests := r, hasEndpoint := f } k version
      offered free
    exact hinv (hs.setRequests r _) (h (Bool.not_eq_true _ ▸ hlocal))

/-- An offer that changes the address of an endpoint breaks the properties. -/
lemma Inv.not_follows_addRoutingInfo (hs : s.Inv) (cfg : RemoteConfig Address)
    (hlocal : (s.requests.services k).any (·.isLocal) = false) (h : ¬ s.KeepsAddresses k offered) :
    ¬ (s.addRoutingInfo cfg k version offered free).Follows := by
  simp only [KeepsAddresses, not_forall] at h
  obtain ⟨reliable, client, hport, hentry, hchanged⟩ := h
  obtain ⟨p, hp⟩ := Option.ne_none_iff_exists'.mp hentry
  intro hfollows
  rw [RemoteClients.addRoutingInfo, hlocal, if_neg (by decide)] at hfollows
  obtain ⟨r, f, hcreate⟩ := @createServiceInfo_eq _ s _ cfg k version offered
  rw [hcreate] at hfollows
  obtain ⟨hextends, -⟩ := extends_enterOffer { s with requests := r, hasEndpoint := f } k version
    offered free
  -- the entry and its endpoint are still there, but the offer is the new one
  have hafter := hfollows.connects (hextends.entry hp)
  rw [hextends.remoteServiceInfo, hextends.endpoints (hs.lt_next hp)] at hafter
  have hbefore := hs.connects hp
  have hoffered := hafter.symm.trans (if_pos ⟨rfl, hport⟩)
  exact hchanged (hbefore.trans hoffered)

omit [DecidableEq Address] in
/-- `clear_service_info` keeps the invariant. -/
lemma Inv.clearServiceInfo (hs : s.Inv) (k : InstanceKey) (r : Bool) :
    (s.clearServiceInfo k r).Inv := by
  obtain ⟨r', f, heq⟩ := @clearServiceInfo_eq _ s k r
  rw [heq]
  exact hs.setRequests r' f

/-- Clearing a transport of a service keeps the invariant. -/
lemma Inv.clearRemote (hs : s.Inv) (k : InstanceKey) (r : Bool) : (s.clearRemote k r).Inv :=
  (hs.clearClientEndpoints k r).setRemoteServiceInfo (.inr (hs.entry_clearClientEndpoints k r))

/-- The loss of a service keeps what its parts keep. -/
lemma delRoutingInfo_induction {P : RemoteClients Address → Prop} {hasReliable hasUnreliable : Bool}
    (h : P s)
    (forget : s.requests.services k ≠ none → hasReliable = false → hasUnreliable = false →
      P ((s.setRemoteServiceInfo k true none).setRemoteServiceInfo k false none))
    (clear : ∀ {t} r, P t → P (t.clearRemote k r))
    (clearInfo : ∀ {t} r, P t → P (t.clearServiceInfo k r)) :
    P (s.delRoutingInfo k hasReliable hasUnreliable) := by
  unfold RemoteClients.delRoutingInfo
  by_cases hknown : (s.requests.services k).isSome = true
  swap
  · rw [if_neg hknown]
    exact h
  rw [if_pos hknown]
  cases hasReliable with
  | true =>
    cases hasUnreliable with
    | true => exact clearInfo false (clearInfo true (clear false (clear true h)))
    | false => exact clearInfo true (clear true h)
  | false =>
    cases hasUnreliable with
    | true => exact clearInfo false (clear false h)
    | false =>
      have hforget := forget (Option.isSome_iff_ne_none.mp hknown) rfl rfl
      exact clearInfo false (clearInfo true hforget)

/-- The loss of a service keeps the invariant unless its endpoints are forgotten. -/
lemma Inv.delRoutingInfo (hs : s.Inv) {hasReliable hasUnreliable : Bool}
    (h : s.KeepsEndpoints k hasReliable hasUnreliable) :
    (s.delRoutingInfo k hasReliable hasUnreliable).Inv := by
  refine delRoutingInfo_induction hs (fun hknown hreliable hunreliable => ?_)
    (fun r ht => Inv.clearRemote ht k r) fun r ht => Inv.clearServiceInfo ht k r
  have hnone := h hknown hreliable hunreliable
  have hfirst := @Inv.setRemoteServiceInfo _ s hs k true none (.inr fun client => hnone client true)
  exact hfirst.setRemoteServiceInfo (.inr fun client => hnone client false)

/-- Endpoints without an offer break the properties. -/
lemma not_follows_delRoutingInfo {hasReliable hasUnreliable : Bool}
    (h : ¬ s.KeepsEndpoints k hasReliable hasUnreliable) :
    ¬ (s.delRoutingInfo k hasReliable hasUnreliable).Follows := by
  simp only [KeepsEndpoints, not_forall] at h
  obtain ⟨hknown, rfl, rfl, client, reliable, hentry⟩ := h
  obtain ⟨p, hp⟩ := Option.ne_none_iff_exists'.mp hentry
  have hsome : (s.requests.services k).isSome = true := Option.isSome_iff_ne_none.mpr hknown
  have hdel : s.delRoutingInfo k false false =
      ((((s.setRemoteServiceInfo k true none).setRemoteServiceInfo k false none).clearServiceInfo k
        true).clearServiceInfo k false) := by
    rw [delRoutingInfo, if_pos hsome, if_pos ⟨by decide, by decide⟩]
  have hentry' : (s.delRoutingInfo k false false).entry ⟨k, client, reliable⟩ = some p := by
    rw [hdel, entry_clearServiceInfo, entry_clearServiceInfo]
    exact hp
  have hinfo : (s.delRoutingInfo k false false).remoteServiceInfo k reliable = none := by
    rw [hdel, remoteServiceInfo_clearServiceInfo, remoteServiceInfo_clearServiceInfo]
    cases reliable with
    | true => simp [RemoteClients.setRemoteServiceInfo]
    | false => simp [RemoteClients.setRemoteServiceInfo]
  intro hfollows
  have hconnects := hfollows.connects hentry'
  rw [hinfo] at hconnects
  cases hconnects

end Offers

/-! ## Calls of local clients -/

section Calls

variable [DecidableEq Address]

/-- A request keeps the invariant. -/
lemma Inv.requestService (hs : s.Inv) (cfg : RemoteConfig Address) (client : UInt16) (k : InstanceKey)
    (version : Version) (useExclusiveProxy : Bool) (free : UInt16 → Bool) :
    (s.requestService cfg client k version useExclusiveProxy free).Inv := by
  unfold RemoteClients.requestService
  dsimp only
  have hstart := hs.setRequests (s.requests.requestService cfg.requests client k version) s.hasEndpoint
  have hrouting := @Inv.findOrCreateRemoteClient _ _ _ ⟨k, routingClient, true⟩ hstart
    (free routingClient) (.inl rfl)
  cases useExclusiveProxy with
  | false =>
    simp only [Bool.false_eq_true, false_and, if_false]
    split_ifs
    · exact hrouting
    · exact hstart
  | true =>
    simp only [true_and, if_true]
    have hinsert : ∀ (f : InstanceKey → List UInt16) k',
        f k' ⊆ update f k ((f k).insert client) k' := by
      intro f k'
      by_cases hk : k' = k
      · rw [hk, Function.update_self]
        exact List.subset_insert client (f k)
      · rw [Function.update_of_ne hk]
        exact List.Subset.refl _
    split_ifs
    · have hspecific := (@extends_findOrCreateRemoteClient _
        (RemoteClients.findOrCreateRemoteClient { s with
          requests := s.requests.requestService cfg.requests client k version }
          ⟨k, routingClient, true⟩ (free routingClient)).1 _ ⟨k, client, true⟩
        (free client)).specificEndpointClients
      rw [hspecific]
      refine hrouting.findOrCreateRemoteClient_setSpecific (free client) (hinsert _) (.inr ?_)
      rw [Function.update_self]
      exact List.mem_insert_self
    · exact hrouting.setSpecific (hinsert _)
    · exact hstart.setSpecific (hinsert _)

/-- A release keeps the invariant. -/
lemma Inv.releaseService (hs : s.Inv) (cfg : RemoteConfig Address) (client : UInt16)
    (k : InstanceKey) : (s.releaseService cfg client k).Inv := by
  have hstart := hs.setRequests (s.requests.releaseService cfg.requests client k) s.hasEndpoint
  exact releaseCalls.release_induction _ client k hstart
    (fun r h => Inv.clearClientEndpoints h k r) (fun _ h => Inv.setRequests h _ _)
    fun c i r h => Inv.removeSpecificClientEndpoint h c i r

end Calls

/-! ## The addresses that are left -/

section Addresses

variable [DecidableEq Address] {k : InstanceKey} {reliable : Bool} {remote : Address × UInt16}

omit [DecidableEq Address] in
/-- Removing endpoints leaves `remote_service_info_`. -/
lemma remoteServiceInfo_removeSpecificClientEndpoint (s : RemoteClients Address) (client : UInt16)
    (k : InstanceKey) (r : Bool) :
    (s.removeSpecificClientEndpoint client k r).remoteServiceInfo = s.remoteServiceInfo := by
  by_cases hclient : s.isSpecificEndpointClient client k ≠ routingClient
  · obtain ⟨e, heq, -⟩ := @removeSpecificClientEndpoint_eq _ s client k r hclient
    rw [heq]
  · rw [removeSpecificClientEndpoint, if_neg hclient]

/-- An address that is left after a service is lost was there before. -/
lemma remoteServiceInfo_of_clearRemote {k' : InstanceKey} {r : Bool}
    (h : (s.clearRemote k' r).remoteServiceInfo k reliable = some remote) :
    s.remoteServiceInfo k reliable = some remote := by
  rw [clearRemote, setRemoteServiceInfo_apply] at h
  split_ifs at h
  rwa [(cleared_clearClientEndpoints s k' r).remoteServiceInfo] at h

/-- `del_routing_info` adds no remote address. -/
lemma remoteServiceInfo_of_delRoutingInfo {k' : InstanceKey} {hasReliable hasUnreliable : Bool} :
    (s.delRoutingInfo k' hasReliable hasUnreliable).remoteServiceInfo k reliable = some remote →
      s.remoteServiceInfo k reliable = some remote := by
  refine delRoutingInfo_induction
    (P := fun t => t.remoteServiceInfo k reliable = some remote →
      s.remoteServiceInfo k reliable = some remote) id (fun _ _ _ h => ?_)
    (fun r ht h => ht (remoteServiceInfo_of_clearRemote h)) fun {t} r ht h => ht ?_
  · rw [setRemoteServiceInfo_apply, setRemoteServiceInfo_apply] at h
    split_ifs at h
    exact h
  · rwa [remoteServiceInfo_clearServiceInfo] at h

/-- `request_service` leaves `remote_service_info_`. -/
lemma remoteServiceInfo_requestService (cfg : RemoteConfig Address) (s : RemoteClients Address)
    (client : UInt16) (k' : InstanceKey) (version : Version) (useExclusiveProxy : Bool)
    (free : UInt16 → Bool) :
    (s.requestService cfg client k' version useExclusiveProxy free).remoteServiceInfo =
      s.remoteServiceInfo := by
  have hfind (t : RemoteClients Address) (key : RemoteKey) (b : Bool) :
      (t.findOrCreateRemoteClient key b).1.remoteServiceInfo = t.remoteServiceInfo :=
    (@extends_findOrCreateRemoteClient _ t _ key b).remoteServiceInfo
  unfold requestService
  dsimp only
  split_ifs
  all_goals simp only [hfind]

/-- `release_service` leaves `remote_service_info_`. -/
lemma remoteServiceInfo_releaseService (cfg : RemoteConfig Address) (s : RemoteClients Address)
    (client : UInt16) (k' : InstanceKey) :
    (s.releaseService cfg client k').remoteServiceInfo = s.remoteServiceInfo := by
  refine releaseCalls.release_induction (P := fun t => t.remoteServiceInfo = s.remoteServiceInfo) _
    client k' rfl (fun {t} r h => ?_) (fun _ h => h) fun c i r h => ?_
  · exact (cleared_clearClientEndpoints t k' r).remoteServiceInfo.trans h
  · exact (remoteServiceInfo_removeSpecificClientEndpoint ..).trans h

/-- An address in `remote_service_info_` was there before, if the step is not an offer. -/
lemma remoteServiceInfo_of_step (cfg : RemoteConfig Address) {a : RemoteServiceAction Address}
    (ha : ∀ k version offered free, a ≠ .addRoutingInfo k version offered free)
    (h : (s.step cfg a).remoteServiceInfo k reliable = some remote) :
    s.remoteServiceInfo k reliable = some remote := by
  cases a with
  | addRoutingInfo k' version offered free => exact absurd rfl (ha k' version offered free)
  | delRoutingInfo k' hasReliable hasUnreliable => exact remoteServiceInfo_of_delRoutingInfo h
  | requestService client k' version useExclusiveProxy free =>
    exact (congrFun (congrFun (remoteServiceInfo_requestService cfg s client k' version
      useExclusiveProxy free) k) reliable).symm.trans h
  | releaseService client k' =>
    exact (congrFun (congrFun (remoteServiceInfo_releaseService cfg s client k') k)
      reliable).symm.trans h
  | send client k' r free =>
    have hextends := @extends_findOrCreateRemoteClient _ s _
      ⟨k', s.isSpecificEndpointClient client k', r⟩ free
    exact (congrFun (congrFun hextends.remoteServiceInfo k) reliable).symm.trans h

/-- An endpoint is found or created for a legal address, if one can be created. -/
lemma exists_findOrCreateRemoteClient (key : RemoteKey)
    (hinfo : s.remoteServiceInfo key.service key.reliable = some remote)
    (hport : remote.2 ≠ illegalPort) : ∃ p, (s.findOrCreateRemoteClient key true).2 = some p := by
  unfold findOrCreateRemoteClient
  obtain ⟨p, -, hfind⟩ | ⟨-, p, -, -, -, -, hfind⟩ | ⟨-, -, hfind⟩ := @findRemoteClient_cases _ s key
  · exact ⟨p, by rw [hfind]⟩
  · exact ⟨p, by rw [hfind]⟩
  · refine ⟨s.next, ?_⟩
    rw [hfind]
    simp only [createRemoteClient, hinfo]
    rw [if_pos ⟨hport, trivial⟩]

end Addresses

/-- A host with the address 10.0.0.1, without local services. -/
def exampleConfig : RemoteConfig UInt32 where
  requests := ServiceRequests.exampleConfig
  unicast := 0x0A000001
  hasPort := fun _ _ => false

/-- An offer of service 0x1234, instance 1, over TCP. -/
def exampleOffer (address : UInt32) : RemoteServiceAction UInt32 :=
  .addRoutingInfo (0x1234, 1) ⟨1, 0⟩
    (fun reliable => (address, if reliable then 30509 else illegalPort)) fun _ => true

end RemoteClients

/-! ## The last offers -/

/-- The tables, with the addresses of the last offer of every instance, if it was not rejected. -/
structure RemoteOffers (Address : Type) where
  clients : RemoteClients Address
  lastOffer : InstanceKey → Option (Bool → Address × UInt16)

namespace RemoteOffers

variable {Address : Type}

/-- No offer has been received. -/
def init (e : RemoteEndpoint Address) : RemoteOffers Address :=
  ⟨.init e, fun _ => none⟩

/-- A transport and its address are those of the last offer of an instance. -/
def IsOffered (w : RemoteOffers Address) (k : InstanceKey) (reliable : Bool)
    (remote : Address × UInt16) : Prop :=
  ∃ offered, w.lastOffer k = some offered ∧ offered reliable = remote ∧ remote.2 ≠ illegalPort

variable [DecidableEq Address]

/-- A step. An offer of a service with a local service info is rejected. -/
def step (cfg : RemoteConfig Address) (w : RemoteOffers Address) (a : RemoteServiceAction Address) :
    RemoteOffers Address where
  clients := w.clients.step cfg a
  lastOffer :=
    match a with
    | .addRoutingInfo k _ offered _ =>
      if (w.clients.requests.services k).any (·.isLocal) then w.lastOffer
      else update w.lastOffer k (some offered)
    | _ => w.lastOffer

/-- The endpoints follow the offers: the tables agree, and requests are sent to where the last offer says
that the service is. -/
structure Follows (w : RemoteOffers Address) : Prop where
  tables : w.clients.Follows
  lastOffer : ∀ {key free p}, (w.clients.findOrCreateRemoteClient key free).2 = some p →
    w.IsOffered key.service key.reliable
      ((w.clients.findOrCreateRemoteClient key free).1.endpoints p).remote

/-- The condition on a step:
* An offer does not change the address of a transport for which there is an endpoint, and names every
  transport that `remote_service_info_` has, unless the service is a local one and the offer is
  rejected.
* A known service is not lost without a transport while there is an endpoint for it. -/
def Unchanged (w : RemoteOffers Address) : RemoteServiceAction Address → Prop
  | .addRoutingInfo k _ offered _ =>
    (w.clients.requests.services k).any (·.isLocal) = false → w.clients.KeepsAddresses k offered ∧
      ∀ reliable, (offered reliable).2 = illegalPort → w.clients.remoteServiceInfo k reliable = none
  | .delRoutingInfo k hasReliable hasUnreliable =>
    w.clients.KeepsEndpoints k hasReliable hasUnreliable
  | .requestService .. => True
  | .releaseService .. => True
  | .send .. => True

/-- What holds along a good run: the invariant of the tables, and that `remote_service_info_` has
transports and addresses of the last offers only. -/
structure Inv (w : RemoteOffers Address) : Prop where
  tables : w.clients.Inv
  offered : ∀ {k reliable remote}, w.clients.remoteServiceInfo k reliable = some remote →
    w.IsOffered k reliable remote

variable {w : RemoteOffers Address} {k : InstanceKey} {version : Version}
  {offered : Bool → Address × UInt16} {free : UInt16 → Bool}

omit [DecidableEq Address] in
/-- The invariant with the last offers holds at the start. -/
lemma inv_init (e : RemoteEndpoint Address) : (init e).Inv :=
  ⟨RemoteClients.inv_init e, fun h => by cases h⟩

/-- The invariant gives the properties. -/
lemma Inv.follows (hw : w.Inv) : w.Follows :=
  ⟨hw.tables.follows, fun h => hw.offered (hw.tables.follows.requests h)⟩

/-- An offer that names every transport keeps the invariant, unless it changes an address. -/
lemma Inv.addRoutingInfo (hw : w.Inv) (cfg : RemoteConfig Address)
    (h : w.Unchanged (.addRoutingInfo k version offered free)) :
    (w.step cfg (.addRoutingInfo k version offered free)).Inv := by
  have htables : (w.clients.addRoutingInfo cfg k version offered free).Inv :=
    hw.tables.addRoutingInfo cfg fun hl => (h hl).1
  refine ⟨htables, fun {k' reliable remote} hinfo => ?_⟩
  unfold IsOffered step
  dsimp only
  by_cases hlocal : (w.clients.requests.services k).any (·.isLocal) = true
  · have hsame : w.clients.addRoutingInfo cfg k version offered free = w.clients := if_pos hlocal
    rw [if_pos hlocal]
    exact hw.offered (hsame ▸ hinfo)
  rw [if_neg hlocal]
  rw [Bool.not_eq_true] at hlocal
  have hafter : (w.clients.addRoutingInfo cfg k version offered free).remoteServiceInfo =
      w.clients.offeredInfo k offered := RemoteClients.remoteServiceInfo_addRoutingInfo cfg hlocal
  have hinfo' : w.clients.offeredInfo k offered k' reliable = some remote := hafter ▸ hinfo
  unfold RemoteClients.offeredInfo at hinfo'
  by_cases hk : k' = k
  · subst hk
    rw [Function.update_self]
    split_ifs at hinfo' with hport
    · cases hinfo'
      exact ⟨offered, rfl, rfl, hport.2⟩
    · have hnone := (h hlocal).2 reliable (not_not.mp fun hne => hport ⟨rfl, hne⟩)
      rw [hnone] at hinfo'
      cases hinfo'
  · rw [Function.update_of_ne hk]
    rw [if_neg fun h => hk h.1] at hinfo'
    exact hw.offered hinfo'

/-- An offer that leaves out a transport of `remote_service_info_` breaks the properties, because a
request can still be sent to the old address. -/
lemma Inv.not_follows_addRoutingInfo (hw : w.Inv) (cfg : RemoteConfig Address)
    (h : ¬ w.Unchanged (.addRoutingInfo k version offered free)) :
    ¬ (w.step cfg (.addRoutingInfo k version offered free)).Follows := by
  intro hfollows
  obtain ⟨hlocal, hbad⟩ := Classical.not_imp.mp h
  have hkeeps : w.clients.KeepsAddresses k offered := not_not.mp fun hchanged =>
    hw.tables.not_follows_addRoutingInfo cfg hlocal hchanged hfollows.tables
  refine hbad ⟨hkeeps, fun reliable hport => ?_⟩
  by_contra hsome
  obtain ⟨remote, hremote⟩ := Option.ne_none_iff_exists'.mp hsome
  obtain ⟨-, -, -, hlegal⟩ := hw.offered hremote
  have hleft : (w.clients.addRoutingInfo cfg k version offered free).remoteServiceInfo k reliable =
      some remote := by
    rw [RemoteClients.remoteServiceInfo_addRoutingInfo cfg hlocal, RemoteClients.offeredInfo,
      if_neg fun h => h.2 hport]
    exact hremote
  obtain ⟨p, hp⟩ := RemoteClients.exists_findOrCreateRemoteClient
    ⟨k, routingClient, reliable⟩ hleft hlegal
  obtain ⟨offered', hlast, hoffered, hlegal'⟩ := hfollows.lastOffer hp
  have hlast' : (w.step cfg (.addRoutingInfo k version offered free)).lastOffer k = some offered := by
    unfold step
    dsimp only
    rw [hlocal, if_neg (by decide), Function.update_self]
  rw [hlast'] at hlast
  cases hlast
  exact hlegal' (hoffered ▸ hport)

/-- The other steps leave the last offers. -/
lemma Inv.of_tables (hw : w.Inv) (cfg : RemoteConfig Address) {a : RemoteServiceAction Address}
    (ha : ∀ k version offered free, a ≠ .addRoutingInfo k version offered free)
    (htables : (w.clients.step cfg a).Inv) : (w.step cfg a).Inv := by
  have hlast : (w.step cfg a).lastOffer = w.lastOffer := by
    cases a with
    | addRoutingInfo k version offered free => exact absurd rfl (ha k version offered free)
    | _ => rfl
  refine ⟨htables, fun {k reliable remote} hinfo => ?_⟩
  unfold IsOffered
  rw [hlast]
  exact hw.offered (RemoteClients.remoteServiceInfo_of_step cfg ha hinfo)

/-- Every step that meets the condition keeps the invariant. -/
lemma Inv.step (hw : w.Inv) (cfg : RemoteConfig Address) {a : RemoteServiceAction Address}
    (h : w.Unchanged a) : (w.step cfg a).Inv := by
  cases a with
  | addRoutingInfo k version offered free => exact hw.addRoutingInfo cfg h
  | delRoutingInfo k hasReliable hasUnreliable =>
    exact hw.of_tables cfg nofun (hw.tables.delRoutingInfo h)
  | requestService client k version useExclusiveProxy free =>
    exact hw.of_tables cfg nofun
      (hw.tables.requestService cfg client k version useExclusiveProxy free)
  | releaseService client k => exact hw.of_tables cfg nofun (hw.tables.releaseService cfg client k)
  | send client k reliable free =>
    exact hw.of_tables cfg nofun (hw.tables.findOrCreateRemoteClient free
      (RemoteClients.isSpecificEndpointClient_cases client k))

/-- **The endpoints follow the offers along a run** if and only if no offer changes the address of a
service that has an endpoint or leaves out a transport that is known, and no service that has an
endpoint is lost without a transport.

**Proof sketch.** All other steps keep the invariant. After an offer with a changed address the old
endpoint is still entered, after an offer without a known transport a request finds its old address, and
after a loss without a transport the endpoints are entered without an offer, so that the properties fail
at once. -/
theorem follows_along_iff (cfg : RemoteConfig Address) (e : RemoteEndpoint Address)
    (as : List (RemoteServiceAction Address)) :
    Runs.Along (step cfg) (fun w a => (w.step cfg a).Follows) (init e) as ↔
      Runs.Along (step cfg) Unchanged (init e) as := by
  refine @Runs.along_iff _ _ (step cfg) Inv (fun _ _ => True) Unchanged _
    (fun {w a} hw _ hgood => ?_) (fun {w a} hw _ hbad hfollows => hbad ?_) as _ (inv_init e)
    (Runs.along_of_forall fun _ _ => trivial)
  · have hstep := hw.step cfg hgood
    exact ⟨hstep, hstep.follows⟩
  · cases a with
    | addRoutingInfo k version offered free =>
      exact not_not.mp fun h => hw.not_follows_addRoutingInfo cfg h hfollows
    | delRoutingInfo k hasReliable hasUnreliable =>
      exact not_not.mp fun h => RemoteClients.not_follows_delRoutingInfo h hfollows.tables
    | _ => trivial

/-! ## A service that moves, and one that leaves a transport -/

/-- An offer of service 0x1234, instance 1, over both transports. -/
def exampleOfferBoth (address : UInt32) : RemoteServiceAction UInt32 :=
  .addRoutingInfo (0x1234, 1) ⟨1, 0⟩ (fun _ => (address, 30509)) fun _ => true

/-- A client requests a service, which is offered at 10.0.0.2 and later at 10.0.0.3. The endpoint stays
connected to 10.0.0.2. And a service is offered over both transports, and then over TCP only. A request
over UDP is still sent to the old address. -/
theorem not_follows_moved :
    ¬ Runs.Along (step RemoteClients.exampleConfig)
      (fun w a => (w.step RemoteClients.exampleConfig a).Follows) (init ⟨(0, 0), false, true⟩)
      [.requestService 0x101 (0x1234, 1) ⟨1, 0⟩ false fun _ => true,
        RemoteClients.exampleOffer 0x0A000002, RemoteClients.exampleOffer 0x0A000003] ∧
    ¬ Runs.Along (step RemoteClients.exampleConfig)
      (fun w a => (w.step RemoteClients.exampleConfig a).Follows) (init ⟨(0, 0), false, true⟩)
      [exampleOfferBoth 0x0A000002, RemoteClients.exampleOffer 0x0A000002] := by
  refine ⟨fun h => ?_, fun h => ?_⟩
  · obtain ⟨-, -, hmoved, -⟩ := h
    have hconnects := @RemoteClients.Follows.connects _ _ _ hmoved.tables
      ⟨(0x1234, 1), routingClient, true⟩ 0 (by decide)
    exact absurd hconnects (by decide)
  · obtain ⟨-, hleft, -⟩ := h
    obtain ⟨offered, hlast, hoffered, hport⟩ := @Follows.lastOffer _ _ _ hleft
      ⟨(0x1234, 1), routingClient, false⟩ true 0 (by decide)
    cases hlast
    exact hport (hoffered ▸ rfl)

end RemoteOffers

end Vsomeip
