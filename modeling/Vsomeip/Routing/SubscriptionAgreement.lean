import Vsomeip.Routing.InsertSubscription
import Vsomeip.ServiceDiscovery.Subscription

set_option relaxedAutoImplicit false
set_option autoImplicit false

/-!
# Local subscriptions and those of service discovery

A client that subscribes to an eventgroup of a remote service becomes a subscriber of its events in
`routing_manager_impl`, which then lets service discovery subscribe at the remote host: on behalf of
the client if it is a selective one (it has endpoints of its own), and on behalf of
`VSOMEIP_ROUTING_CLIENT` for all other clients together. When a client unsubscribes, service
discovery withdraws the subscription of a selective client, and the common one if no event of the
eventgroup has a subscriber any more.

The two levels come apart when the last ordinary client unsubscribes while a selective one is still
subscribed, because then the events still have a subscriber and the common subscription stays. They
also do when a selective client unsubscribes from one of several events, when more than 16
subscriptions are needed, and when an event was subscribed through an eventgroup that does not list
it. Every other call keeps them in agreement.

The service is a remote one that is available. The runtime is alive. The subscription state, the
sending of current values, the pending subscriptions of the host itself and the multicast endpoints
are left out.

## Main definitions

* `Vsomeip.RemoteSubscriber` — the events of the routing manager and the table of service discovery.
* `Vsomeip.RemoteSubscriber.subscribe`, `Vsomeip.RemoteSubscriber.unsubscribe` — the functions of
  `routing_manager_impl` for a remote service.
* `Vsomeip.RemoteSubscriber.Agrees` — the two levels agree.
* `Vsomeip.RemoteSubscriber.Faithful` — the condition on a call.

## Main results

* `Vsomeip.RemoteSubscriber.agrees_along_iff` — the two levels agree along a run exactly if all of
  its calls meet the condition.
-/

namespace Vsomeip

open Std (TreeMap)
open Sd (SubscribeEnv SubscriptionType RemoteOfferType Subscribed)

/-- `specific_endpoint_clients_`, and the debounce functions of the configured events. -/
structure SubscriberConfig where
  specificEndpointClients : ServiceKey → Finset UInt16
  debounce : ServiceKey → UInt16 → List UInt8 → List UInt8 → Bool

/-- `is_specific_endpoint_client`: the client on whose behalf a subscription is made. -/
def SubscriberConfig.isSpecificEndpointClient (cfg : SubscriberConfig) (service : ServiceKey)
    (client : UInt16) : UInt16 :=
  if client ∈ cfg.specificEndpointClients service then client else Sd.routingClient

/-- The tables of the two levels. -/
structure RemoteSubscriber (Address : Type) where
  registry : EventRegistry
  subscribed : Subscribed Address

/-- The calls of local clients. -/
inductive SubscriptionCall (Address : Type)
  | subscribe (env : SubscribeEnv Address) (service : ServiceKey) (eventgroup : UInt16)
    (major : UInt8) (ttl : UInt32) (event client : UInt16) (subscriptionType : SubscriptionType)
  | unsubscribe (offerType : RemoteOfferType) (service : ServiceKey)
    (eventgroup event client : UInt16)

namespace RemoteSubscriber

variable {Address : Type}

/-- `routing_manager_impl::subscribe` for a remote service. -/
def subscribe (cfg : SubscriberConfig) (s : RemoteSubscriber Address) (env : SubscribeEnv Address)
    (service : ServiceKey) (eventgroup : UInt16) (major : UInt8) (ttl : UInt32)
    (event client : UInt16) (subscriptionType : SubscriptionType) : RemoteSubscriber Address :=
  let subscriber := cfg.isSpecificEndpointClient service client
  let (registry, inserted) := s.registry.insertSubscription (cfg.debounce service event) true service
    eventgroup event client
  { registry := registry
    subscribed :=
      if inserted then
        (s.subscribed.subscribe { env with runtime := true } service.1 service.2 eventgroup major ttl
          subscriber subscriptionType).1
      else s.subscribed }

/-- `routing_manager_impl::unsubscribe` for a remote service. -/
def unsubscribe (cfg : SubscriberConfig) (s : RemoteSubscriber Address) (offerType : RemoteOfferType)
    (service : ServiceKey) (eventgroup event client : UInt16) : RemoteSubscriber Address :=
  let registry := s.registry.removeSubscription service eventgroup event client
  let lastSubscriberRemoved := registry.lastSubscriberRemoved service eventgroup
  let subscriber := cfg.isSpecificEndpointClient service client
  { registry :=
      if lastSubscriberRemoved then registry.unsetAllEventpayloads service eventgroup else registry
    subscribed :=
      if subscriber = Sd.routingClient ∧ ¬ lastSubscriberRemoved then s.subscribed
      else
        (s.subscribed.unsubscribe true offerType service.1 service.2 eventgroup subscriber).1 }

/-- A call. -/
def step (cfg : SubscriberConfig) (s : RemoteSubscriber Address) :
    SubscriptionCall Address → RemoteSubscriber Address
  | .subscribe env service eventgroup major ttl event client subscriptionType =>
    s.subscribe cfg env service eventgroup major ttl event client subscriptionType
  | .unsubscribe offerType service eventgroup event client =>
    s.unsubscribe cfg offerType service eventgroup event client

/-- Some calls have registered and unregistered events, and nobody has subscribed. -/
def init (rs : List RegistryAction) : RemoteSubscriber Address :=
  ⟨(Runs.run EventLedger.step EventLedger.init rs).registry, Subscribed.init⟩

/-- Service discovery holds a subscription of a client. -/
def Holds (s : RemoteSubscriber Address) (service : ServiceKey) (eventgroup client : UInt16) : Prop :=
  client ∈ s.subscribed.clients service.1 service.2 eventgroup

/-- The two levels agree. -/
structure Agrees (cfg : SubscriberConfig) (s : RemoteSubscriber Address) : Prop where
  ordinary : ∀ k g, s.Holds k g Sd.routingClient ↔
    ∃ c, cfg.isSpecificEndpointClient k c = Sd.routingClient ∧ s.registry.IsSubscribed k g c
  selective : ∀ k g c, cfg.isSpecificEndpointClient k c ≠ Sd.routingClient →
    (s.Holds k g c ↔ s.registry.IsSubscribed k g c)

/-- The condition on a call:
* A subscription that service discovery does not have yet is not the seventeenth of its eventgroup.
* When an ordinary client unsubscribes and one was subscribed, then somebody is left on the events
  that the eventgroup lists if and only if an ordinary client is left.
* When a selective client unsubscribes, it is not left on any event. -/
def Faithful (cfg : SubscriberConfig) (s : RemoteSubscriber Address) :
    SubscriptionCall Address → Prop
  | .subscribe _ service eventgroup _ _ _ client _ =>
    s.Holds service eventgroup (cfg.isSpecificEndpointClient service client) ∨
      (s.subscribed.clients service.1 service.2 eventgroup).size < 16
  | .unsubscribe _ service eventgroup event client =>
    if cfg.isSpecificEndpointClient service client = Sd.routingClient then
      (∃ c, cfg.isSpecificEndpointClient service c = Sd.routingClient ∧
        s.registry.IsSubscribed service eventgroup c) →
      ((∃ c, ∃ p ∈ s.registry.findEvents service eventgroup,
          s.registry.Keeps service eventgroup event client p c) ↔
        ∃ c, cfg.isSpecificEndpointClient service c = Sd.routingClient ∧
          ∃ p, s.registry.IsEventOf service eventgroup p ∧
            s.registry.Keeps service eventgroup event client p c)
    else
      ¬ ∃ p, s.registry.IsEventOf service eventgroup p ∧
        s.registry.Keeps service eventgroup event client p client

end RemoteSubscriber

/-! ## The table of service discovery -/

namespace Sd.Subscribed

variable {Address : Type} {t : Subscribed Address} {env : SubscribeEnv Address}
variable {service inst eventgroup client : UInt16}
variable (major : UInt8) (ttl : UInt32) (subscriptionType : SubscriptionType)
  (offerType : RemoteOfferType)

/-- The clients of the service discovery after `subscribe`, if there is room. -/
lemma mem_clients_subscribe (hsize : (t.clients service inst eventgroup).size ≤ 16)
    (hruntime : env.runtime = true)
    (hroom : client ∈ t.clients service inst eventgroup ∨
      (t.clients service inst eventgroup).size < 16) (s i g c : UInt16) :
    c ∈ (t.subscribe env service inst eventgroup major ttl client subscriptionType).1.clients s i g ↔
      c ∈ t.clients s i g ∨ ((s = service ∧ i = inst ∧ g = eventgroup) ∧ c = client) := by
  by_cases hmem : client ∈ t.clients service inst eventgroup
  · rw [subscribe_of_not_subscribes major ttl subscriptionType hsize fun h => h.1 hmem]
    refine (or_iff_left_of_imp ?_).symm
    rintro ⟨⟨rfl, rfl, rfl⟩, rfl⟩
    exact hmem
  · obtain ⟨u, -, heq⟩ := exists_subscribe_eq major ttl subscriptionType
      (⟨hmem, hroom.resolve_left hmem, hruntime⟩ : t.Subscribes env service inst eventgroup client)
    rw [heq, clients_setClients]
    split_ifs with hkey
    · obtain ⟨rfl, rfl, rfl⟩ := hkey
      rw [TreeMap.mem_insert, Std.LawfulEqOrd.compare_eq_iff_eq]
      simp only [true_and]
      tauto
    · tauto

/-- Without room `subscribe` changes nothing. -/
lemma subscribe_of_full (hsize : (t.clients service inst eventgroup).size ≤ 16)
    (hfull : ¬ (t.clients service inst eventgroup).size < 16) :
    (t.subscribe env service inst eventgroup major ttl client subscriptionType).1 = t :=
  subscribe_of_not_subscribes major ttl subscriptionType hsize fun h => hfull h.2.1

/-- There are at most 16 subscriptions. -/
lemma size_subscribe_le (hsize : ∀ s i g, (t.clients s i g).size ≤ 16) (s i g : UInt16) :
    ((t.subscribe env service inst eventgroup major ttl client subscriptionType).1.clients
      s i g).size ≤ 16 := by
  by_cases h : t.Subscribes env service inst eventgroup client
  · obtain ⟨u, -, heq⟩ := exists_subscribe_eq major ttl subscriptionType h
    rw [heq, clients_setClients]
    split_ifs
    · exact Nat.le_trans TreeMap.size_insert_le (Nat.succ_le_of_lt h.2.1)
    · exact hsize s i g
  · rw [subscribe_of_not_subscribes major ttl subscriptionType (hsize service inst eventgroup) h]
    exact hsize s i g

/-- The clients of the service discovery after `unsubscribe`. -/
lemma mem_clients_unsubscribe (s i g c : UInt16) :
    c ∈ (t.unsubscribe true offerType service inst eventgroup client).1.clients s i g ↔
      c ∈ t.clients s i g ∧ ¬ ((s = service ∧ i = inst ∧ g = eventgroup) ∧ c = client) := by
  cases hfound : (t.clients service inst eventgroup)[client]? with
  | none =>
    have heq : (t.unsubscribe true offerType service inst eventgroup client).1 = t := by
      simp only [unsubscribe, hfound, not_true_eq_false, if_false]
    rw [heq]
    refine (and_iff_left_of_imp fun hc => ?_).symm
    rintro ⟨⟨rfl, rfl, rfl⟩, rfl⟩
    rw [TreeMap.mem_iff_isSome_getElem?, hfound] at hc
    cases hc
  | some u =>
    have heq : (t.unsubscribe true offerType service inst eventgroup client).1 =
        t.setClients service inst eventgroup
          ((t.clients service inst eventgroup).erase client) := by
      simp only [unsubscribe, hfound, not_true_eq_false, if_false]
      split <;> rfl
    rw [heq, clients_setClients]
    split_ifs with hkey
    · obtain ⟨rfl, rfl, rfl⟩ := hkey
      rw [TreeMap.mem_erase, ne_eq, Std.LawfulEqOrd.compare_eq_iff_eq]
      simp only [true_and]
      tauto
    · tauto

end Sd.Subscribed

/-! ## Agreement along runs -/

namespace RemoteSubscriber

variable {Address : Type} {cfg : SubscriberConfig} {s : RemoteSubscriber Address}

/-- The invariant: service discovery holds the subscriptions on behalf of the clients that are
subscribed, and no others. -/
structure Inv (cfg : SubscriberConfig) (s : RemoteSubscriber Address) : Prop where
  owned : s.registry.Owned
  size_le : ∀ i j g, (s.subscribed.clients i j g).size ≤ 16
  holds_iff : ∀ k g x, s.Holds k g x ↔
    ∃ c, cfg.isSpecificEndpointClient k c = x ∧ s.registry.IsSubscribed k g c

/-- A selective client stands for itself only. -/
lemma eq_of_isSpecificEndpointClient {k : ServiceKey} {c x : UInt16}
    (h : cfg.isSpecificEndpointClient k c = x) (hx : x ≠ Sd.routingClient) : c = x := by
  unfold SubscriberConfig.isSpecificEndpointClient at h
  split_ifs at h
  · exact h
  · exact absurd h.symm hx

/-- A client that does not use the common endpoints is selective. -/
lemma isSpecificEndpointClient_self {k : ServiceKey} {c : UInt16}
    (h : cfg.isSpecificEndpointClient k c ≠ Sd.routingClient) :
    cfg.isSpecificEndpointClient k c = c :=
  (eq_of_isSpecificEndpointClient rfl h).symm

/-- The invariant gives the agreement. -/
lemma Inv.agrees (hs : Inv cfg s) : Agrees cfg s where
  ordinary k g := hs.holds_iff k g Sd.routingClient
  selective k g c hc := by
    have hself := isSpecificEndpointClient_self hc
    rw [hs.holds_iff]
    constructor
    · rintro ⟨c', hc', hsub⟩
      rw [hself] at hc
      rw [← eq_of_isSpecificEndpointClient hc' hc]
      exact hsub
    · exact fun hsub => ⟨c, hself, hsub⟩

/-- A client that is subscribed, while no subscription on its behalf is held, is a disagreement. -/
lemma not_agrees_of_not_holds {k : ServiceKey} {g c : UInt16} (hsub : s.registry.IsSubscribed k g c)
    (hnot : ¬ s.Holds k g (cfg.isSpecificEndpointClient k c)) : ¬ Agrees cfg s := by
  intro h
  by_cases hc : cfg.isSpecificEndpointClient k c = Sd.routingClient
  · rw [hc] at hnot
    exact hnot ((h.ordinary k g).mpr ⟨c, hc, hsub⟩)
  · rw [isSpecificEndpointClient_self hc] at hnot
    exact hnot ((h.selective k g c hc).mpr hsub)

/-- Equal keys, by their parts. -/
lemma prod_eq_iff {k k' : ServiceKey} {g g' : UInt16} :
    (k.1 = k'.1 ∧ k.2 = k'.2 ∧ g = g') ↔ k = k' ∧ g = g' := by
  rw [Prod.ext_iff, and_assoc]

/-- The calls keep the objects with their owners. -/
lemma owned_step (hs : s.registry.Owned) (a : SubscriptionCall Address) :
    (s.step cfg a).registry.Owned := by
  cases a with
  | subscribe env service eventgroup major ttl event client subscriptionType =>
    exact hs.insertSubscription (cfg.debounce service event) true service eventgroup event client
  | unsubscribe offerType service eventgroup event client =>
    have hremove := hs.removeSubscription service eventgroup event client
    simp only [step, unsubscribe]
    split_ifs
    · exact hremove.unsetAllEventpayloads service eventgroup
    · exact hremove

/-! ### Subscribe -/

section Subscribe

variable {env : SubscribeEnv Address} {service : ServiceKey} {eventgroup event client : UInt16}
  {major : UInt8} {ttl : UInt32} {subscriptionType : SubscriptionType}

/-- Who is subscribed in the registry after `subscribe`. -/
lemma Inv.isSubscribed_subscribe (hs : Inv cfg s) (k : ServiceKey) (g c : UInt16) :
    (s.subscribe cfg env service eventgroup major ttl event client
      subscriptionType).registry.IsSubscribed k g c ↔
    s.registry.IsSubscribed k g c ∨ (k = service ∧ g = eventgroup ∧ c = client) :=
  (hs.owned.insertSubscription_spec (cfg.debounce service event) true).1 k g c

/-- If nothing was inserted, the client is subscribed and service discovery knows it. -/
lemma Inv.holds_of_not_inserted (hs : Inv cfg s)
    (h : (s.registry.insertSubscription (cfg.debounce service event) true service eventgroup event
      client).2 = false) :
    s.Holds service eventgroup (cfg.isSpecificEndpointClient service client) :=
  (hs.holds_iff service eventgroup _).mpr
    ⟨client, rfl, (hs.owned.insertSubscription_spec (cfg.debounce service event) true).2 h⟩

/-- Who is subscribed in the service discovery after `subscribe`. -/
lemma Inv.holds_subscribe (hs : Inv cfg s)
    (hroom : s.Holds service eventgroup (cfg.isSpecificEndpointClient service client) ∨
      (s.subscribed.clients service.1 service.2 eventgroup).size < 16)
    (k : ServiceKey) (g x : UInt16) :
    (s.subscribe cfg env service eventgroup major ttl event client subscriptionType).Holds k g x ↔
    s.Holds k g x ∨ ((k = service ∧ g = eventgroup) ∧
      x = cfg.isSpecificEndpointClient service client) := by
  unfold subscribe Holds
  cases hinserted : (s.registry.insertSubscription (cfg.debounce service event) true service
      eventgroup event client).2 with
  | true =>
    simp only [hinserted, if_true]
    rw [Subscribed.mem_clients_subscribe major ttl subscriptionType (hs.size_le ..) rfl hroom,
      prod_eq_iff]
  | false =>
    simp only [hinserted, Bool.false_eq_true, if_false]
    refine (or_iff_left_of_imp ?_).symm
    rintro ⟨⟨rfl, rfl⟩, rfl⟩
    exact hs.holds_of_not_inserted hinserted

/-- `subscribe` keeps the invariant if there is room. -/
lemma Inv.step_subscribe (hs : Inv cfg s)
    (hroom : s.Holds service eventgroup (cfg.isSpecificEndpointClient service client) ∨
      (s.subscribed.clients service.1 service.2 eventgroup).size < 16) :
    Inv cfg (s.subscribe cfg env service eventgroup major ttl event client subscriptionType) where
  owned := owned_step hs.owned
    (.subscribe env service eventgroup major ttl event client subscriptionType)
  size_le i j g := by
    unfold subscribe
    dsimp only
    split_ifs
    · exact Subscribed.size_subscribe_le major ttl subscriptionType hs.size_le i j g
    · exact hs.size_le i j g
  holds_iff k g x := by
    rw [hs.holds_subscribe hroom, hs.holds_iff]
    simp only [hs.isSubscribed_subscribe]
    constructor
    · rintro (⟨c, hc, hsub⟩ | ⟨⟨rfl, rfl⟩, rfl⟩)
      · exact ⟨c, hc, .inl hsub⟩
      · exact ⟨client, rfl, .inr ⟨rfl, rfl, rfl⟩⟩
    · rintro ⟨c, hc, hsub | ⟨rfl, rfl, rfl⟩⟩
      · exact .inl ⟨c, hc, hsub⟩
      · exact .inr ⟨⟨rfl, rfl⟩, hc.symm⟩

/-- There is no room for the subscription. -/
lemma Inv.not_agrees_subscribe (hs : Inv cfg s)
    (hroom : ¬ (s.Holds service eventgroup (cfg.isSpecificEndpointClient service client) ∨
      (s.subscribed.clients service.1 service.2 eventgroup).size < 16)) :
    ¬ Agrees cfg
      (s.subscribe cfg env service eventgroup major ttl event client subscriptionType) := by
  obtain ⟨hnot, hfull⟩ := not_or.mp hroom
  refine not_agrees_of_not_holds
    ((hs.isSubscribed_subscribe service eventgroup client).mpr (.inr ⟨rfl, rfl, rfl⟩)) ?_
  unfold subscribe Holds
  dsimp only
  split_ifs
  · rw [Subscribed.subscribe_of_full major ttl subscriptionType (hs.size_le ..) hfull]
    exact hnot
  · exact hnot

end Subscribe

/-! ### Unsubscribe -/

section Unsubscribe

variable {offerType : RemoteOfferType} {service : ServiceKey} {eventgroup event client : UInt16}

/-- The client `c` is left on an event when `client` unsubscribes. -/
def Left (s : RemoteSubscriber Address) (service : ServiceKey) (eventgroup event client c : UInt16) :
    Prop :=
  ∃ p, s.registry.IsEventOf service eventgroup p ∧
    s.registry.Keeps service eventgroup event client p c

/-- Somebody is left on the events that the eventgroup lists. -/
def SomeoneLeft (s : RemoteSubscriber Address) (service : ServiceKey)
    (eventgroup event client : UInt16) : Prop :=
  ∃ c, ∃ p ∈ s.registry.findEvents service eventgroup,
    s.registry.Keeps service eventgroup event client p c

/-- A client that is left is subscribed. -/
lemma Left.isSubscribed {c : UInt16} (h : s.Left service eventgroup event client c) :
    s.registry.IsSubscribed service eventgroup c := by
  obtain ⟨p, hp, hkeeps⟩ := h
  exact ⟨p, hp, hkeeps.1⟩

/-- Only the client that unsubscribes can lose its subscription. -/
lemma left_of_ne {c : UInt16} (hc : c ≠ client)
    (h : s.registry.IsSubscribed service eventgroup c) :
    s.Left service eventgroup event client c := by
  obtain ⟨p, hp, hmem⟩ := h
  exact ⟨p, hp, hmem, fun h => hc h.1⟩

/-- Who is subscribed in the registry after `unsubscribe`. -/
lemma isSubscribed_unsubscribe (k : ServiceKey) (g c : UInt16) :
    (s.unsubscribe cfg offerType service eventgroup event client).registry.IsSubscribed k g c ↔
      (s.registry.removeSubscription service eventgroup event client).IsSubscribed k g c := by
  simp only [unsubscribe]
  split_ifs
  · rw [EventRegistry.isSubscribed_unsetAllEventpayloads]
  · rfl

/-- Who is left of the eventgroup after `unsubscribe`. -/
lemma isSubscribed_unsubscribe_self (c : UInt16) :
    (s.unsubscribe cfg offerType service eventgroup event client).registry.IsSubscribed service
      eventgroup c ↔ s.Left service eventgroup event client c := by
  rw [isSubscribed_unsubscribe, EventRegistry.isSubscribed_removeSubscription]
  rfl

/-- `unsubscribe` keeps other eventgroups. -/
lemma Inv.isSubscribed_unsubscribe_of_ne (hs : Inv cfg s) {k : ServiceKey} {g : UInt16}
    (hne : ¬ (k = service ∧ g = eventgroup)) (c : UInt16) :
    (s.unsubscribe cfg offerType service eventgroup event client).registry.IsSubscribed k g c ↔
      s.registry.IsSubscribed k g c := by
  rw [isSubscribed_unsubscribe, hs.owned.isSubscribed_removeSubscription_of_ne hne]

/-- The subscription on behalf of the client is withdrawn, unless it is the common one and somebody
is left on the listed events. -/
lemma holds_unsubscribe (k : ServiceKey) (g x : UInt16) :
    (s.unsubscribe cfg offerType service eventgroup event client).Holds k g x ↔
      s.Holds k g x ∧ ¬ ((k = service ∧ g = eventgroup) ∧
        x = cfg.isSpecificEndpointClient service client ∧
        ¬ (x = Sd.routingClient ∧ s.SomeoneLeft service eventgroup event client)) := by
  have hlast := @EventRegistry.lastSubscriberRemoved_removeSubscription s.registry service eventgroup
    event client
  unfold unsubscribe Holds
  dsimp only
  split_ifs with h
  · refine (and_iff_left ?_).symm
    rintro ⟨-, rfl, hnot⟩
    exact hnot ⟨h.1, not_not.mp fun hno => h.2 (hlast.mpr hno)⟩
  · rw [Subscribed.mem_clients_unsubscribe, prod_eq_iff]
    refine and_congr_right fun _ => not_congr (and_congr_right fun _ => ?_)
    refine (and_iff_left_of_imp ?_).symm
    rintro rfl ⟨hrouting, hsome⟩
    exact h ⟨hrouting, fun hl => hlast.mp hl hsome⟩

/-- When an `unsubscribe` is faithful. -/
lemma faithful_unsubscribe_iff :
    s.Faithful cfg (.unsubscribe offerType service eventgroup event client) ↔
    if cfg.isSpecificEndpointClient service client = Sd.routingClient then
      (∃ c, cfg.isSpecificEndpointClient service c = Sd.routingClient ∧
        s.registry.IsSubscribed service eventgroup c) →
      (s.SomeoneLeft service eventgroup event client ↔
        ∃ c, cfg.isSpecificEndpointClient service c = Sd.routingClient ∧
          s.Left service eventgroup event client c)
    else ¬ s.Left service eventgroup event client client :=
  Iff.rfl

/-- For the other subscriptions on the eventgroup nothing changes. -/
lemma Inv.holds_iff_left_of_ne (hs : Inv cfg s) {x : UInt16}
    (hx : x ≠ cfg.isSpecificEndpointClient service client) :
    s.Holds service eventgroup x ↔ ∃ c, cfg.isSpecificEndpointClient service c = x ∧
      s.Left service eventgroup event client c := by
  rw [hs.holds_iff]
  refine exists_congr fun c => and_congr_right fun hc => ⟨left_of_ne ?_, Left.isSubscribed⟩
  rintro rfl
  exact hx hc.symm

/-- What is right after the call, for the subscription on behalf of the client that unsubscribes. -/
lemma Inv.withdrawn_iff (hs : Inv cfg s)
    (hfaithful : s.Faithful cfg (.unsubscribe offerType service eventgroup event client)) :
    (s.Holds service eventgroup (cfg.isSpecificEndpointClient service client) ∧
      cfg.isSpecificEndpointClient service client = Sd.routingClient ∧
      s.SomeoneLeft service eventgroup event client) ↔
    ∃ c, cfg.isSpecificEndpointClient service c = cfg.isSpecificEndpointClient service client ∧
      s.Left service eventgroup event client c := by
  rw [faithful_unsubscribe_iff] at hfaithful
  by_cases hclient : cfg.isSpecificEndpointClient service client = Sd.routingClient
  · rw [if_pos hclient] at hfaithful
    rw [hclient]
    constructor
    · rintro ⟨hholds, -, hsome⟩
      exact (hfaithful ((hs.holds_iff ..).mp hholds)).mp hsome
    · rintro ⟨c, hc, hleft⟩
      have hholds : ∃ c, cfg.isSpecificEndpointClient service c = Sd.routingClient ∧
          s.registry.IsSubscribed service eventgroup c := ⟨c, hc, hleft.isSubscribed⟩
      exact ⟨(hs.holds_iff ..).mpr hholds, rfl, (hfaithful hholds).mpr ⟨c, hc, hleft⟩⟩
  · rw [if_neg hclient] at hfaithful
    refine ⟨fun h => absurd h.2.1 hclient, ?_⟩
    rintro ⟨c, hc, hleft⟩
    have hself := isSpecificEndpointClient_self hclient
    obtain rfl : c = client := (eq_of_isSpecificEndpointClient hc hclient).trans hself
    exact absurd hleft hfaithful

/-- A faithful `unsubscribe` keeps the invariant. -/
lemma Inv.step_unsubscribe (hs : Inv cfg s)
    (hfaithful : s.Faithful cfg (.unsubscribe offerType service eventgroup event client)) :
    Inv cfg (s.unsubscribe cfg offerType service eventgroup event client) where
  owned := owned_step hs.owned (.unsubscribe offerType service eventgroup event client)
  size_le i j g := by
    unfold unsubscribe
    dsimp only
    split_ifs
    · exact hs.size_le i j g
    · exact Nat.le_trans (Subscribed.shrinks_unsubscribe ..).size_le (hs.size_le i j g)
  holds_iff k g x := by
    rw [holds_unsubscribe]
    by_cases hkey : k = service ∧ g = eventgroup
    · obtain ⟨rfl, rfl⟩ := hkey
      simp only [isSubscribed_unsubscribe_self, true_and, and_self]
      by_cases hx : x = cfg.isSpecificEndpointClient k client
      · subst hx
        rw [← hs.withdrawn_iff hfaithful]
        simp only [true_and, not_not]
      · rw [← hs.holds_iff_left_of_ne hx]
        exact and_iff_left fun h => hx h.1
    · simp only [hs.isSubscribed_unsubscribe_of_ne hkey, hkey, false_and, not_false_eq_true, and_true]
      exact hs.holds_iff k g x

/-- **Proof sketch.** A selective client that is left is subscribed and not held. For an ordinary one
the common subscription is held after the call exactly if somebody is left on the listed events. -/
lemma Inv.faithful_of_agrees (hs : Inv cfg s)
    (h : Agrees cfg (s.unsubscribe cfg offerType service eventgroup event client)) :
    s.Faithful cfg (.unsubscribe offerType service eventgroup event client) := by
  rw [faithful_unsubscribe_iff]
  by_cases hclient : cfg.isSpecificEndpointClient service client = Sd.routingClient
  · rw [if_pos hclient]
    intro hbefore
    have hordinary := h.ordinary service eventgroup
    rw [holds_unsubscribe] at hordinary
    simp only [isSubscribed_unsubscribe_self, hclient, true_and, and_self, not_not] at hordinary
    rw [← hordinary]
    exact (and_iff_right ((hs.holds_iff ..).mpr hbefore)).symm
  · rw [if_neg hclient]
    intro hleft
    refine not_agrees_of_not_holds ((isSubscribed_unsubscribe_self client).mpr hleft) ?_ h
    rw [holds_unsubscribe]
    exact fun hholds => hholds.2 ⟨⟨rfl, rfl⟩, rfl, fun hrouting => hclient hrouting.1⟩

end Unsubscribe

/-! ### Runs -/

/-- The invariant holds at the start. -/
lemma inv_init (rs : List RegistryAction) : Inv cfg (init rs : RemoteSubscriber Address) where
  owned := (EventLedger.owned_unsubscribed_run rs).1
  size_le _ _ _ := Nat.zero_le 16
  holds_iff k g x := by
    constructor
    · intro h
      exact absurd h TreeMap.not_mem_emptyc
    · rintro ⟨c, -, p, -, hc⟩
      rw [init, (EventLedger.owned_unsubscribed_run rs).2 p g] at hc
      exact absurd hc (Finset.notMem_empty c)

/-- Along every run of subscribe and unsubscribe calls by any clients, from any registered events,
the local subscriptions and those of service discovery agree after every call if and only if every
call meets the condition. -/
theorem agrees_along_iff (cfg : SubscriberConfig) (rs : List RegistryAction)
    (as : List (SubscriptionCall Address)) :
    Runs.Along (step cfg) (fun s a => Agrees cfg (s.step cfg a)) (init rs) as ↔
      Runs.Along (step cfg) (Faithful cfg) (init rs) as := by
  refine @Runs.along_iff _ _ (step cfg) (Inv cfg) (fun _ _ => True) (Faithful cfg) _
    (fun {s a} hs _ hgood => ?_) (fun {s a} hs _ hbad h => hbad ?_) as _ (inv_init rs)
    (Runs.along_of_forall fun _ _ => trivial)
  · have hstep : Inv cfg (s.step cfg a) := by
      cases a with
      | subscribe env service eventgroup major ttl event client subscriptionType =>
        exact hs.step_subscribe hgood
      | unsubscribe offerType service eventgroup event client => exact hs.step_unsubscribe hgood
    exact ⟨hstep, hstep.agrees⟩
  · cases a with
    | subscribe env service eventgroup major ttl event client subscriptionType =>
      exact not_not.mp fun hroom => hs.not_agrees_subscribe hroom h
    | unsubscribe offerType service eventgroup event client => exact hs.faithful_of_agrees h

/-- Client 0x102 is a selective one. -/
def exampleConfig : SubscriberConfig := ⟨fun _ => {0x102}, fun _ _ _ _ => true⟩

/-- A client subscribes to eventgroup 1 of service 0x1234, instance 1, which has no events yet. -/
def exampleSubscribe (client : UInt16) : SubscriptionCall UInt32 :=
  .subscribe ⟨true, none, none, fun _ => false, .unknown⟩ (0x1234, 1) 1 0 3 anyEvent client
    .reliableAndUnreliable

/-- An ordinary client and a selective one subscribe, and the ordinary one unsubscribes. The
subscription on behalf of the ordinary clients stays. -/
theorem not_agrees_selective_left :
    ¬ ∀ (cfg : SubscriberConfig) (rs : List RegistryAction) (as : List (SubscriptionCall UInt32)),
      Runs.Along (step cfg) (fun s a => Agrees cfg (s.step cfg a)) (init rs) as := by
  intro h
  obtain ⟨-, -, hlast, -⟩ := h exampleConfig [] [exampleSubscribe 0x101, exampleSubscribe 0x102,
    .unsubscribe .unknown (0x1234, 1) 1 anyEvent 0x101]
  have hholds : Sd.routingClient ∈ (Runs.run (step exampleConfig) (init []) [exampleSubscribe 0x101,
      exampleSubscribe 0x102, .unsubscribe .unknown (0x1234, 1) 1 anyEvent 0x101]).subscribed.clients
        0x1234 1 1 := by
    decide
  obtain ⟨c, hordinary, p, hp, hc⟩ := (hlast.ordinary (0x1234, 1) 1).mp hholds
  have hinit : (init [] : RemoteSubscriber UInt32).registry.Owned :=
    (EventLedger.owned_unsubscribed_run []).1
  obtain rfl : p = 0 := by
    refine Nat.lt_one_iff.mp (EventRegistry.Owned.isEventOf_lt ?_ hp)
    exact owned_step (owned_step (owned_step hinit _) _) _
  obtain rfl : c = 0x102 := Finset.mem_singleton.mp hc
  exact absurd hordinary (by decide)

end RemoteSubscriber

end Vsomeip
